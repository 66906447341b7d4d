import ParserCombinators.Run
import ParserCombinators.State

/-!
# Parsers and sequencing

A parser leads from a position to a state. It is given fuel, since it may repeat or recurse,
and carries the proof that more fuel never changes an answer. The combinators of this file
run one parser after another; none of them uses fuel of its own, so equations between them
hold at every amount of fuel.
-/

namespace ParserCombinators

variable {α β γ : Type}

/-- Go on from a state that has a value; a failed state stays as it is. -/
def State.andThen (state : State α) (next : α → Position → Run (State β)) : Run (State β) :=
  match state.result with
  | .ok value => next value state.toPosition
  | .error failure => .done (state.toPosition.fail failure)

/-- The state reached from a position with some fuel. -/
abbrev Transition (α : Type) := Nat → Position → Run (State α)

/-- With at least as much fuel, the second transition gives every answer of the first. -/
def Transition.Le (first second : Transition α) : Prop :=
  ∀ m n pos, m ≤ n → (first m pos).Le (second n pos)

/-- A way to read a value from a position on. -/
structure Parser (α : Type) where
  transition : Transition α
  /-- More fuel keeps every answer. -/
  stable : Transition.Le transition transition

namespace Parser

/-- The second parser gives every answer of the first. -/
def Le (p q : Parser α) : Prop :=
  Transition.Le p.transition q.transition

/-- Every parser gives its own answers. -/
theorem Le.refl (p : Parser α) : p.Le p :=
  p.stable

/-- Giving the answers of another parser is transitive. -/
theorem Le.trans {p q r : Parser α} (hpq : p.Le q) (hqr : q.Le r) : p.Le r :=
  fun m n pos h => (hpq m m pos (Nat.le_refl m)).trans (hqr m n pos h)

/-- Run the parser from a state. A failed state is passed on unread. -/
def apply (p : Parser α) (fuel : Nat) (state : State β) : Run (State α) :=
  state.andThen fun _ pos => p.transition fuel pos

/-- Run the parser from the beginning of a text. -/
def run (p : Parser α) (fuel : Nat) (input : Text) : Run (State α) :=
  p.apply fuel (State.initial input)

/-- A run that goes on from a state keeps its answers when the continuation does. -/
theorem andThen_le {state : State α} {f g : α → Position → Run (State β)}
    (h : ∀ a pos, (f a pos).Le (g a pos)) : (state.andThen f).Le (state.andThen g) := by
  unfold State.andThen
  split
  · exact h _ _
  · exact Run.Le.refl _

/-- The parser that steps in one go. -/
def direct (step : Position → Run (State α)) : Parser α where
  transition _ pos := step pos
  stable _ _ pos _ := Run.Le.refl (step pos)

/-- The parser with a given total step. -/
def ofFunction (step : Position → State α) : Parser α :=
  direct fun pos => .done (step pos)

/-- Succeed with a value and read nothing. -/
def success (value : α) : Parser α :=
  ofFunction fun pos => pos.succeed value

/-- Fail with a message and read nothing. -/
def fail (message : String) : Parser α :=
  ofFunction fun pos => pos.fail (Failure.custom pos.index message)

/-- The parser that never answers. -/
def never : Parser α :=
  direct fun _ => .exhausted

/-- The parser that never answers gives no answer that another would not. -/
theorem never_le (p : Parser α) : (never : Parser α).Le p :=
  fun _ n pos _ => Run.exhausted_le (p.transition n pos)

/-- A parser that is built when it runs. -/
def delay (build : Unit → Parser α) : Parser α where
  transition fuel pos := (build ()).transition fuel pos
  stable := (build ()).stable

/-- Apply a function to the value. -/
def map (p : Parser α) (f : α → β) : Parser β where
  transition fuel pos := (p.transition fuel pos).map (State.map f)
  stable m n pos h := (p.stable m n pos h).map _

/-- Reword the failure; kind and index stay. -/
def reword (p : Parser α) (message : Failure → String) : Parser α where
  transition fuel pos :=
    (p.transition fuel pos).map (State.mapFailure fun e => e.withMessage (message e))
  stable m n pos h := (p.stable m n pos h).map _

/-- Name what the parser looks for; its failures say that this was expected. -/
def label (p : Parser α) (name : String) : Parser α :=
  p.reword fun _ => "expected " ++ name

/-- Choose the next parser by the value read. -/
def chain (p : Parser α) (f : α → Parser β) : Parser β where
  transition fuel pos := (p.transition fuel pos).bind fun state =>
    state.andThen fun value next => (f value).transition fuel next
  stable m n pos h := (p.stable m n pos h).bind fun _ =>
    andThen_le fun value next => (f value).stable m n next h

/-- One parser and then another, with both values. -/
def followedBy (p : Parser α) (q : Parser β) : Parser (α × β) where
  transition fuel pos := (p.transition fuel pos).bind fun state =>
    state.andThen fun first next =>
      (q.transition fuel next).map (State.map fun second => (first, second))
  stable m n pos h := (p.stable m n pos h).bind fun _ =>
    andThen_le fun _ next => (q.stable m n next h).map _

/-- One parser and then another, with the value of the first. -/
def skip (p : Parser α) (q : Parser β) : Parser α :=
  (p.followedBy q).map Prod.fst

/-- One parser and then another, with the value of the second. -/
def skipLeft (p : Parser α) (q : Parser β) : Parser β where
  transition fuel pos := (p.transition fuel pos).bind (q.apply fuel)
  stable m n pos h := (p.stable m n pos h).bind fun _ =>
    andThen_le fun _ next => q.stable m n next h

/-- The content between a left and a right delimiter. -/
def between (left : Parser α) (right : Parser β) (content : Parser γ) : Parser γ :=
  (left.skipLeft content).skip right

/-- One parser and then a list of others, with the list of all values. -/
def prepend (p : Parser α) (rest : Parser (List α)) : Parser (List α) where
  transition fuel pos := (p.transition fuel pos).bind fun state =>
    state.andThen fun value next =>
      (rest.transition fuel next).map (State.map fun values => value :: values)
  stable m n pos h := (p.stable m n pos h).bind fun _ =>
    andThen_le fun _ next => (rest.stable m n next h).map _

/-- All parsers one after another, with the list of their values; the first failure ends it. -/
def sequence : List (Parser α) → Parser (List α)
  | [] => success []
  | p :: rest => p.prepend (sequence rest)

/-- Pairing is a chain whose next parser does not depend on the value. -/
theorem followedBy_eq_chain (p : Parser α) (q : Parser β) :
    p.followedBy q = p.chain fun first => q.map fun second => (first, second) := rfl

/-- Skipping what comes before is a chain. -/
theorem skipLeft_eq_chain (p : Parser α) (q : Parser β) : p.skipLeft q = p.chain fun _ => q := rfl

/-- A sequence is a chain that goes on with the rest of the list. -/
theorem sequence_cons (p : Parser α) (rest : List (Parser α)) :
    sequence (p :: rest) =
      p.chain fun value => (sequence rest).map fun values => value :: values := rfl

end Parser

end ParserCombinators
