import ParserCombinators.Failure
import ParserCombinators.Text.Basic

/-!
# Positions and states

A position is a text and a byte index into it. A state is a position together with a value or
a failure. The index of a state and the index of its failure are separate numbers. A position
may lie inside a character or past the end of its text; such a position has no remainder.
-/

namespace ParserCombinators

/-- A place in a text. -/
structure Position where
  input : Text
  /-- The number of bytes before the place. -/
  index : Nat
deriving DecidableEq, Repr

/-- A place in a text, with the value found on the way there or the failure met there. -/
structure State (α : Type) extends Position where
  result : Except Failure α

namespace Position

/-- The beginning of a text. -/
def start (input : Text) : Position :=
  ⟨input, 0⟩

/-- The text from the position on, if the position lies between characters. -/
def remainder? (pos : Position) : Option Text :=
  dropBytes? pos.index pos.input

/-- The state that has a value here. -/
def succeed {α : Type} (pos : Position) (value : α) : State α :=
  { pos with result := .ok value }

/-- The state that failed here. -/
def fail {α : Type} (pos : Position) (failure : Failure) : State α :=
  { pos with result := .error failure }

/-- The state that has a value a number of bytes further on. -/
def advance {α : Type} (pos : Position) (bytes : Nat) (value : α) : State α :=
  { pos with index := pos.index + bytes, result := .ok value }

end Position

namespace State

variable {α β : Type}

/-- A state has a value or a failure. -/
@[elab_as_elim, cases_eliminator]
theorem succeed_or_fail {motive : State α → Prop}
    (succeed : ∀ (pos : Position) (value : α), motive (pos.succeed value))
    (fail : ∀ (pos : Position) (failure : Failure), motive (pos.fail failure)) (state : State α) :
    motive state :=
  match state with
  | ⟨pos, .ok value⟩ => succeed pos value
  | ⟨pos, .error failure⟩ => fail pos failure

/-- The state before anything was read. -/
def initial (input : Text) : State Unit :=
  (Position.start input).succeed ()

/-- Whether the state is a failure. -/
def isError (state : State α) : Bool :=
  match state.result with
  | .ok _ => false
  | .error _ => true

/-- Apply a function to the value, if there is one. -/
def map (f : α → β) (state : State α) : State β :=
  { state.toPosition with result := state.result.map f }

/-- Apply a function to the failure, if there is one. -/
def mapFailure (f : Failure → Failure) (state : State α) : State α :=
  { state.toPosition with result := state.result.mapError f }

instance [DecidableEq α] : DecidableEq (State α) := fun s t =>
  match s, t with
  | ⟨p, .ok a⟩, ⟨q, .ok b⟩ =>
    if h : p = q ∧ a = b then isTrue (by rw [h.1, h.2])
    else isFalse (by intro e; cases e; exact h ⟨rfl, rfl⟩)
  | ⟨p, .error e⟩, ⟨q, .error f⟩ =>
    if h : p = q ∧ e = f then isTrue (by rw [h.1, h.2])
    else isFalse (by intro e; cases e; exact h ⟨rfl, rfl⟩)
  | ⟨_, .ok _⟩, ⟨_, .error _⟩ => isFalse (by intro e; cases e)
  | ⟨_, .error _⟩, ⟨_, .ok _⟩ => isFalse (by intro e; cases e)

end State

end ParserCombinators
