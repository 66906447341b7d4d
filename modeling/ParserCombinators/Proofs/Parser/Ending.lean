import ParserCombinators.Proofs.Parser.Progress

/-!
# Runs that end

A parser ends at a place if the fuel suffices for its run from there. A combination of parsers
ends if its parts do wherever it runs them. A repetition runs its part at places that follow each
other, and a round that reads nothing is its last, so it needs one round more than there are bytes
left.
-/

namespace ParserCombinators

variable {α β : Type} {fuel : Nat} {pos : Position}

/-- Going on after a run that ends. -/
theorem Run.bind_ne_exhausted {run : Run α} {next : α → Run β} (h : run ≠ .exhausted)
    (hnext : ∀ value, run = .done value → next value ≠ .exhausted) :
    run.bind next ≠ .exhausted := by
  cases run with
  | done value => exact hnext value rfl
  | offBoundary => simp [Run.bind]
  | exhausted => exact absurd rfl h

/-- Applying a function to the value of a run that ends. -/
theorem Run.map_ne_exhausted {run : Run α} {f : α → β} (h : run ≠ .exhausted) :
    run.map f ≠ .exhausted := by
  cases run with
  | done value => simp [Run.map]
  | offBoundary => simp [Run.map]
  | exhausted => exact absurd rfl h

namespace Parser

/-- The fuel suffices for the parser at the place. -/
def EndsAt (fuel : Nat) (p : Parser α) (pos : Position) : Prop :=
  p.transition fuel pos ≠ .exhausted

/-- Looking at the text ends. -/
theorem onRemainder_ends (step : Position → Text → State α) :
    (onRemainder step).EndsAt fuel pos := by
  refine Run.map_ne_exhausted ?_
  cases pos.remainder? with
  | none => simp [Run.ofOption]
  | some text => simp [Run.ofOption]

/-- A parser with a total step ends. -/
theorem ofFunction_ends (step : Position → State α) : (ofFunction step).EndsAt fuel pos := by
  simp [EndsAt, ofFunction, direct]

/-- Mapping ends. -/
theorem EndsAt.map {p : Parser α} (hp : p.EndsAt fuel pos) (f : α → β) :
    (p.map f).EndsAt fuel pos :=
  Run.map_ne_exhausted hp

/-- Rewording ends. -/
theorem EndsAt.reword {p : Parser α} (hp : p.EndsAt fuel pos) (message : Failure → String) :
    (p.reword message).EndsAt fuel pos :=
  Run.map_ne_exhausted hp

/-- A chain ends if its first parser does and the next one does wherever that succeeds. -/
theorem EndsAt.chain {p : Parser α} {f : α → Parser β} (hp : p.EndsAt fuel pos)
    (hf : ∀ value next, p.transition fuel pos = .done (next.succeed value) →
      (f value).EndsAt fuel next) : (p.chain f).EndsAt fuel pos := by
  apply Run.bind_ne_exhausted hp
  intro state hrun
  cases state with
  | succeed next value => exact hf value next hrun
  | fail next e => simp [State.andThen, Position.fail]

/-- Two alternatives end if both do. -/
theorem EndsAt.orElse {p q : Parser α} (hp : p.EndsAt fuel pos) (hq : q.EndsAt fuel pos) :
    (p.orElse q).EndsAt fuel pos := by
  apply Run.bind_ne_exhausted hp
  intro first _
  split
  · exact Run.map_ne_exhausted hq
  · simp

/-- A choice ends if all its alternatives do. -/
theorem choice_ends {ps : List (Parser α)} (h : ∀ p ∈ ps, p.EndsAt fuel pos) :
    (choice ps).EndsAt fuel pos :=
  choice_induction (motive := fun p => p.EndsAt fuel pos) (ofFunction_ends _) EndsAt.orElse h

/-- An optional parser ends if the parser does. -/
theorem EndsAt.optional {p : Parser α} (hp : p.EndsAt fuel pos) :
    p.optional.EndsAt fuel pos :=
  Run.map_ne_exhausted hp

/-- A repetition whose parser ends at all places to come ends within as many rounds as there are
bytes left, and one more. -/
theorem repeatFrom_ends {p : Parser α} (hforward : p.Forward fuel) (rounds : Nat)
    (hp : ∀ next, pos.Follows next → p.EndsAt fuel next)
    (hrounds : byteLength pos.input - pos.index < rounds) :
    p.repeatFrom fuel rounds pos ≠ .exhausted := by
  induction rounds generalizing pos with
  | zero => omega
  | succ rounds ih =>
    apply Run.bind_ne_exhausted (hp pos (Position.Follows.refl pos))
    intro state hrun
    have hfollows := hforward.follows pos state hrun
    cases state with
    | fail next e => simp [Position.fail]
    | succeed next value =>
      change (if next.index = pos.index then _ else _) ≠ _
      split
      · simp
      · next hmoved =>
        have hless := hfollows.remaining_lt hmoved
        exact Run.map_ne_exhausted
          (ih (fun last hlast => hp last (hfollows.trans hlast)) (by omega))

/-- A separated repetition ends likewise. -/
theorem separatedFrom_ends {separator : Parser β} {p : Parser α}
    (hseparator : separator.Forward fuel) (hforward : p.Forward fuel) (rounds : Nat)
    (hends : ∀ next, pos.Follows next → separator.EndsAt fuel next ∧ p.EndsAt fuel next)
    (hrounds : byteLength pos.input - pos.index < rounds) :
    separatedFrom separator p fuel rounds pos ≠ .exhausted := by
  rw [separatedFrom_eq_repeatFrom]
  refine repeatFrom_ends (fun start => (hseparator start).skipLeft (hforward start)) rounds ?_ hrounds
  intro next hnext
  rw [skipLeft_eq_chain]
  refine (hends next hnext).1.chain fun _ last hrun => ?_
  exact (hends last (hnext.trans (hseparator.follows next _ hrun))).2

/-- A separated list ends if its first value does and separators and values end after it. -/
theorem separated_ends {separator : Parser β} {p : Parser α}
    (hseparator : separator.Forward fuel) (hforward : p.Forward fuel) (hp : p.EndsAt fuel pos)
    (hends : ∀ value (first next : Position), p.transition fuel pos = .done (first.succeed value) →
      first.Follows next → separator.EndsAt fuel next ∧ p.EndsAt fuel next)
    (hrounds : byteLength pos.input < fuel) : separated separator p fuel pos ≠ .exhausted := by
  apply Run.bind_ne_exhausted hp
  intro state hrun
  have hinput := (hforward.follows pos state hrun).input
  cases state with
  | fail next e => simp [Position.fail]
  | succeed first value =>
    have hrest : byteLength first.input - first.index < fuel := by
      rw [show first.input = pos.input from hinput]
      omega
    exact Run.map_ne_exhausted (separatedFrom_ends hseparator hforward fuel
      (fun next hnext => hends value first next hrun hnext) hrest)

/-- A repetition ends if its parser does at all places to come. -/
theorem many_ends {p : Parser α} (hforward : p.Forward fuel)
    (hp : ∀ next, pos.Follows next → p.EndsAt fuel next) (hrounds : byteLength pos.input < fuel) :
    p.many.EndsAt fuel pos :=
  Run.map_ne_exhausted (repeatFrom_ends hforward fuel hp (by omega))

/-- A nonempty repetition ends likewise. -/
theorem many1_ends {p : Parser α} (hforward : p.Forward fuel)
    (hp : ∀ next, pos.Follows next → p.EndsAt fuel next) (hrounds : byteLength pos.input < fuel) :
    p.many1.EndsAt fuel pos :=
  Run.map_ne_exhausted (repeatFrom_ends hforward fuel hp (by omega))

/-- Closing a separated list ends. -/
theorem sepBy_ends {separator : Parser β} {p : Parser α}
    (h : separated separator p fuel pos ≠ .exhausted) : (sepBy separator p).EndsAt fuel pos :=
  Run.map_ne_exhausted h

/-- Closing a nonempty separated list ends. -/
theorem sepBy1_ends {separator : Parser β} {p : Parser α}
    (h : separated separator p fuel pos ≠ .exhausted) : (sepBy1 separator p).EndsAt fuel pos :=
  Run.map_ne_exhausted h

end Parser

end ParserCombinators
