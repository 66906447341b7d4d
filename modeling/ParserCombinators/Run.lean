/-!
# Runs with limited fuel

A computation that may repeat or recurse without end is given some fuel. Its answer is final
when it is `done` or `offBoundary`; `exhausted` says that more fuel is needed to know. More
fuel may turn `exhausted` into a final answer and never changes a final one, which is the
order `Run.Le`.
-/

namespace ParserCombinators

/-- What a computation answers after the fuel it was given. -/
inductive Run (α : Type) where
  /-- The computation ended with a value. -/
  | done (value : α)
  /-- The text was asked for at a place that is no character boundary inside it. -/
  | offBoundary
  /-- The fuel did not suffice. -/
  | exhausted
deriving DecidableEq, Repr

namespace Run

variable {α β : Type}

/-- Go on with the value of a computation that ended. -/
def bind : Run α → (α → Run β) → Run β
  | done value, next => next value
  | offBoundary, _ => offBoundary
  | exhausted, _ => exhausted

/-- Apply a function to the value of a computation that ended. -/
def map (f : α → β) : Run α → Run β
  | done value => done (f value)
  | offBoundary => offBoundary
  | exhausted => exhausted

/-- The value of a computation that must end, or a fault when there is none. -/
def ofOption : Option α → Run α
  | some value => done value
  | none => offBoundary

/-- A computation that goes on ends exactly if it does and the rest does behind it. -/
theorem bind_eq_done_iff {run : Run α} {next : α → Run β} {result : β} :
    run.bind next = done result ↔ ∃ value, run = done value ∧ next value = done result := by
  constructor
  · intro h
    cases run with
    | done value => exact ⟨value, rfl, h⟩
    | offBoundary => cases h
    | exhausted => cases h
  · rintro ⟨value, rfl, h⟩
    exact h

/-- Applying a function ends exactly if the computation does, with the function of its value. -/
theorem map_eq_done_iff {run : Run α} {f : α → β} {result : β} :
    run.map f = done result ↔ ∃ value, run = done value ∧ f value = result := by
  cases run with
  | done value => simp [map]
  | offBoundary => simp [map]
  | exhausted => simp [map]

/-- The second run agrees with the first wherever the first has a final answer. -/
def Le (first second : Run α) : Prop :=
  first = exhausted ∨ first = second

/-- Every run agrees with itself. -/
theorem Le.refl (run : Run α) : run.Le run :=
  .inr rfl

/-- Agreement passes along a chain. -/
theorem Le.trans {r s t : Run α} (hrs : r.Le s) (hst : s.Le t) : r.Le t := by
  rcases hrs with rfl | rfl
  · exact .inl rfl
  · exact hst

/-- An exhausted run agrees with every run. -/
theorem exhausted_le (run : Run α) : (exhausted : Run α).Le run :=
  .inl rfl

/-- Runs that agree still agree after going on in ways that agree. -/
theorem Le.bind {r s : Run α} {f g : α → Run β} (hrs : r.Le s) (hfg : ∀ a, (f a).Le (g a)) :
    (r.bind f).Le (s.bind g) := by
  rcases hrs with rfl | rfl
  · exact exhausted_le _
  · cases r with
    | done value => exact hfg value
    | offBoundary => exact Le.refl _
    | exhausted => exact Le.refl _

/-- Runs that agree still agree after applying a function. -/
theorem Le.map {r s : Run α} (f : α → β) (hrs : r.Le s) : (r.map f).Le (s.map f) := by
  rcases hrs with rfl | rfl
  · exact exhausted_le _
  · exact Le.refl _

/-- Where a run has a final answer, a run that agrees with it has the same. -/
theorem Le.eq {r s : Run α} (hrs : r.Le s) (h : r ≠ exhausted) : s = r := by
  rcases hrs with rfl | rfl
  · exact absurd rfl h
  · rfl

end Run

end ParserCombinators
