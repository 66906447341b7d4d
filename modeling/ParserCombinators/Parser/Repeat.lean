import ParserCombinators.Parser.Basic

/-!
# Repetition

A repetition reads values until its parser fails or reads one without moving on. That last
value is kept, and whatever a failed attempt read is given back. Nothing bounds the number of
rounds of an arbitrary parser, so a repetition may make as many rounds as it has fuel.
-/

namespace ParserCombinators.Parser

variable {α β : Type}

/-- The values read by repeating a parser, and the position after the last of them. -/
def repeatFrom (p : Parser α) (fuel : Nat) : Nat → Position → Run (List α × Position)
  | 0, _ => .exhausted
  | rounds + 1, pos => (p.transition fuel pos).bind fun state =>
      match state.result with
      | .error _ => .done ([], pos)
      | .ok value =>
        if state.index = pos.index then .done ([value], state.toPosition)
        else (repeatFrom p fuel rounds state.toPosition).map
          fun (values, last) => (value :: values, last)

/-- The values read by repeating a separator and a value, and the position after the last
value. A separator that no value follows is given back. -/
def separatedFrom (separator : Parser β) (p : Parser α) (fuel : Nat) :
    Nat → Position → Run (List α × Position)
  | 0, _ => .exhausted
  | rounds + 1, pos => (separator.transition fuel pos).bind fun afterSeparator =>
      match afterSeparator.result with
      | .error _ => .done ([], pos)
      | .ok _ => (p.transition fuel afterSeparator.toPosition).bind fun state =>
          match state.result with
          | .error _ => .done ([], pos)
          | .ok value =>
            if state.index = pos.index then .done ([value], state.toPosition)
            else (separatedFrom separator p fuel rounds state.toPosition).map
              fun (values, last) => (value :: values, last)

/-- More fuel and more rounds keep the answers of a repetition. -/
theorem repeatFrom_le {p q : Parser α} (hpq : p.Le q) {m n j k : Nat} (hfuel : m ≤ n)
    (hrounds : j ≤ k) (pos : Position) :
    (p.repeatFrom m j pos).Le (q.repeatFrom n k pos) := by
  induction j generalizing k pos with
  | zero => exact Run.exhausted_le _
  | succ j ih =>
    obtain ⟨k, rfl⟩ : ∃ i, k = i + 1 := ⟨k - 1, by omega⟩
    refine (hpq m n pos hfuel).bind fun state => ?_
    split
    · exact Run.Le.refl _
    · split
      · exact Run.Le.refl _
      · exact (ih (by omega) _).map _

/-- More fuel and more rounds keep the answers of a separated repetition. -/
theorem separatedFrom_le {s t : Parser β} {p q : Parser α} (hst : s.Le t) (hpq : p.Le q)
    {m n j k : Nat} (hfuel : m ≤ n) (hrounds : j ≤ k) (pos : Position) :
    (separatedFrom s p m j pos).Le (separatedFrom t q n k pos) := by
  induction j generalizing k pos with
  | zero => exact Run.exhausted_le _
  | succ j ih =>
    obtain ⟨k, rfl⟩ : ∃ i, k = i + 1 := ⟨k - 1, by omega⟩
    refine (hst m n pos hfuel).bind fun afterSeparator => ?_
    split
    · exact Run.Le.refl _
    · refine (hpq m n _ hfuel).bind fun state => ?_
      split
      · exact Run.Le.refl _
      · split
        · exact Run.Le.refl _
        · exact (ih (by omega) _).map _

/-- All values that the parser reads one after another, perhaps none. -/
def many (p : Parser α) : Parser (List α) where
  transition fuel pos := (p.repeatFrom fuel fuel pos).map fun (values, last) => last.succeed values
  stable _ _ pos h := (repeatFrom_le p.stable h h pos).map _

/-- The values of a repetition, or the failure of the named combinator if there are none. -/
def atLeastOne (combinator : String) (values : List α) (last : Position) : State (List α) :=
  if values.isEmpty then last.fail (Failure.noMatches last.index combinator)
  else last.succeed values

/-- All values that the parser reads one after another, at least one. -/
def many1 (p : Parser α) : Parser (List α) where
  transition fuel pos := (p.repeatFrom fuel fuel pos).map fun (values, last) =>
    atLeastOne "many1" values last
  stable _ _ pos h := (repeatFrom_le p.stable h h pos).map _

/-- A first value and all that follow a separator, or nothing if there is no first one. -/
def separated (separator : Parser β) (p : Parser α) (fuel : Nat) (pos : Position) :
    Run (List α × Position) :=
  (p.transition fuel pos).bind fun state =>
    match state.result with
    | .error _ => .done ([], pos)
    | .ok value => (separatedFrom separator p fuel fuel state.toPosition).map
        fun (values, last) => (value :: values, last)

/-- More fuel keeps the answers of a separated list. -/
theorem separated_le {s t : Parser β} {p q : Parser α} (hst : s.Le t) (hpq : p.Le q) {m n : Nat}
    (h : m ≤ n) (pos : Position) : (separated s p m pos).Le (separated t q n pos) := by
  refine (hpq m n pos h).bind fun state => ?_
  split
  · exact Run.Le.refl _
  · exact (separatedFrom_le hst hpq h h _).map _

/-- All values with a separator between each two, perhaps none. -/
def sepBy (separator : Parser β) (p : Parser α) : Parser (List α) where
  transition fuel pos := (separated separator p fuel pos).map fun (values, last) =>
    last.succeed values
  stable _ _ pos h := (separated_le separator.stable p.stable h pos).map _

/-- All values with a separator between each two, at least one. -/
def sepBy1 (separator : Parser β) (p : Parser α) : Parser (List α) where
  transition fuel pos := (separated separator p fuel pos).map fun (values, last) =>
    atLeastOne "sepBy1" values last
  stable _ _ pos h := (separated_le separator.stable p.stable h pos).map _

end ParserCombinators.Parser
