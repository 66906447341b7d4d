import ParserCombinators.Parser.Choice
import ParserCombinators.Parser.Repeat

/-!
# What a combination does at one place

A parser is its runs from all places. The run of a combination of parsers follows from those of its
parts: two alternatives answer as the first one unless that fails, a repetition ends with a failure
or with a round that does not move, and a separated repetition repeats its separator with a value
behind it.
-/

namespace ParserCombinators.Parser

variable {α β γ : Type}

/-- At the place the parser fails. -/
def FailsAt (fuel : Nat) (p : Parser α) (pos : Position) : Prop :=
  ∃ (next : Position) (e : Failure), p.transition fuel pos = .done (next.fail e)

/-- Parsers with the same run at a place fail there together. -/
theorem failsAt_congr {fuel : Nat} {p q : Parser α} {pos : Position}
    (h : p.transition fuel pos = q.transition fuel pos) :
    p.FailsAt fuel pos ↔ q.FailsAt fuel pos := by
  rw [FailsAt, FailsAt, h]

/-- Parsers with the same runs are equal. -/
theorem eq_of_transition {p q : Parser α}
    (h : ∀ fuel pos, p.transition fuel pos = q.transition fuel pos) : p = q := by
  obtain ⟨first, _⟩ := p
  obtain ⟨second, _⟩ := q
  obtain rfl : first = second := funext fun fuel => funext fun pos => h fuel pos
  rfl

section Transitions

variable (fuel : Nat) (pos : Position)

theorem map_transition (p : Parser α) (f : α → β) :
    (p.map f).transition fuel pos = (p.transition fuel pos).map (State.map f) := rfl

theorem reword_transition (p : Parser α) (message : Failure → String) :
    (p.reword message).transition fuel pos =
      (p.transition fuel pos).map (State.mapFailure fun e => e.withMessage (message e)) := rfl

theorem chain_transition (p : Parser α) (f : α → Parser β) :
    (p.chain f).transition fuel pos = (p.transition fuel pos).bind fun state =>
      state.andThen fun value next => (f value).transition fuel next := rfl

theorem orElse_transition (p q : Parser α) :
    (p.orElse q).transition fuel pos = (p.transition fuel pos).bind fun first =>
      if first.isError then (q.transition fuel pos).map fun second =>
        if second.isError then first.further second else second
      else .done first := rfl

theorem optional_transition (p : Parser α) :
    p.optional.transition fuel pos = (p.transition fuel pos).map fun state =>
      if state.isError then pos.succeed none else state.map some := rfl

theorem sepBy1_transition (separator : Parser β) (p : Parser α) :
    (sepBy1 separator p).transition fuel pos =
      (separated separator p fuel pos).map fun (values, last) =>
        atLeastOne "sepBy1" values last := rfl

theorem many_transition (p : Parser α) :
    p.many.transition fuel pos =
      (p.repeatFrom fuel fuel pos).map fun (values, last) => last.succeed values := rfl

theorem many1_transition (p : Parser α) :
    p.many1.transition fuel pos =
      (p.repeatFrom fuel fuel pos).map fun (values, last) => atLeastOne "many1" values last := rfl

end Transitions

section Rows

variable {fuel : Nat} {pos next : Position} {e : Failure}

/-- Two parsers in a row, where the first one succeeds. -/
theorem followedBy_of_succeed {p : Parser γ} {value : γ}
    (hp : p.transition fuel pos = .done (next.succeed value)) (q : Parser α) :
    (p.followedBy q).transition fuel pos =
      (q.map fun second => (value, second)).transition fuel next := by
  rw [followedBy_eq_chain, chain_transition, hp]
  rfl

/-- Two parsers in a row, where the first one fails. -/
theorem followedBy_of_fail {p : Parser γ} (hp : p.transition fuel pos = .done (next.fail e))
    (q : Parser α) : (p.followedBy q).transition fuel pos = .done (next.fail e) := by
  rw [followedBy_eq_chain, chain_transition, hp]
  rfl

end Rows

section Alternatives

variable {fuel : Nat} {pos next last : Position} {e f : Failure} {p q : Parser α}
  {ps before after : List (Parser α)}

/-- Of two alternatives the first one answers unless it fails. -/
theorem orElse_of_not_fails (hp : ¬p.FailsAt fuel pos) (q : Parser α) :
    (p.orElse q).transition fuel pos = p.transition fuel pos := by
  rw [orElse_transition]
  cases hrun : p.transition fuel pos with
  | done first =>
    cases first with
    | succeed next value => rfl
    | fail next e => exact absurd ⟨next, e, hrun⟩ hp
  | offBoundary => rfl
  | exhausted => rfl

/-- Behind an alternative that fails the second one is run from the same place. -/
theorem orElse_of_isError {first : State α} (hp : p.transition fuel pos = .done first)
    (hfirst : first.isError = true) (q : Parser α) :
    (p.orElse q).transition fuel pos = (q.transition fuel pos).map fun second =>
      if second.isError then first.further second else second := by
  rw [orElse_transition, hp]
  exact if_pos hfirst

/-- Behind an alternative that fails the second one answers unless it fails, too. -/
theorem orElse_of_fails (hp : p.FailsAt fuel pos) (hq : ¬q.FailsAt fuel pos) :
    (p.orElse q).transition fuel pos = q.transition fuel pos := by
  obtain ⟨next, e, hp⟩ := hp
  rw [orElse_of_isError hp rfl]
  cases hrun : q.transition fuel pos with
  | done second =>
    cases second with
    | succeed last value => rfl
    | fail last f => exact absurd ⟨last, f, hrun⟩ hq
  | offBoundary => rfl
  | exhausted => rfl

/-- Of two alternatives that fail the failed state further on is kept. -/
theorem orElse_of_both_fail (hp : p.transition fuel pos = .done (next.fail e))
    (hq : q.transition fuel pos = .done (last.fail f)) :
    (p.orElse q).transition fuel pos = .done ((next.fail e).further (last.fail f)) := by
  rw [orElse_of_isError hp rfl, hq]
  rfl

/-- A choice is its first alternative, or else a choice of the others. -/
theorem choice_cons (p : Parser α) (hps : ps ≠ []) : choice (p :: ps) = p.orElse (choice ps) := by
  cases ps with
  | nil => exact absurd rfl hps
  | cons _ _ => rfl

/-- A choice has every property of its alternatives that a choice without alternatives has and that
pairing keeps. -/
theorem choice_induction {motive : Parser α → Prop} (hnone : motive (choice []))
    (hpair : ∀ {p q}, motive p → motive q → motive (p.orElse q)) (h : ∀ p ∈ ps, motive p) :
    motive (choice ps) := by
  induction ps with
  | nil => exact hnone
  | cons p rest ih =>
    have hp := h p List.mem_cons_self
    have hlater := ih fun q hq => h q (List.mem_cons_of_mem p hq)
    by_cases hrest : rest = []
    · subst hrest
      exact hp
    · rw [choice_cons p hrest]
      exact hpair hp hlater

/-- Behind alternatives that fail a choice answers as the first one that does not. -/
theorem choice_of_first (hbefore : ∀ q ∈ before, q.FailsAt fuel pos) (hp : ¬p.FailsAt fuel pos) :
    (choice (before ++ p :: after)).transition fuel pos = p.transition fuel pos := by
  induction before with
  | nil =>
    by_cases hafter : after = []
    · subst hafter
      rfl
    · rw [List.nil_append, choice_cons p hafter, orElse_of_not_fails hp]
  | cons q before ih =>
    have hlater := ih fun r hr => hbefore r (List.mem_cons_of_mem q hr)
    have hstays := mt (failsAt_congr hlater).1 hp
    rw [List.cons_append, choice_cons q (by simp),
      orElse_of_fails (hbefore q List.mem_cons_self) hstays, hlater]

end Alternatives

section Rounds

variable {p : Parser α} {fuel : Nat} {pos next : Position} {value : α} {e : Failure}

/-- Where the parser fails a repetition ends. -/
theorem repeatFrom_of_fail (h : p.transition fuel pos = .done (next.fail e)) (rounds : Nat) :
    p.repeatFrom fuel (rounds + 1) pos = .done ([], pos) := by
  rw [repeatFrom, h]
  rfl

/-- A round that does not move is the last one of a repetition. -/
theorem repeatFrom_of_stay (h : p.transition fuel pos = .done (next.succeed value))
    (hstays : next.index = pos.index) (rounds : Nat) :
    p.repeatFrom fuel (rounds + 1) pos = .done ([value], next) := by
  rw [repeatFrom, h]
  exact if_pos hstays

/-- After a round that moves a repetition goes on from there. -/
theorem repeatFrom_of_move (h : p.transition fuel pos = .done (next.succeed value))
    (hmoved : next.index ≠ pos.index) (rounds : Nat) :
    p.repeatFrom fuel (rounds + 1) pos = (p.repeatFrom fuel rounds next).map
      fun (values, last) => (value :: values, last) := by
  rw [repeatFrom, h]
  exact if_neg hmoved

/-- Repeating a separator and a value is repeating the two in a row. -/
theorem separatedFrom_eq_repeatFrom (separator : Parser β) (p : Parser α) (fuel rounds : Nat)
    (pos : Position) :
    separatedFrom separator p fuel rounds pos =
      (separator.skipLeft p).repeatFrom fuel rounds pos := by
  induction rounds generalizing pos with
  | zero => rfl
  | succ rounds ih =>
    rw [separatedFrom, repeatFrom, skipLeft_eq_chain, chain_transition]
    cases separator.transition fuel pos with
    | done afterSeparator =>
      cases afterSeparator with
      | succeed between joint =>
        change (p.transition fuel between).bind _ = (p.transition fuel between).bind _
        cases p.transition fuel between with
        | done state =>
          cases state with
          | succeed next value =>
            change (if next.index = pos.index then _ else _) =
              if next.index = pos.index then _ else _
            rw [ih, skipLeft_eq_chain]
          | fail next e => rfl
        | offBoundary => rfl
        | exhausted => rfl
      | fail next e => rfl
    | offBoundary => rfl
    | exhausted => rfl

end Rounds

end ParserCombinators.Parser
