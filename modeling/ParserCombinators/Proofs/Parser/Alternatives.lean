import ParserCombinators.Parser.Match
import ParserCombinators.Proofs.Parser.Transition

/-!
# What a choice answers

A choice answers as the first of its alternatives that does not fail. When all of them fail, its
answer is the failed state of the alternative whose failure lies furthest on, and of the last one
among equals. This selection of a failure is associative and changes nothing when all failures are
one, so alternatives can be grouped, and a parser that they all begin with can be taken out, with
the same final state from every start.
-/

namespace ParserCombinators

variable {α β γ δ : Type}

namespace State

variable {pos next last : Position} {e f g : Failure}

/-- Of two failed states the second one is kept unless the first failure lies further on. -/
theorem further_fail : (pos.fail e : State α).further (next.fail f) =
    if e.index ≤ f.index then next.fail f else pos.fail e := rfl

/-- A failed state is as far on as itself. -/
theorem further_self : (pos.fail e : State α).further (pos.fail e) = pos.fail e :=
  ite_self _

/-- The state that is kept of two failed states is failed. -/
theorem isError_further : ((pos.fail e : State α).further (next.fail f)).isError = true := by
  rw [further_fail]
  split
  · rfl
  · rfl

/-- Functions on values do not matter for what is kept of two failed states. -/
theorem map_further (h : α → β) : ((pos.fail e).further (next.fail f)).map h =
    (pos.fail e : State β).further (next.fail f) := by
  rw [further_fail, further_fail]
  split
  · rfl
  · rfl

/-- Of three failed states the same one is kept, whichever two are compared first. -/
theorem further_assoc : ((pos.fail e : State α).further (next.fail f)).further (last.fail g) =
    (pos.fail e).further ((next.fail f).further (last.fail g)) := by
  by_cases hef : e.index ≤ f.index
  · by_cases hfg : f.index ≤ g.index
    · have heg : e.index ≤ g.index := Nat.le_trans hef hfg
      simp only [further_fail, if_pos hef, if_pos hfg, if_pos heg]
    · simp only [further_fail, if_pos hef, if_neg hfg]
  · by_cases hfg : f.index ≤ g.index
    · simp only [further_fail, if_neg hef, if_pos hfg]
    · have heg : ¬e.index ≤ g.index := by omega
      simp only [further_fail, if_neg hef, if_neg hfg, if_neg heg]

end State

namespace Parser

section Pairs

/-- Alternatives may be paired in any way. -/
theorem orElse_assoc (p q r : Parser α) : (p.orElse q).orElse r = p.orElse (q.orElse r) := by
  apply eq_of_transition
  intro fuel pos
  by_cases hp : p.FailsAt fuel pos
  · by_cases hq : q.FailsAt fuel pos
    · obtain ⟨next, e, hp⟩ := hp
      obtain ⟨last, f, hq⟩ := hq
      rw [orElse_of_isError (orElse_of_both_fail hp hq) State.isError_further,
        orElse_of_isError hp rfl, orElse_of_isError hq rfl]
      cases r.transition fuel pos with
      | done third =>
        cases third with
        | succeed final value => rfl
        | fail final g =>
          -- what is kept of the last two is failed, so the first one is compared with it
          change Run.done _ = Run.done (if ((last.fail f).further (final.fail g)).isError then _ else _)
          rw [if_pos State.isError_further]
          exact congrArg Run.done State.further_assoc
      | offBoundary => rfl
      | exhausted => rfl
    · have hpq := orElse_of_fails hp hq
      have hqr := orElse_of_not_fails hq r
      rw [orElse_of_not_fails (mt (failsAt_congr hpq).1 hq), hpq,
        orElse_of_fails hp (mt (failsAt_congr hqr).1 hq), hqr]
  · have hpq := orElse_of_not_fails hp q
    rw [orElse_of_not_fails (mt (failsAt_congr hpq).1 hp), hpq, orElse_of_not_fails hp]

/-- Mapping two alternatives. -/
theorem map_orElse (p q : Parser α) (h : α → β) :
    (p.orElse q).map h = (p.map h).orElse (q.map h) := by
  apply eq_of_transition
  intro fuel pos
  simp only [map_transition, orElse_transition]
  cases p.transition fuel pos with
  | done first =>
    cases first with
    | succeed next value => rfl
    | fail next e =>
      cases q.transition fuel pos with
      | done second =>
        cases second with
        | succeed last value => rfl
        | fail last f => exact congrArg Run.done (State.map_further h)
      | offBoundary => rfl
      | exhausted => rfl
  | offBoundary => rfl
  | exhausted => rfl

/-- A parser that two alternatives begin with can be taken out. -/
theorem followedBy_orElse (p : Parser γ) (q r : Parser α) :
    p.followedBy (q.orElse r) = (p.followedBy q).orElse (p.followedBy r) := by
  apply eq_of_transition
  intro fuel pos
  cases hp : p.transition fuel pos with
  | done state =>
    cases state with
    | succeed next value =>
      rw [followedBy_of_succeed hp, map_orElse, orElse_transition, orElse_transition,
        followedBy_of_succeed hp, followedBy_of_succeed hp]
    | fail next e =>
      rw [followedBy_of_fail hp, orElse_of_both_fail (followedBy_of_fail hp q)
        (followedBy_of_fail hp r), State.further_self]
  | offBoundary => simp only [orElse_transition, followedBy_eq_chain, chain_transition, hp, Run.bind]
  | exhausted => simp only [orElse_transition, followedBy_eq_chain, chain_transition, hp, Run.bind]

end Pairs

section Lists

variable {fuel : Nat} {pos : Position} {p : Parser α} {ps qs : List (Parser α)}

/-- Among the failures at the place of the parsers before, of the parser and of the parsers after, the
one of the parser is furthest on, and the last one there. -/
structure Furthest (fuel : Nat) (pos : Position) (before : List (Parser α)) (p : Parser α)
    (after : List (Parser α)) (next : Position) (e : Failure) : Prop where
  fails : p.transition fuel pos = .done (next.fail e)
  before_le : ∀ q ∈ before, ∀ (last : Position) (f : Failure),
    q.transition fuel pos = .done (last.fail f) → f.index ≤ e.index
  after_lt : ∀ q ∈ after, ∀ (last : Position) (f : Failure),
    q.transition fuel pos = .done (last.fail f) → f.index < e.index

/-- No failure lies further on than the furthest one. -/
theorem Furthest.index_le {before after : List (Parser α)} {next last : Position} {e f : Failure}
    (h : Furthest fuel pos before p after next e) {q : Parser α} (hq : q ∈ before ++ p :: after)
    (hrun : q.transition fuel pos = .done (last.fail f)) : f.index ≤ e.index := by
  obtain hq | rfl | hq : q ∈ before ∨ q = p ∨ q ∈ after := by simpa using hq
  · exact h.before_le q hq last f hrun
  · have hsame := h.fails.symm.trans hrun
    cases hsame
    exact Nat.le_refl _
  · exact Nat.le_of_lt (h.after_lt q hq last f hrun)

/-- A choice of all alternatives of two lists is one between the choices of each. -/
theorem choice_append (hps : ps ≠ []) (hqs : qs ≠ []) :
    choice (ps ++ qs) = (choice ps).orElse (choice qs) := by
  induction ps with
  | nil => exact absurd rfl hps
  | cons p rest ih =>
    by_cases hrest : rest = []
    · subst hrest
      exact choice_cons p hqs
    · rw [List.cons_append, choice_cons p (List.append_ne_nil_of_left_ne_nil hrest qs), ih hrest,
        choice_cons p hrest, orElse_assoc]

/-- A parser that all alternatives begin with can be taken out. -/
theorem choice_map_followedBy (p : Parser γ) (hqs : qs ≠ []) :
    choice (qs.map p.followedBy) = p.followedBy (choice qs) := by
  induction qs with
  | nil => exact absurd rfl hqs
  | cons q rest ih =>
    by_cases hrest : rest = []
    · subst hrest
      rfl
    · rw [List.map_cons, choice_cons _ (mt List.map_eq_nil_iff.1 hrest), ih hrest, choice_cons q hrest,
        followedBy_orElse]

/-- A function on values can be applied to every alternative. -/
theorem map_choice (ps : List (Parser α)) (h : α → β) :
    (choice ps).map h = choice (ps.map fun q => q.map h) := by
  induction ps with
  | nil => rfl
  | cons p rest ih =>
    by_cases hrest : rest = []
    · subst hrest
      rfl
    · rw [List.map_cons, choice_cons _ (mt List.map_eq_nil_iff.1 hrest), ← ih, choice_cons p hrest,
        map_orElse]

/-- Of alternatives that all fail, one has the failure furthest on, and the choice answers with its
state. -/
theorem exists_furthest (hps : ps ≠ []) (hfail : ∀ q ∈ ps, q.FailsAt fuel pos) :
    ∃ (before : List (Parser α)) (p : Parser α) (after : List (Parser α)) (next : Position)
      (e : Failure), ps = before ++ p :: after ∧ Furthest fuel pos before p after next e ∧
      (choice ps).transition fuel pos = .done (next.fail e) := by
  induction ps with
  | nil => exact absurd rfl hps
  | cons p rest ih =>
    obtain ⟨next, e, hp⟩ := hfail p List.mem_cons_self
    by_cases hrest : rest = []
    · subst hrest
      exact ⟨[], p, [], next, e, rfl, ⟨hp, by simp, by simp⟩, hp⟩
    · obtain ⟨before, q, after, last, f, rfl, hq, hchoice⟩ :=
        ih hrest fun q hq => hfail q (List.mem_cons_of_mem p hq)
      have hboth := orElse_of_both_fail hp hchoice
      rw [← choice_cons p hrest, State.further_fail] at hboth
      by_cases hle : e.index ≤ f.index
      · rw [if_pos hle] at hboth
        refine ⟨p :: before, q, after, last, f, rfl, ⟨hq.fails, ?_, hq.after_lt⟩, hboth⟩
        intro r hr final g hrun
        obtain rfl | hr := List.mem_cons.1 hr
        · have hsame := hp.symm.trans hrun
          cases hsame
          exact hle
        · exact hq.before_le r hr final g hrun
      · rw [if_neg hle] at hboth
        refine ⟨[], p, before ++ q :: after, next, e, rfl, ⟨hp, by simp, ?_⟩, hboth⟩
        intro r hr final g hrun
        have := hq.index_le hr hrun
        omega

/-- Alternatives that do not all fail have a first one that does not. -/
theorem exists_first (h : ∃ q ∈ ps, ¬q.FailsAt fuel pos) :
    ∃ before p after, ps = before ++ p :: after ∧ (∀ q ∈ before, q.FailsAt fuel pos) ∧
      ¬p.FailsAt fuel pos := by
  classical
  obtain ⟨q, hq, hstays⟩ := h
  have hsome : (ps.find? fun q => ¬q.FailsAt fuel pos).isSome :=
    List.find?_isSome.2 ⟨q, hq, decide_eq_true hstays⟩
  obtain ⟨p, hfind⟩ := Option.isSome_iff_exists.1 hsome
  obtain ⟨hp, before, after, hsplit, hbefore⟩ := List.find?_eq_some_iff_append.1 hfind
  exact ⟨before, p, after, hsplit, fun r hr => by simpa using hbefore r hr, of_decide_eq_true hp⟩

/-- A choice answers as the first alternative that does not fail, whatever the ones before it read.
When all fail, it answers with the failed state of the furthest failure, which of two equal ones is
the later. Without alternatives it fails where it stands. -/
theorem choice_answers (ps : List (Parser α)) (fuel : Nat) (pos : Position) (value : β) :
    ((∃ before p after, ps = before ++ p :: after ∧ (∀ q ∈ before, q.FailsAt fuel pos) ∧
        ¬p.FailsAt fuel pos ∧
        (choice ps).apply fuel (pos.succeed value) = p.apply fuel (pos.succeed value)) ∨
      ((∀ q ∈ ps, q.FailsAt fuel pos) ∧ ∃ before p after next e, ps = before ++ p :: after ∧
        Furthest fuel pos before p after next e ∧
        (choice ps).apply fuel (pos.succeed value) = .done (next.fail e)) ∨
      (ps = [] ∧ (choice ps).apply fuel (pos.succeed value) =
        .done (pos.fail (Failure.noAlternative pos.index)))) ∧
    ∀ (p q : Parser α) (next last : Position) (e f : Failure), ps = [p, q] →
      p.apply fuel (pos.succeed value) = .done (next.fail e) →
      q.apply fuel (pos.succeed value) = .done (last.fail f) → e.index = f.index →
      (choice ps).apply fuel (pos.succeed value) = .done (last.fail f) := by
  constructor
  · by_cases hfail : ∀ q ∈ ps, q.FailsAt fuel pos
    · by_cases hps : ps = []
      · subst hps
        exact .inr (.inr ⟨rfl, rfl⟩)
      · exact .inr (.inl ⟨hfail, exists_furthest hps hfail⟩)
    · obtain ⟨before, p, after, rfl, hbefore, hp⟩ := exists_first (by simpa using hfail)
      exact .inl ⟨before, p, after, rfl, hbefore, hp, choice_of_first hbefore hp⟩
  · intro p q next last e f hps hp hq hindex
    subst hps
    have hboth := orElse_of_both_fail hp hq
    rwa [State.further_fail, if_pos (Nat.le_of_eq hindex)] at hboth

/-- Alternatives can be grouped, a parser that they all begin with can be taken out, and a function
on values can be applied to each of them, with the same answer from every state. -/
theorem choice_regrouped (hps : ps ≠ []) (hqs : qs ≠ []) (p : Parser γ) (h : α → δ) (fuel : Nat)
    (start : State β) :
    (choice (ps ++ qs)).apply fuel start = (choice [choice ps, choice qs]).apply fuel start ∧
      (choice (qs.map p.followedBy)).apply fuel start =
        (p.followedBy (choice qs)).apply fuel start ∧
      ((choice ps).map h).apply fuel start = (choice (ps.map fun q => q.map h)).apply fuel start := by
  refine ⟨?_, ?_, ?_⟩
  · rw [choice_append hps hqs]
    rfl
  · rw [choice_map_followedBy p hqs]
  · rw [map_choice]

/-- Failures at the same place in two groups, and behind a common start. -/
theorem choice_regrouped_ties :
    [(literal "a").skipLeft (literal "b"), literal "x"] ≠ [] ∧
    [literal "x", (literal "a").skipLeft (literal "c")] ≠ [] ∧
    (choice [choice [(literal "a").skipLeft (literal "b"), literal "x"],
      choice [literal "x", (literal "a").skipLeft (literal "c")]]).apply 0
        (State.initial "ad".toList) =
      .done ((⟨"ad".toList, 1⟩ : Position).fail (Failure.literalMismatch 1 "c" "d")) ∧
    ((literal "a").followedBy
      (choice [literal "x", (literal "a").skipLeft (literal "c")])).apply 0
        (State.initial "aad".toList) =
      .done ((⟨"aad".toList, 2⟩ : Position).fail (Failure.literalMismatch 2 "c" "d")) := by
  have hps : [(literal "a").skipLeft (literal "b"), literal "x"] ≠ [] := by simp
  have hqs : [literal "x", (literal "a").skipLeft (literal "c")] ≠ [] := by simp
  have hgroups := (choice_regrouped hps hqs (literal "a") String.length 0
    (State.initial "ad".toList)).1
  have hfactor := (choice_regrouped hps hqs (literal "a") String.length 0
    (State.initial "aad".toList)).2.1
  exact ⟨hps, hqs, hgroups.symm.trans rfl, hfactor.symm.trans rfl⟩

end Lists

end Parser

end ParserCombinators
