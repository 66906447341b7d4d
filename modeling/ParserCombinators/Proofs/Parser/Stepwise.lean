import ParserCombinators.Proofs.Parser.Chaining

/-!
# A sequence is its parsers, step by step

A sequence of parsers applies each of them to the state that the one before has left. It succeeds
exactly if all of them do, with one value from each and at the place behind the last, and it fails
exactly if some parser does behind others that succeed, with the state of that parser. So a sequence
can be cut anywhere into two, whose values are appended.
-/

namespace ParserCombinators.Parser

variable {α β : Type}

/-- One after another, each from where the one before has ended, the parsers succeed with the values
and lead from the first place to the second. -/
inductive Stepwise (fuel : Nat) : Position → List (Parser α) → List α → Position → Prop
  | nil {pos : Position} : Stepwise fuel pos [] [] pos
  | cons {pos next last : Position} {p : Parser α} {ps : List (Parser α)} {value : α}
      {values : List α} : p.transition fuel pos = .done (next.succeed value) →
    Stepwise fuel next ps values last → Stepwise fuel pos (p :: ps) (value :: values) last

section Answers

variable {fuel : Nat} {pos last : Position} {e : Failure}

/-- A chain succeeds exactly if both of its parsers do. -/
theorem chain_eq_succeed_iff {p : Parser α} {f : α → Parser β} {result : β} :
    (p.chain f).transition fuel pos = .done (last.succeed result) ↔
      ∃ next value, p.transition fuel pos = .done (next.succeed value) ∧
        (f value).transition fuel next = .done (last.succeed result) := by
  rw [chain_transition, Run.bind_eq_done_iff]
  constructor
  · rintro ⟨state, hp, hf⟩
    cases state with
    | succeed next value => exact ⟨next, value, hp, hf⟩
    | fail next e => cases hf
  · rintro ⟨next, value, hp, hf⟩
    exact ⟨_, hp, hf⟩

/-- A chain fails exactly if its first parser does, or its second one behind the first. -/
theorem chain_eq_fail_iff {p : Parser α} {f : α → Parser β} :
    (p.chain f).transition fuel pos = .done (last.fail e) ↔
      p.transition fuel pos = .done (last.fail e) ∨
        ∃ next value, p.transition fuel pos = .done (next.succeed value) ∧
          (f value).transition fuel next = .done (last.fail e) := by
  rw [chain_transition, Run.bind_eq_done_iff]
  constructor
  · rintro ⟨state, hp, hf⟩
    cases state with
    | succeed next value => exact .inr ⟨next, value, hp, hf⟩
    | fail next f =>
      cases hf
      exact .inl hp
  · rintro (hp | ⟨next, value, hp, hf⟩)
    · exact ⟨_, hp, rfl⟩
    · exact ⟨_, hp, hf⟩

/-- A mapped parser succeeds exactly if the parser does. -/
theorem map_eq_succeed_iff {p : Parser α} {f : α → β} {result : β} :
    (p.map f).transition fuel pos = .done (last.succeed result) ↔
      ∃ value, p.transition fuel pos = .done (last.succeed value) ∧ f value = result := by
  rw [map_eq_chain, chain_eq_succeed_iff]
  constructor
  · rintro ⟨next, value, hp, hf⟩
    cases hf
    exact ⟨value, hp, rfl⟩
  · rintro ⟨value, hp, rfl⟩
    exact ⟨last, value, hp, rfl⟩

/-- A mapped parser fails exactly as the parser does. -/
theorem map_eq_fail_iff {p : Parser α} {f : α → β} :
    (p.map f).transition fuel pos = .done (last.fail e) ↔
      p.transition fuel pos = .done (last.fail e) := by
  rw [map_eq_chain, chain_eq_fail_iff]
  constructor
  · rintro (hp | ⟨next, value, _, hf⟩)
    · exact hp
    · cases hf
  · exact .inl

end Answers

section Sequences

variable {fuel : Nat} {pos last : Position} {p : Parser α} {ps : List (Parser α)} {values : List α}
  {e : Failure}

/-- Steps begin with a step of the first parser. -/
theorem stepwise_cons_iff : Stepwise fuel pos (p :: ps) values last ↔
    ∃ next value rest, p.transition fuel pos = .done (next.succeed value) ∧
      Stepwise fuel next ps rest last ∧ value :: rest = values := by
  constructor
  · intro h
    cases h with
    | cons hp hps => exact ⟨_, _, _, hp, hps, rfl⟩
  · rintro ⟨next, value, rest, hp, hps, rfl⟩
    exact .cons hp hps

/-- There is one step for each parser. -/
theorem Stepwise.length_eq (h : Stepwise fuel pos ps values last) : values.length = ps.length := by
  induction h with
  | nil => rfl
  | cons _ _ ih => rw [List.length_cons, List.length_cons, ih]

/-- The sequence of two lists in a row is a chain of their sequences, with the values appended. -/
theorem sequence_append (ps qs : List (Parser α)) : sequence (ps ++ qs) =
    (sequence ps).chain fun first => (sequence qs).map fun second => first ++ second := by
  induction ps with
  | nil =>
    rw [List.nil_append, sequence, success_chain]
    exact (map_same _).symm
  | cons p ps ih =>
    rw [List.cons_append, sequence_cons, sequence_cons, ih, chain_assoc]
    congr 1
    funext value
    rw [map_chain, chain_map]
    congr 1
    funext first
    rw [map_map]
    rfl

/-- A sequence succeeds exactly with the values and at the place that its steps lead to. -/
theorem sequence_eq_succeed_iff : (sequence ps).transition fuel pos = .done (last.succeed values) ↔
    Stepwise fuel pos ps values last := by
  induction ps generalizing pos values with
  | nil =>
    constructor
    · intro h
      cases h
      exact .nil
    · intro h
      cases h
      rfl
  | cons p ps ih =>
    rw [sequence_cons, chain_eq_succeed_iff, stepwise_cons_iff]
    simp only [map_eq_succeed_iff, ih]
    constructor
    · rintro ⟨next, value, hp, rest, hrest, rfl⟩
      exact ⟨next, value, rest, hp, hrest, rfl⟩
    · rintro ⟨next, value, rest, hp, hrest, rfl⟩
      exact ⟨next, value, hp, rest, hrest, rfl⟩

/-- A sequence fails exactly as a parser of it does where the steps of those before it lead. -/
theorem sequence_eq_fail_iff : (sequence ps).transition fuel pos = .done (last.fail e) ↔
    ∃ before p after values next, ps = before ++ p :: after ∧
      Stepwise fuel pos before values next ∧ p.transition fuel next = .done (last.fail e) := by
  induction ps generalizing pos with
  | nil =>
    constructor
    · intro h
      cases h
    · rintro ⟨before, p, after, _, _, hsplit, _⟩
      simp at hsplit
  | cons p ps ih =>
    rw [sequence_cons, chain_eq_fail_iff]
    simp only [map_eq_fail_iff, ih]
    constructor
    · rintro (hp | ⟨next, value, hp, before, q, after, values, final, rfl, hsteps, hq⟩)
      · exact ⟨[], p, ps, [], pos, rfl, .nil, hp⟩
      · exact ⟨p :: before, q, after, value :: values, final, rfl, .cons hp hsteps, hq⟩
    · rintro ⟨before, q, after, values, final, hsplit, hsteps, hq⟩
      cases hsteps with
      | nil =>
        cases hsplit
        exact .inl hq
      | cons hp hsteps =>
        cases hsplit
        exact .inr ⟨_, _, hp, _, q, after, _, final, rfl, hsteps, hq⟩

/-- From every state with a value, the sequence of two lists answers as the sequences of both in a
row, with their values appended. A sequence succeeds exactly if all its parsers do step by step, with
the values of the steps, one for each parser, at the place behind the last. It fails exactly if some
parser does behind steps of those before it, with the failure and at the place of that parser. -/
theorem sequence_stepwise (ps qs : List (Parser α)) (fuel : Nat) (pos : Position) (value : β) :
    (sequence (ps ++ qs)).apply fuel (pos.succeed value) =
      (((sequence ps).followedBy (sequence qs)).map fun both => both.1 ++ both.2).apply fuel
        (pos.succeed value) ∧
    (∀ (values : List α) (last : Position),
      (sequence ps).apply fuel (pos.succeed value) = .done (last.succeed values) ↔
        Stepwise fuel pos ps values last ∧ values.length = ps.length) ∧
    ∀ (last : Position) (e : Failure),
      (sequence ps).apply fuel (pos.succeed value) = .done (last.fail e) ↔
        ∃ before p after values, ∃ next : Position, ps = before ++ p :: after ∧
          Stepwise fuel pos before values next ∧
          p.apply fuel (next.succeed values) = .done (last.fail e) := by
  refine ⟨?_, fun values last => ?_, fun last e => ?_⟩
  · rw [followedBy_eq_chain, map_chain, sequence_append]
    simp only [map_map]
  · constructor
    · intro h
      have hsteps := sequence_eq_succeed_iff.1 h
      exact ⟨hsteps, hsteps.length_eq⟩
    · rintro ⟨hsteps, _⟩
      exact sequence_eq_succeed_iff.2 hsteps
  · exact sequence_eq_fail_iff

end Sequences

end ParserCombinators.Parser
