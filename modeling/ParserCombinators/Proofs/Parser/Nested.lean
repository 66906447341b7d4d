import ParserCombinators.Proofs.Parser.Rounds

/-!
# Repeating a repetition

A repetition always succeeds, and where it ends a parser that goes on fails. So a repetition of a
repetition makes one round that reads everything and another one that reads nothing, which is its
last. A repetition of a nonempty repetition makes the first of the two only, and a repetition of an
optional parser makes the rounds of the parser and one more without a value. All three answer as the
plain repetition does, and where that ends there is nothing left to repeat.
-/

namespace ParserCombinators.Parser

variable {α β : Type} {p : Parser α} {q : Parser β} {start pos next : Position} {value : α}
  {fuel count : Nat} {rounds : List (α × Position)}

/-- Where the parser succeeds, it stays in its text and goes on, but not beyond the end. -/
structure Advances (p : Parser α) : Prop where
  onward : p.Onward
  index_lt : ∀ pos next, p.Step pos next → pos.index < next.index

section Answers

/-- Mapping leads to the same place. -/
theorem Leads.map (h : p.Leads pos (next.succeed value)) (f : α → β) :
    (p.map f).Leads pos (next.succeed (f value)) := by
  obtain ⟨fuel, hrun⟩ := h
  exact ⟨fuel, by rw [map_transition, hrun]; rfl⟩

/-- Where a mapped parser answers the parser does. -/
theorem Leads.of_map {f : α → β} {state : State β} (h : (p.map f).Leads pos state) :
    ∃ state, p.Leads pos state := by
  obtain ⟨fuel, hrun⟩ := h
  obtain ⟨state, hstate, _⟩ := Run.map_eq_done_iff.1 hrun
  exact ⟨state, fuel, hstate⟩

/-- Where the parser succeeds an optional one has its value. -/
theorem Leads.optional (h : p.Leads pos (next.succeed value)) :
    p.optional.Leads pos (next.succeed (some value)) := by
  obtain ⟨fuel, hrun⟩ := h
  exact ⟨fuel, by rw [optional_transition, hrun]; rfl⟩

/-- Where the parser fails an optional one stays and has no value. -/
theorem Fails.optional (h : p.Fails pos) : p.optional.Leads pos (pos.succeed none) := by
  obtain ⟨failed, e, fuel, hrun⟩ := h
  exact ⟨fuel, by rw [optional_transition, hrun]; rfl⟩

/-- Where a repetition answers its first round does. -/
theorem Leads.first {state : State (List α)} (h : p.many.Leads pos state) :
    ∃ state, p.Leads pos state := by
  obtain ⟨fuel, hrun⟩ := h
  obtain ⟨_, hcollected, _⟩ := Run.map_eq_done_iff.1 hrun
  cases fuel with
  | zero => cases hcollected
  | succ n =>
    obtain ⟨state, hstate, _⟩ := Run.bind_eq_done_iff.1 hcollected
    exact ⟨state, n + 1, hstate⟩

end Answers

/-- The first parser answers only where the second one does, and succeeds at the same place if the
second one succeeds. -/
def Mirrors (q : Parser β) (p : Parser α) : Prop :=
  ∀ pos state, q.Leads pos state → p.Fails pos ∨
    ∃ (next : Position) (value : β) (read : α),
      p.Leads pos (next.succeed read) ∧ state = next.succeed value

section Advancing

/-- Every parser mirrors itself. -/
theorem Mirrors.refl (p : Parser α) : p.Mirrors p := by
  intro pos state h
  cases state with
  | succeed next value => exact .inr ⟨next, value, value, h, rfl⟩
  | fail next e => exact .inl ⟨next, e, h⟩

/-- An optional parser mirrors the parser. -/
theorem optional_mirrors (p : Parser α) : p.optional.Mirrors p := by
  rintro pos state ⟨fuel, hrun⟩
  obtain ⟨answer, hanswer, rfl⟩ := Run.map_eq_done_iff.1 hrun
  cases answer with
  | succeed next read => exact .inr ⟨next, some read, read, ⟨fuel, hanswer⟩, rfl⟩
  | fail next e => exact .inl ⟨next, e, fuel, hanswer⟩

/-- A repetition of a parser that mirrors another one ends after rounds of the other one. -/
theorem Mirrors.exists_rounds (h : q.Mirrors p) (hp : p.Advances) {collected : List β × Position}
    (hrun : q.repeatFrom fuel count start = .done collected) : ∃ rounds, p.Rounds start rounds := by
  induction count generalizing start collected with
  | zero => cases hrun
  | succ count ih =>
    obtain ⟨state, hstate, _⟩ := Run.bind_eq_done_iff.1 hrun
    obtain hfail | ⟨next, value, read, hlead, rfl⟩ := h start state ⟨fuel, hstate⟩
    · exact ⟨[], rounds_nil.2 hfail⟩
    · have hmoved := hp.index_lt start next ⟨read, hlead⟩
      rw [repeatFrom_of_move hstate (Nat.ne_of_gt hmoved)] at hrun
      obtain ⟨_, hlater, _⟩ := Run.map_eq_done_iff.1 hrun
      obtain ⟨rounds, hrounds⟩ := ih hlater
      exact ⟨_, hrounds.cons hlead hmoved⟩

/-- Where a repetition of such a parser answers there are rounds of the other one. -/
theorem Mirrors.rounds_of_many (h : q.Mirrors p) (hp : p.Advances) {state : State (List β)}
    (hlead : q.many.Leads start state) : ∃ rounds, p.Rounds start rounds := by
  obtain ⟨fuel, hrun⟩ := hlead
  obtain ⟨_, hcollected, _⟩ := Run.map_eq_done_iff.1 hrun
  exact h.exists_rounds hp hcollected

/-- Where a nonempty repetition answers there are rounds. -/
theorem rounds_of_many1 (hp : p.Advances) {state : State (List α)}
    (hlead : p.many1.Leads start state) : ∃ rounds, p.Rounds start rounds := by
  obtain ⟨fuel, hrun⟩ := hlead
  obtain ⟨_, hcollected, _⟩ := Run.map_eq_done_iff.1 hrun
  exact (Mirrors.refl p).exists_rounds hp hcollected

/-- A first round of a parser that goes on is followed by rounds from there. -/
theorem Rounds.uncons (h : p.Rounds start ((value, next) :: rounds)) (hp : p.Advances) :
    p.Leads start (next.succeed value) ∧ start.index < next.index ∧ p.Rounds next rounds := by
  obtain ⟨hlead, ⟨hmoved, hrest⟩ | ⟨hstays, _⟩⟩ := rounds_cons.1 h
  · exact ⟨hlead, hmoved, hrest⟩
  · exact absurd hstays (Nat.ne_of_gt (hp.index_lt start next ⟨value, hlead⟩))

/-- Where the rounds of a parser that goes on end, there is none left. -/
theorem Rounds.again (h : p.Rounds start rounds) (hp : p.Advances) :
    p.Rounds (placeAfter start rounds) [] := by
  induction rounds generalizing start with
  | nil => exact h
  | cons round rounds ih => exact ih (h.uncons hp).2.2

/-- Rounds of a parser that goes on do not end behind their start. -/
theorem Rounds.index_le (h : p.Rounds start rounds) (hp : p.Advances) :
    start.index ≤ (placeAfter start rounds).index := by
  induction rounds generalizing start with
  | nil => exact Nat.le_refl _
  | cons round rounds ih =>
    obtain ⟨_, hmoved, hrest⟩ := h.uncons hp
    exact Nat.le_trans (Nat.le_of_lt hmoved) (ih hrest)

/-- If there is a first round, the place where the rounds end is further on. -/
theorem Rounds.index_lt {round : α × Position} (h : p.Rounds start (round :: rounds))
    (hp : p.Advances) : start.index < (placeAfter start (round :: rounds)).index := by
  obtain ⟨_, hmoved, hrest⟩ := h.uncons hp
  exact Nat.lt_of_lt_of_le hmoved (hrest.index_le hp)

end Advancing

section Nesting

/-- A repetition of a repetition makes a round with all values, unless there are none, and a last one
with none. -/
theorem Rounds.many_many (h : p.Rounds start rounds) (hp : p.Advances) :
    (p.many.many.map List.flatten).Leads start
      ((placeAfter start rounds).succeed (rounds.map Prod.fst)) := by
  have hlast : p.many.Rounds (placeAfter start rounds) [([], placeAfter start rounds)] :=
    .single (h.again hp).many rfl
  cases rounds with
  | nil => exact hlast.many.map List.flatten
  | cons round rounds =>
    have hall := (hlast.cons h.many (h.index_lt hp)).many.map List.flatten
    simpa [placeAfter] using hall

/-- A repetition of a nonempty repetition makes a round with all values, unless there are none. -/
theorem Rounds.many_many1 (h : p.Rounds start rounds) (hp : p.Advances) :
    (p.many1.many.map List.flatten).Leads start
      ((placeAfter start rounds).succeed (rounds.map Prod.fst)) := by
  have hnone : p.many1.Rounds (placeAfter start rounds) [] :=
    rounds_nil.2 ⟨_, _, (h.again hp).many1⟩
  cases rounds with
  | nil => exact hnone.many.map List.flatten
  | cons round rounds =>
    have hall := (hnone.cons h.many1 (h.index_lt hp)).many.map List.flatten
    simpa [placeAfter] using hall

/-- The rounds of an optional parser are those of the parser and a last one without a value. -/
theorem Rounds.optional (h : p.Rounds start rounds) (hp : p.Advances) :
    p.optional.Rounds start
      (rounds.map (fun round => (some round.1, round.2)) ++ [(none, placeAfter start rounds)]) := by
  induction rounds generalizing start with
  | nil => exact .single (rounds_nil.1 h).optional rfl
  | cons round rounds ih =>
    obtain ⟨hlead, hmoved, hrest⟩ := h.uncons hp
    exact (ih hrest).cons hlead.optional hmoved

/-- Rounds end where the last of them does. -/
theorem placeAfter_append (start : Position) (rounds : List (α × Position)) (last : α × Position) :
    placeAfter start (rounds ++ [last]) = last.2 := by
  induction rounds generalizing start with
  | nil => rfl
  | cons round rounds ih => exact ih round.2

/-- Without the missing values, a repetition of an optional parser gives all values. -/
theorem Rounds.many_optional (h : p.Rounds start rounds) (hp : p.Advances) :
    (p.optional.many.map (List.filterMap id)).Leads start
      ((placeAfter start rounds).succeed (rounds.map Prod.fst)) := by
  have hall := (h.optional hp).many.map (List.filterMap id)
  rw [placeAfter_append] at hall
  simpa [List.filterMap_append, List.filterMap_map, Function.comp_def] using hall

/-- A parser that leads to the end of all rounds, and answers only where there are any, answers as
the repetition. -/
theorem leads_iff_many (hp : p.Advances) {q : Parser (List α)}
    (hall : ∀ rounds, p.Rounds start rounds →
      q.Leads start ((placeAfter start rounds).succeed (rounds.map Prod.fst)))
    (hrounds : ∀ state, q.Leads start state → ∃ rounds, p.Rounds start rounds)
    (state : State (List α)) : q.Leads start state ↔ p.many.Leads start state := by
  constructor
  · intro h
    obtain ⟨rounds, hmade⟩ := hrounds state h
    rw [h.unique (hall rounds hmade)]
    exact hmade.many
  · intro h
    obtain ⟨rounds, hmade⟩ := (Mirrors.refl p).rounds_of_many hp h
    rw [h.unique hmade.many]
    exact hall rounds hmade

/-- From every start, repeating a repetition and repeating a nonempty repetition answer as the plain
repetition once their lists are joined, and repeating an optional parser does once the missing values
are left out. Where the plain repetition ends, a further one succeeds without values and without
moving. If the parser answers wherever its own successes lead, the plain repetition succeeds. -/
theorem many_collapses (hp : p.Advances) (start : Position) :
    (∀ state, (p.many.many.map List.flatten).Leads start state ↔ p.many.Leads start state) ∧
    (∀ state, (p.many1.many.map List.flatten).Leads start state ↔ p.many.Leads start state) ∧
    (∀ state, (p.optional.many.map (List.filterMap id)).Leads start state ↔
      p.many.Leads start state) ∧
    (∀ (values : List α) (last : Position), p.many.Leads start (last.succeed values) →
      p.many.Leads last (last.succeed [])) ∧
    ((∀ pos, Relation.ReflTransGen p.Step start pos → ∃ state, p.Leads pos state) →
      ∃ values, ∃ last : Position, p.many.Leads start (last.succeed values)) := by
  refine ⟨?_, ?_, ?_, ?_, ?_⟩
  · refine leads_iff_many hp (fun rounds hmade => hmade.many_many hp) fun state h => ?_
    obtain ⟨_, hmany⟩ := h.of_map
    obtain ⟨_, hfirst⟩ := hmany.first
    exact (Mirrors.refl p).rounds_of_many hp hfirst
  · refine leads_iff_many hp (fun rounds hmade => hmade.many_many1 hp) fun state h => ?_
    obtain ⟨_, hmany⟩ := h.of_map
    obtain ⟨_, hfirst⟩ := hmany.first
    exact rounds_of_many1 hp hfirst
  · refine leads_iff_many hp (fun rounds hmade => hmade.many_optional hp) fun state h => ?_
    obtain ⟨_, hmany⟩ := h.of_map
    exact (optional_mirrors p).rounds_of_many hp hmany
  · intro values last h
    obtain ⟨rounds, hmade⟩ := (Mirrors.refl p).rounds_of_many hp h
    have hlast : last = placeAfter start rounds :=
      congrArg State.toPosition (h.unique hmade.many)
    rw [hlast]
    exact (hmade.again hp).many
  · intro hends
    obtain ⟨rounds, hmade⟩ := exists_rounds hp.onward hends
    exact ⟨_, _, hmade.many⟩

/-- Parsers that move on, and forward only, advance. -/
theorem advances_of_moves (hforward : ∀ fuel, p.Forward fuel) (hmoves : ∀ fuel, p.Moves fuel) :
    p.Advances where
  onward := onward_of_forward hforward
  index_lt := by
    rintro pos next ⟨value, fuel, hrun⟩
    exact hmoves fuel pos _ hrun rfl

/-- Two letters of two bytes are read by each of the nested repetitions. -/
theorem many_collapses_accents :
    (literal "é").Advances ∧
    (∀ pos, Relation.ReflTransGen (literal "é").Step ⟨"ééa".toList, 0⟩ pos →
      ∃ state, (literal "é").Leads pos state) ∧
    (literal "é").many.Leads ⟨"ééa".toList, 0⟩
      ((⟨"ééa".toList, 4⟩ : Position).succeed ["é", "é"]) ∧
    ((literal "é").many.many.map List.flatten).Leads ⟨"ééa".toList, 0⟩
      ((⟨"ééa".toList, 4⟩ : Position).succeed ["é", "é"]) ∧
    ((literal "é").many1.many.map List.flatten).Leads ⟨"ééa".toList, 0⟩
      ((⟨"ééa".toList, 4⟩ : Position).succeed ["é", "é"]) ∧
    ((literal "é").optional.many.map (List.filterMap id)).Leads ⟨"ééa".toList, 0⟩
      ((⟨"ééa".toList, 4⟩ : Position).succeed ["é", "é"]) ∧
    (literal "é").many.Leads ⟨"ééa".toList, 4⟩ ((⟨"ééa".toList, 4⟩ : Position).succeed []) := by
  have hp : (literal "é").Advances := advances_of_moves
    (fun fuel start => (forwardFrom_readable start).literal "é")
    (fun fuel => literal_moves (by decide))
  have hfirst : (literal "é").Leads ⟨"ééa".toList, 0⟩
      ((⟨"ééa".toList, 2⟩ : Position).succeed "é") := ⟨0, rfl⟩
  have hsecond : (literal "é").Leads ⟨"ééa".toList, 2⟩
      ((⟨"ééa".toList, 4⟩ : Position).succeed "é") := ⟨0, rfl⟩
  have hthird : (literal "é").Leads ⟨"ééa".toList, 4⟩
      ((⟨"ééa".toList, 4⟩ : Position).fail (Failure.literalMismatch 4 "é" "a")) := ⟨0, rfl⟩
  have hends : ∀ pos, Relation.ReflTransGen (literal "é").Step ⟨"ééa".toList, 0⟩ pos →
      ∃ state, (literal "é").Leads pos state := by
    intro pos hreach
    rcases hreach.cases_head with rfl | ⟨middle, ⟨_, hstep⟩, hreach⟩
    · exact ⟨_, hfirst⟩
    cases hfirst.unique hstep
    rcases hreach.cases_head with rfl | ⟨last, ⟨_, hstep⟩, hreach⟩
    · exact ⟨_, hsecond⟩
    cases hsecond.unique hstep
    rcases hreach.cases_head with rfl | ⟨_, ⟨_, hstep⟩, _⟩
    · exact ⟨_, hthird⟩
    · cases hthird.unique hstep
  obtain ⟨hmany_many, hmany_many1, hoptional, hagain, hsucceeds⟩ :=
    many_collapses hp ⟨"ééa".toList, 0⟩
  obtain ⟨values, last, hlead⟩ := hsucceeds hends
  have hmany : (literal "é").many.Leads ⟨"ééa".toList, 0⟩
      ((⟨"ééa".toList, 4⟩ : Position).succeed ["é", "é"]) := ⟨3, rfl⟩
  cases hmany.unique hlead
  exact ⟨hp, hends, hlead, (hmany_many _).2 hlead, (hmany_many1 _).2 hlead, (hoptional _).2 hlead,
    hagain _ _ hlead⟩

end Nesting

end ParserCombinators.Parser
