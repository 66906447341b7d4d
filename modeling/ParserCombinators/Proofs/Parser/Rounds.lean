import Mathlib.Logic.Relation
import ParserCombinators.Proofs.Parser.Progress

/-!
# The rounds of a repetition

A repetition of a parser makes rounds. Each round reads a value where the one before ended, all
but the last move on, and after the last one the parser fails, or that round has not moved. From
every start there is exactly one list of such rounds, as long as the parser answers wherever its own
successes lead. It has at most one round more than there are bytes left, and the repetition gives
its values at the place where it ends.
-/

namespace ParserCombinators

variable {α β : Type}

namespace Parser

/-- With enough fuel the parser leads from the place to the state. -/
def Leads (p : Parser α) (pos : Position) (state : State α) : Prop :=
  ∃ fuel, p.transition fuel pos = .done state

/-- With enough fuel the parser fails at the place. -/
def Fails (p : Parser α) (pos : Position) : Prop :=
  ∃ (next : Position) (e : Failure), p.Leads pos (next.fail e)

/-- With enough fuel the parser succeeds at the first place and leads to the second. -/
def Step (p : Parser α) (pos next : Position) : Prop :=
  ∃ value, p.Leads pos (next.succeed value)

/-- Where the parser succeeds, it stays in its text and goes neither back nor beyond the end. -/
def Onward (p : Parser α) : Prop :=
  ∀ pos next, p.Step pos next → pos.Follows next

/-- The place where rounds end that begin at a place. Each round is a value with the place after
it. -/
def placeAfter (start : Position) : List (α × Position) → Position
  | [] => start
  | round :: rest => placeAfter round.2 rest

/-- The rounds are those of a repetition of the parser from the start on. -/
structure Rounds (p : Parser α) (start : Position) (rounds : List (α × Position)) : Prop where
  /-- Each round reads its value where the rounds before it end. -/
  reads : ∀ before value next after, rounds = before ++ (value, next) :: after →
    p.Leads (placeAfter start before) (next.succeed value)
  /-- Each round that is not the last moves on. -/
  moves : ∀ before value next after, rounds = before ++ (value, next) :: after → after ≠ [] →
    (placeAfter start before).index < next.index
  /-- Either the last round moves on, too, and the parser fails after it, or there is a last round
  that does not move. -/
  ends : (p.Fails (placeAfter start rounds) ∧ ∀ before value next,
      rounds = before ++ [(value, next)] → (placeAfter start before).index < next.index) ∨
    ∃ before value next, rounds = before ++ [(value, next)] ∧
      next.index = (placeAfter start before).index

section Leading

variable {p : Parser α} {pos : Position} {state other : State α}

/-- All larger amounts of fuel lead to the same state. -/
theorem Leads.exists_fuel (h : p.Leads pos state) :
    ∃ fuel, ∀ more, fuel ≤ more → p.transition more pos = .done state := by
  obtain ⟨fuel, hrun⟩ := h
  refine ⟨fuel, fun more hmore => ?_⟩
  rw [(p.stable fuel more pos hmore).eq (by rw [hrun]; simp), hrun]

/-- A parser leads to one state only. -/
theorem Leads.unique (h : p.Leads pos state) (h' : p.Leads pos other) : state = other := by
  obtain ⟨fuel, hrun⟩ := h.exists_fuel
  obtain ⟨fuel', hrun'⟩ := h'.exists_fuel
  have hsame := (hrun _ (Nat.le_max_left fuel fuel')).symm.trans
    (hrun' _ (Nat.le_max_right fuel fuel'))
  cases hsame
  rfl

/-- Where a parser succeeds it does not fail. -/
theorem Leads.not_fails {next : Position} {value : α} (h : p.Leads pos (next.succeed value)) :
    ¬p.Fails pos := by
  rintro ⟨failed, e, hfail⟩
  have hsame := h.unique hfail
  cases hsame

end Leading

section Lists

variable {p : Parser α} {start next : Position} {value : α} {rest rounds other : List (α × Position)}

/-- No rounds are made exactly where the parser fails. -/
theorem rounds_nil : p.Rounds start [] ↔ p.Fails start := by
  constructor
  · intro h
    rcases h.ends with ⟨hfail, _⟩ | ⟨before, value, next, hsplit, _⟩
    · exact hfail
    · simp at hsplit
  · intro hfail
    exact ⟨by simp, by simp, .inl ⟨hfail, by simp⟩⟩

/-- After a first round that moves on the other rounds are those of a repetition from there. -/
theorem Rounds.tail (h : p.Rounds start ((value, next) :: rest))
    (hmoved : start.index < next.index) : p.Rounds next rest where
  reads before value' next' after hsplit :=
    h.reads ((value, next) :: before) value' next' after (by rw [hsplit]; rfl)
  moves before value' next' after hsplit hafter :=
    h.moves ((value, next) :: before) value' next' after (by rw [hsplit]; rfl) hafter
  ends := by
    rcases h.ends with ⟨hfail, hmoves⟩ | ⟨before, value', next', hsplit, hstays⟩
    · exact .inl ⟨hfail, fun before value' next' hsplit =>
        hmoves ((value, next) :: before) value' next' (by rw [hsplit]; rfl)⟩
    · obtain ⟨rfl, hround⟩ | ⟨before, rfl, hrest⟩ := List.cons_eq_append_iff.1 hsplit
      · cases hround
        exact absurd hstays (Nat.ne_of_gt hmoved)
      · exact .inr ⟨before, value', next', hrest, hstays⟩

/-- A round that moves on can be put in front of the rounds from there. -/
theorem Rounds.cons (hlead : p.Leads start (next.succeed value)) (hmoved : start.index < next.index)
    (h : p.Rounds next rest) : p.Rounds start ((value, next) :: rest) where
  reads before value' next' after hsplit := by
    obtain ⟨rfl, hround⟩ | ⟨before, rfl, hrest⟩ := List.cons_eq_append_iff.1 hsplit
    · cases hround
      exact hlead
    · exact h.reads before value' next' after hrest
  moves before value' next' after hsplit hafter := by
    obtain ⟨rfl, hround⟩ | ⟨before, rfl, hrest⟩ := List.cons_eq_append_iff.1 hsplit
    · cases hround
      exact hmoved
    · exact h.moves before value' next' after hrest hafter
  ends := by
    rcases h.ends with ⟨hfail, hmoves⟩ | ⟨before, value', next', hsplit, hstays⟩
    · refine .inl ⟨hfail, fun before value' next' hsplit => ?_⟩
      obtain ⟨rfl, hround⟩ | ⟨before, rfl, hrest⟩ := List.cons_eq_append_iff.1 hsplit
      · cases hround
        exact hmoved
      · exact hmoves before value' next' hrest
    · exact .inr ⟨(value, next) :: before, value', next', by rw [hsplit]; rfl, hstays⟩

/-- A round that does not move is the only one. -/
theorem Rounds.single (hlead : p.Leads start (next.succeed value))
    (hstays : next.index = start.index) : p.Rounds start [(value, next)] where
  reads before value' next' after hsplit := by
    obtain ⟨rfl, hround⟩ | ⟨_, hnone⟩ := List.append_eq_singleton_iff.1 hsplit.symm
    · cases hround
      exact hlead
    · cases hnone
  moves before value' next' after hsplit hafter := by
    obtain ⟨rfl, hround⟩ | ⟨_, hnone⟩ := List.append_eq_singleton_iff.1 hsplit.symm
    · exact absurd (List.cons.inj hround).2 hafter
    · cases hnone
  ends := .inr ⟨[], value, next, rfl, hstays⟩

/-- A first round reads a value. If it moves on, the other rounds are those from there; otherwise
there are none. -/
theorem rounds_cons : p.Rounds start ((value, next) :: rest) ↔
    p.Leads start (next.succeed value) ∧
      (start.index < next.index ∧ p.Rounds next rest ∨ next.index = start.index ∧ rest = []) := by
  constructor
  · intro h
    refine ⟨h.reads [] value next rest rfl, ?_⟩
    by_cases hrest : rest = []
    · subst hrest
      rcases h.ends with ⟨_, hmoves⟩ | ⟨before, value', next', hsplit, hstays⟩
      · have hmoved := hmoves [] value next rfl
        exact .inl ⟨hmoved, h.tail hmoved⟩
      · obtain ⟨rfl, hround⟩ | ⟨before, rfl, hnone⟩ := List.cons_eq_append_iff.1 hsplit
        · cases hround
          exact .inr ⟨hstays, rfl⟩
        · simp at hnone
    · have hmoved := h.moves [] value next rest rfl hrest
      exact .inl ⟨hmoved, h.tail hmoved⟩
  · rintro ⟨hlead, ⟨hmoved, hrest⟩ | ⟨hstays, rfl⟩⟩
    · exact hrest.cons hlead hmoved
    · exact .single hlead hstays

/-- There is only one list of rounds from a start. -/
theorem Rounds.unique (h : p.Rounds start rounds) (h' : p.Rounds start other) : rounds = other := by
  induction rounds generalizing start other with
  | nil =>
    cases other with
    | nil => rfl
    | cons round rest =>
      exact absurd (rounds_nil.1 h) (rounds_cons.1 h').1.not_fails
  | cons round rest ih =>
    obtain ⟨hlead, hrest⟩ := rounds_cons.1 h
    cases other with
    | nil => exact absurd (rounds_nil.1 h') hlead.not_fails
    | cons round' rest' =>
      obtain ⟨hlead', hrest'⟩ := rounds_cons.1 h'
      obtain ⟨value, next⟩ := round
      obtain ⟨value', next'⟩ := round'
      have hround := hlead.unique hlead'
      cases hround
      rcases hrest with ⟨hmoved, hrest⟩ | ⟨hstays, rfl⟩
      · rcases hrest' with ⟨_, hrest'⟩ | ⟨hstays, _⟩
        · rw [ih hrest hrest']
        · exact absurd hstays (Nat.ne_of_gt hmoved)
      · rcases hrest' with ⟨hmoved, _⟩ | ⟨_, rfl⟩
        · exact absurd hstays (Nat.ne_of_gt hmoved)
        · rfl

/-- There are rounds from every start if the parser answers wherever its successes lead. -/
theorem exists_rounds (hp : p.Onward)
    (hends : ∀ pos, Relation.ReflTransGen p.Step start pos → ∃ state, p.Leads pos state) :
    ∃ rounds, p.Rounds start rounds := by
  -- a round that moves on leaves fewer bytes
  induction hleft : byteLength start.input - start.index using Nat.strongRecOn
    generalizing start with
  | ind left ih =>
    obtain ⟨state, hlead⟩ := hends start .refl
    cases state with
    | fail failed e => exact ⟨[], rounds_nil.2 ⟨failed, e, hlead⟩⟩
    | succeed next value =>
      have hfollows := hp start next ⟨value, hlead⟩
      by_cases hstays : next.index = start.index
      · exact ⟨_, .single hlead hstays⟩
      · have hless := hfollows.remaining_lt hstays
        obtain ⟨rest, hrest⟩ := ih _ (hleft ▸ hless)
          (fun pos hreach => hends pos (.head ⟨value, hlead⟩ hreach)) rfl
        have hmoved := Nat.lt_of_le_of_ne hfollows.index_le (Ne.symm hstays)
        exact ⟨_, hrest.cons hlead hmoved⟩

/-- There is at most one round more than there are bytes left. -/
theorem Rounds.length_le (h : p.Rounds start rounds) (hp : p.Onward) :
    rounds.length ≤ byteLength start.input - start.index + 1 := by
  induction rounds generalizing start with
  | nil => exact Nat.zero_le _
  | cons round rest ih =>
    obtain ⟨hlead, ⟨hmoved, hrest⟩ | ⟨_, rfl⟩⟩ := rounds_cons.1 h
    · have hless := (hp start round.2 ⟨round.1, hlead⟩).remaining_lt (Nat.ne_of_gt hmoved)
      have hlater := ih hrest
      rw [List.length_cons]
      omega
    · exact Nat.le_add_left 1 _

/-- With enough fuel, and for one round more than there are, the repetition gives the values of the
rounds and the place where they end. -/
theorem Rounds.repeatFrom (h : p.Rounds start rounds) :
    ∃ fuel, ∀ more count, fuel ≤ more → rounds.length < count →
      p.repeatFrom more count start = .done (rounds.map Prod.fst, placeAfter start rounds) := by
  induction rounds generalizing start with
  | nil =>
    obtain ⟨failed, e, hfail⟩ := rounds_nil.1 h
    obtain ⟨fuel, hrun⟩ := hfail.exists_fuel
    refine ⟨fuel, fun more count hmore hcount => ?_⟩
    obtain ⟨n, rfl⟩ : ∃ n, count = n + 1 := Nat.exists_eq_add_one.2 (Nat.zero_lt_of_lt hcount)
    exact repeatFrom_of_fail (hrun more hmore) n
  | cons round rest ih =>
    obtain ⟨hlead, hrest⟩ := rounds_cons.1 h
    obtain ⟨fuel, hrun⟩ := hlead.exists_fuel
    rcases hrest with ⟨hmoved, hrest⟩ | ⟨hstays, rfl⟩
    · obtain ⟨fuel', hlater⟩ := ih hrest
      refine ⟨max fuel fuel', fun more count hmore hcount => ?_⟩
      obtain ⟨n, rfl⟩ : ∃ n, count = n + 1 := Nat.exists_eq_add_one.2 (Nat.zero_lt_of_lt hcount)
      rw [repeatFrom_of_move (hrun more (by omega)) (Nat.ne_of_gt hmoved),
        hlater more n (by omega) (Nat.lt_of_succ_lt_succ hcount)]
      rfl
    · refine ⟨fuel, fun more count hmore hcount => ?_⟩
      obtain ⟨n, rfl⟩ : ∃ n, count = n + 1 := Nat.exists_eq_add_one.2 (Nat.zero_lt_of_lt hcount)
      exact repeatFrom_of_stay (hrun more hmore) hstays n

/-- A repetition gives the values of its rounds at the place where they end. -/
theorem Rounds.many (h : p.Rounds start rounds) :
    p.many.Leads start ((placeAfter start rounds).succeed (rounds.map Prod.fst)) := by
  obtain ⟨fuel, hrun⟩ := h.repeatFrom
  refine ⟨max fuel (rounds.length + 1), ?_⟩
  rw [many_transition, hrun _ _ (Nat.le_max_left _ _) (Nat.le_max_right _ _)]
  rfl

/-- A nonempty repetition closes the same list. -/
theorem Rounds.many1 (h : p.Rounds start rounds) : p.many1.Leads start
    (atLeastOne "many1" (rounds.map Prod.fst) (placeAfter start rounds)) := by
  obtain ⟨fuel, hrun⟩ := h.repeatFrom
  refine ⟨max fuel (rounds.length + 1), ?_⟩
  rw [many1_transition, hrun _ _ (Nat.le_max_left _ _) (Nat.le_max_right _ _)]
  rfl

/-- From every start there is one list of rounds. It has at most one round more than there are bytes
left, and a repetition gives its values at the place where it ends and never fails. A nonempty
repetition does the same where the parser succeeds, and fails at the start where the parser fails. -/
theorem many_rounds (hp : p.Onward) (start : Position)
    (hends : ∀ pos, Relation.ReflTransGen p.Step start pos → ∃ state, p.Leads pos state) :
    (∃! rounds, p.Rounds start rounds) ∧ ∀ rounds, p.Rounds start rounds →
      rounds.length ≤ byteLength start.input - start.index + 1 ∧
      p.many.Leads start ((placeAfter start rounds).succeed (rounds.map Prod.fst)) ∧
      ((∃ next, p.Step start next) →
        p.many1.Leads start ((placeAfter start rounds).succeed (rounds.map Prod.fst))) ∧
      (p.Fails start → p.many1.Leads start (start.fail (Failure.noMatches start.index "many1"))) ∧
      ¬p.many.Fails start ∧ (p.many1.Fails start ↔ p.Fails start) := by
  constructor
  · obtain ⟨rounds, hrounds⟩ := exists_rounds hp hends
    exact ⟨rounds, hrounds, fun other hother => hother.unique hrounds⟩
  · intro rounds h
    refine ⟨h.length_le hp, h.many, ?_⟩
    have hmany1 := h.many1
    cases rounds with
    | nil =>
      have hfail := rounds_nil.1 h
      refine ⟨?_, fun _ => hmany1, h.many.not_fails, fun _ => hfail, fun _ => ⟨_, _, hmany1⟩⟩
      rintro ⟨next, value, hlead⟩
      exact absurd hfail hlead.not_fails
    | cons round rest =>
      have hstays : ¬p.Fails start := (rounds_cons.1 h).1.not_fails
      refine ⟨fun _ => hmany1, fun hfail => absurd hfail hstays, h.many.not_fails, ?_⟩
      exact ⟨fun hfail => absurd hfail (Leads.not_fails hmany1), fun hfail => absurd hfail hstays⟩

/-- Parsers that lead only to places that follow their start go onward. -/
theorem onward_of_forward (h : ∀ fuel, p.Forward fuel) : p.Onward := by
  rintro pos next ⟨value, fuel, hrun⟩
  exact (h fuel).follows pos _ hrun

/-- Letters of two bytes, with a last round that reads nothing. -/
theorem many_rounds_accents :
    (literal "é").optional.Onward ∧
    (∀ pos, Relation.ReflTransGen (literal "é").optional.Step ⟨"ééa".toList, 0⟩ pos →
      ∃ state, (literal "é").optional.Leads pos state) ∧
    (literal "é").optional.many.Leads ⟨"ééa".toList, 0⟩
      ((⟨"ééa".toList, 4⟩ : Position).succeed [some "é", some "é", none]) := by
  have hfirst : (literal "é").optional.Leads ⟨"ééa".toList, 0⟩
      ((⟨"ééa".toList, 2⟩ : Position).succeed (some "é")) := ⟨0, rfl⟩
  have hsecond : (literal "é").optional.Leads ⟨"ééa".toList, 2⟩
      ((⟨"ééa".toList, 4⟩ : Position).succeed (some "é")) := ⟨0, rfl⟩
  have hthird : (literal "é").optional.Leads ⟨"ééa".toList, 4⟩
      ((⟨"ééa".toList, 4⟩ : Position).succeed none) := ⟨0, rfl⟩
  have hrounds : (literal "é").optional.Rounds ⟨"ééa".toList, 0⟩ _ :=
    ((Rounds.single hthird rfl).cons hsecond (by decide)).cons hfirst (by decide)
  have hp : (literal "é").optional.Onward := onward_of_forward fun fuel start =>
    ((forwardFrom_readable start).literal "é").optional
  have hends : ∀ pos, Relation.ReflTransGen (literal "é").optional.Step ⟨"ééa".toList, 0⟩ pos →
      ∃ state, (literal "é").optional.Leads pos state := by
    intro pos hreach
    have hplace : pos = ⟨"ééa".toList, 0⟩ ∨ pos = ⟨"ééa".toList, 2⟩ ∨ pos = ⟨"ééa".toList, 4⟩ := by
      induction hreach with
      | refl => exact .inl rfl
      | tail _ hstep ih =>
        obtain ⟨value, hlead⟩ := hstep
        rcases ih with rfl | rfl | rfl
        · cases hfirst.unique hlead
          exact .inr (.inl rfl)
        · cases hsecond.unique hlead
          exact .inr (.inr rfl)
        · cases hthird.unique hlead
          exact .inr (.inr rfl)
    rcases hplace with rfl | rfl | rfl
    · exact ⟨_, hfirst⟩
    · exact ⟨_, hsecond⟩
    · exact ⟨_, hthird⟩
  exact ⟨hp, hends, ((many_rounds hp _ hends).2 _ hrounds).2.1⟩

end Lists

end Parser

end ParserCombinators
