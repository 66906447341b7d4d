import Mathlib
import ParserCombinators.Proofs.Grammar.Watched

/-!
# Runs stay inside the text and report what is there

A run of a grammar whose patterns match only where they start never leaves the places between the
characters of its text, never goes back behind its start, and its failures are true of the place
where they were noticed. The same holds of every part of the grammar on the way: checking each
place where a part is entered or left finds nothing wrong.
-/

namespace ParserCombinators

/-- The place lies between two characters of its text or at one of its ends, and so at most as
many bytes into the text as there are. -/
def Position.WellFormed (pos : Position) : Prop :=
  ∃ before after, pos.input = before ++ after ∧ pos.index = byteLength before

/-- Whether text may be asked for at the place and its index can be counted up to the limit. -/
def Position.isSound (limit : Nat) (pos : Position) : Bool :=
  pos.index ≤ limit && pos.remainder?.isSome

/-- The parser with a check of the place where it is entered and of the place where it is left. A
step forward that ends past the text, inside a character or beyond the limit is a fault. -/
def Parser.strict {α : Type} (limit : Nat) (p : Parser α) : Parser α where
  transition fuel pos :=
    if pos.isSound limit then (p.transition fuel pos).bind fun state =>
      if state.isSound limit then .done state else .offBoundary
    else .offBoundary
  stable m n pos h := by
    dsimp only
    split
    · exact (p.stable m n pos h).bind fun _ => Run.Le.refl _
    · exact Run.Le.refl _

/-- Run a grammar from a state with a check at both ends of each of its parts. -/
def Grammar.applyStrict {α : Type} (limit : Nat) (rules : Rules) (g : Grammar) (fuel : Nat)
    (state : State α) : Run (State Value) :=
  (g.watched (Parser.strict limit) (rules.watched (Parser.strict limit) fuel)).apply fuel state

namespace Position

/-- Text may be asked for exactly at the well-formed places. -/
theorem wellFormed_iff {pos : Position} : pos.WellFormed ↔ ∃ rest, pos.remainder? = some rest := by
  constructor
  · rintro ⟨before, after, hinput, hindex⟩
    exact ⟨after, by rw [remainder?, hinput, hindex, dropBytes?_append]⟩
  · rintro ⟨rest, hrest⟩
    obtain ⟨before, hinput, hindex⟩ := dropBytes?_eq_some_iff.1 hrest
    exact ⟨before, rest, hinput, hindex.symm⟩

/-- A well-formed place is no further on than the end of the text. -/
theorem WellFormed.index_le {pos : Position} (h : pos.WellFormed) :
    pos.index ≤ byteLength pos.input := by
  obtain ⟨before, after, hinput, hindex⟩ := h
  rw [hinput, hindex, byteLength_append]
  omega

/-- Reading a part of what follows leads to a well-formed place. -/
theorem wellFormed_ahead {pos : Position} {text start : Text} (h : pos.remainder? = some text)
    (hstart : start <+: text) : (pos.ahead (byteLength start)).WellFormed := by
  obtain ⟨before, hinput, hindex⟩ := dropBytes?_eq_some_iff.1 h
  obtain ⟨after, rfl⟩ := hstart
  refine ⟨before ++ start, after, ?_, ?_⟩
  · rw [ahead, hinput, List.append_assoc]
  · rw [ahead, ← hindex, byteLength_append]

/-- Well-formed places up to the limit are sound. -/
theorem WellFormed.isSound {pos : Position} (h : pos.WellFormed) {limit : Nat}
    (hlimit : byteLength pos.input ≤ limit) : pos.isSound limit = true := by
  obtain ⟨rest, hrest⟩ := wellFormed_iff.1 h
  have hle := Nat.le_trans h.index_le hlimit
  simp [Position.isSound, hrest, hle]

end Position

/-- Places that a run may reach from a start: well-formed ones of the same text that are not
behind the start. -/
structure Position.Reaches (start pos : Position) : Prop where
  input : pos.input = start.input
  wellFormed : pos.WellFormed
  index_le : start.index ≤ pos.index

/-- Places that may be reached from the start correspond to themselves, and no run may fault. -/
def Correspondence.soundFrom (start : Position) : Correspondence :=
  keeping start.Reaches False

section SoundFrom

variable {start : Position}

/-- Reading a part of what follows leads to places that may be reached. -/
theorem Position.Reaches.ahead {pos : Position} {text part : Text} (h : start.Reaches pos)
    (hrest : pos.remainder? = some text) (hpart : part <+: text) :
    start.Reaches (pos.ahead (byteLength part)) :=
  ⟨h.input, wellFormed_ahead hrest hpart, Nat.le_trans h.index_le (Nat.le_add_right _ _)⟩

/-- Looking at the text from well-formed places is safe for patterns that match only where they
start. -/
theorem soundFrom_readable (start : Position) :
    (Correspondence.soundFrom start).Readable Search.FindsAtStart := by
  apply Correspondence.keeping_readable
  · intro pos hreach hnone
    obtain ⟨rest, hrest⟩ := Position.wellFormed_iff.1 hreach.wellFormed
    rw [hrest] at hnone
    cases hnone
  · intro pos text part hreach hrest hpart
    exact hreach.ahead hrest hpart
  · intro pos text matched search hsearch hreach hrest hfind
    exact hreach.ahead hrest (hsearch text matched hfind)
  · intro r hr
    exact Regex.findsAtStart_of_isAnchored hr

/-- Checking both ends of a parser changes nothing where the parser is safe. -/
theorem soundFrom_strict {fuel limit : Nat} (hlimit : byteLength start.input ≤ limit)
    {α : Type} (p q : Parser α) (h : (Correspondence.soundFrom start).Agree fuel p q) :
    (Correspondence.soundFrom start).Agree fuel (p.strict limit) q := by
  have hsound : ∀ pos, start.Reaches pos → pos.isSound limit = true := by
    intro pos hreach
    exact hreach.wellFormed.isSound (hreach.input ▸ hlimit)
  intro pos pos' hplace
  simp only [Parser.strict, hsound pos hplace.2, if_true]
  exact (h pos pos' hplace).guard fun state _ hstates => hsound _ hstates.place.2

variable {rules : Rules} {g : Grammar} {pos : Position}

/-- A checked run and a plain run from a well-formed place correspond. -/
theorem Grammar.applyStrict_rel (hrules : rules.Patterns Search.FindsAtStart)
    (hg : g.Patterns Search.FindsAtStart) (hpos : pos.WellFormed) {limit : Nat}
    (hlimit : byteLength pos.input ≤ limit) {α : Type} (value : α) (fuel : Nat) :
    Run.Rel False (Correspondence.soundFrom pos).States
      (g.applyStrict limit rules fuel (pos.succeed value))
      ((g.parser rules).apply fuel (pos.succeed value)) := by
  have hagree : (Correspondence.soundFrom pos).Agree fuel
      (g.watched (Parser.strict limit) (rules.watched (Parser.strict limit) fuel))
      (g.parser rules) :=
    Grammar.watched_agree_parser (soundFrom_readable pos)
      (fun p q => soundFrom_strict hlimit p q) hrules hg
  exact hagree.apply (.succeed value ⟨rfl, rfl, hpos, Nat.le_refl _⟩)

/-- A run that ends leads to a place that may be reached, where its failure is true. -/
theorem Grammar.reaches_of_apply (hrules : rules.Patterns Search.FindsAtStart)
    (hg : g.Patterns Search.FindsAtStart) (hpos : pos.WellFormed) {α : Type} {value : α} {fuel : Nat}
    {final : State Value} (hrun : (g.parser rules).apply fuel (pos.succeed value) = .done final) :
    pos.Reaches final.toPosition ∧ ∀ e, final.result = .error e → e.TrueOf final.toPosition := by
  have hrel := Grammar.applyStrict_rel hrules hg hpos (Nat.le_refl _) value fuel
  rw [hrun] at hrel
  obtain ⟨checked, _, hstates⟩ := hrel.exists_done
  exact hstates.of_keeping.2

/-- From a well-formed place, a run of a grammar whose patterns match only where they start does
not fault, and checking every part of it changes nothing. If it ends, it ends at a well-formed
place of the same text that is not behind its start. -/
theorem Grammar.apply_wellFormed (hrules : rules.Patterns Search.FindsAtStart)
    (hg : g.Patterns Search.FindsAtStart) (hpos : pos.WellFormed) {limit : Nat}
    (hlimit : byteLength pos.input ≤ limit) {α : Type} (value : α) (fuel : Nat) :
    g.applyStrict limit rules fuel (pos.succeed value) =
        (g.parser rules).apply fuel (pos.succeed value) ∧
      (g.parser rules).apply fuel (pos.succeed value) ≠ .offBoundary ∧
      ∀ final, (g.parser rules).apply fuel (pos.succeed value) = .done final →
        final.input = pos.input ∧ final.WellFormed ∧ pos.index ≤ final.index := by
  have hrel := Grammar.applyStrict_rel hrules hg hpos hlimit value fuel
  refine ⟨hrel.eq fun s t hst => hst.of_keeping.1, hrel.ne_offBoundary, ?_⟩
  intro final hrun
  obtain ⟨hreach, _⟩ := Grammar.reaches_of_apply hrules hg hpos hrun
  exact ⟨hreach.input, hreach.wellFormed, hreach.index_le⟩

/-- A group that is not closed is left at the end of its text, behind a character of two bytes. -/
theorem Grammar.apply_wellFormed_nestedWords :
    Rules.nestedWords.Patterns Search.FindsAtStart ∧
      (⟨"é(ab(c)".toList, 2⟩ : Position).WellFormed ∧
      (Grammar.rule "group").applyStrict 8 Rules.nestedWords 9
          ((⟨"é(ab(c)".toList, 2⟩ : Position).succeed ()) =
        ((Grammar.rule "group").parser Rules.nestedWords).apply 9
          ((⟨"é(ab(c)".toList, 2⟩ : Position).succeed ()) ∧
      (⟨"é(ab(c)".toList, 8⟩ : Position).WellFormed := by
  have hpos : (⟨"é(ab(c)".toList, 2⟩ : Position).WellFormed := ⟨['é'], "(ab(c)".toList, rfl, rfl⟩
  have hlimit : byteLength "é(ab(c)".toList ≤ 8 := by decide
  have hall := Grammar.apply_wellFormed (g := .rule "group") Rules.patterns_nestedWords trivial
    hpos hlimit () 9
  have hrun : ((Grammar.rule "group").parser Rules.nestedWords).apply 9
      ((⟨"é(ab(c)".toList, 2⟩ : Position).succeed ()) =
        .done ((⟨"é(ab(c)".toList, 8⟩ : Position).fail (Failure.endOfInput 8)) := by
    cbv
  exact ⟨Rules.patterns_nestedWords, hpos, hall.1, (hall.2.2 _ hrun).2.1⟩

/-- If a run from a well-formed place ends in a failure, the failure was noticed at the place where
the run ended, between its start and the end of the text, and what its kind says is true there. -/
theorem Grammar.failure_true (hrules : rules.Patterns Search.FindsAtStart)
    (hg : g.Patterns Search.FindsAtStart) (hpos : pos.WellFormed) {α : Type} {value : α} {fuel : Nat}
    {final : State Value} (hrun : (g.parser rules).apply fuel (pos.succeed value) = .done final)
    {e : Failure} (hfail : final.result = .error e) :
    e.index = final.index ∧ pos.index ≤ e.index ∧ e.index ≤ byteLength pos.input ∧
      e.kind.TrueAt pos.input e.index := by
  obtain ⟨hreach, htrue⟩ := Grammar.reaches_of_apply hrules hg hpos hrun
  obtain ⟨hindex, hkind⟩ := htrue e hfail
  have hle := hreach.wellFormed.index_le
  rw [hreach.input] at hle hkind
  rw [hindex]
  exact ⟨rfl, hreach.index_le, hle, hkind⟩

/-- Where a group should be closed by a parenthesis, another character stands. -/
theorem Grammar.failure_true_nestedWords :
    ((Grammar.rule "group").parser Rules.nestedWords).apply 9
        ((⟨"é(ab(c)1".toList, 2⟩ : Position).succeed ()) =
      .done ((⟨"é(ab(c)1".toList, 8⟩ : Position).fail (Failure.literalMismatch 8 ")" "1")) ∧
      (Failure.Kind.literalMismatch ")").TrueAt "é(ab(c)1".toList 8 := by
  have hpos : (⟨"é(ab(c)1".toList, 2⟩ : Position).WellFormed :=
    ⟨['é'], "(ab(c)1".toList, rfl, rfl⟩
  have hrun : ((Grammar.rule "group").parser Rules.nestedWords).apply 9
      ((⟨"é(ab(c)1".toList, 2⟩ : Position).succeed ()) =
        .done ((⟨"é(ab(c)1".toList, 8⟩ : Position).fail (Failure.literalMismatch 8 ")" "1")) := by
    cbv
  have htrue := Grammar.failure_true (g := .rule "group") Rules.patterns_nestedWords trivial hpos
    hrun rfl
  exact ⟨hrun, htrue.2.2.2⟩

end SoundFrom

end ParserCombinators
