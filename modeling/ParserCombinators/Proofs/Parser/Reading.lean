import ParserCombinators.Parser.Match
import ParserCombinators.Proofs.Parser.Correspondence
import ParserCombinators.Proofs.Regex.Extent

/-!
# Parsers that look at the text run alike

A correspondence is readable when corresponding places are followed by the same text, when
reading the same part of it leads to corresponding places, and when refusing it gives
corresponding failures. Literals, patterns and named matchers agree with themselves under a
readable correspondence.

A property of places that reading keeps gives such a correspondence, in which each place and each
failure that is true of its place corresponds to itself.
-/

namespace ParserCombinators

/-- The place a number of bytes further on. -/
def Position.ahead (pos : Position) (bytes : Nat) : Position :=
  { pos with index := pos.index + bytes }

@[simp] theorem Position.ahead_index (pos : Position) (bytes : Nat) :
    (pos.ahead bytes).index = pos.index + bytes := rfl

/-- A correspondence under which looking at the text tells no difference. Patterns have to be
good ones. -/
structure Correspondence.Readable (C : Correspondence) (good : Search → Prop) : Prop where
  remainder {pos pos' : Position} : C.place pos pos' → pos.remainder? = pos'.remainder?
  /-- Where no text follows, the runs may fault. -/
  fault {pos pos' : Position} : C.place pos pos' → pos.remainder? = none → C.faults
  endOfInput {pos pos' : Position} : C.place pos pos' → pos.remainder? = some [] →
    C.failure pos (.endOfInput pos.index) pos' (.endOfInput pos'.index)
  literalMismatch {pos pos' : Position} {text : Text} {expected : String} : C.place pos pos' →
    pos.remainder? = some text → text ≠ [] → ¬ expected.toList <+: text →
    C.failure pos (.literalMismatch pos.index expected (String.ofList text))
      pos' (.literalMismatch pos'.index expected (String.ofList text))
  patternMismatch {pos pos' : Position} {text : Text} (name : String) : C.place pos pos' →
    pos.remainder? = some text → text ≠ [] →
    C.failure pos (.patternMismatch pos.index name) pos' (.patternMismatch pos'.index name)
  /-- Reading what follows. -/
  read {pos pos' : Position} {text : Text} {start : Text} : C.place pos pos' →
    pos.remainder? = some text → start <+: text →
    C.place (pos.ahead (byteLength start)) (pos'.ahead (byteLength start))
  /-- Moving on by the length of what a search found. -/
  found {pos pos' : Position} {text matched : Text} {search : Search} : good search →
    C.place pos pos' → pos.remainder? = some text → search.find text = some matched →
    C.place (pos.ahead (byteLength matched)) (pos'.ahead (byteLength matched))
  /-- The searches behind the named matchers are good. -/
  anchored {r : Regex Unit} : r.isAnchored = true → good r.search

namespace Correspondence.Readable

variable {C : Correspondence} {good : Search → Prop} {fuel : Nat}

/-- Parsers that decide by the text that follows. -/
theorem onRemainder {α : Type} (hC : C.Readable good) {step step' : Position → Text → State α}
    (hstep : ∀ {pos pos' text}, C.place pos pos' → pos.remainder? = some text → text ≠ [] →
      C.States (step pos text) (step' pos' text)) :
    C.Agree fuel (Parser.onRemainder step) (Parser.onRemainder step') := by
  intro pos pos' hplace
  simp only [Parser.onRemainder, Parser.direct, ← hC.remainder hplace]
  cases hrest : pos.remainder? with
  | none => exact .offBoundary (hC.fault hplace hrest)
  | some text =>
    cases text with
    | nil => exact .done (.fail hplace (hC.endOfInput hplace hrest))
    | cons c rest => exact .done (hstep hplace hrest (by simp))

/-- Literals. -/
theorem literal (hC : C.Readable good) (expected : String) :
    C.Agree fuel (Parser.literal expected) (Parser.literal expected) := by
  refine hC.onRemainder fun {pos pos' text} hplace hrest htext => ?_
  by_cases hstart : expected.toList <+: text
  · rw [if_pos (List.isPrefixOf_iff_prefix.2 hstart), if_pos (List.isPrefixOf_iff_prefix.2 hstart)]
    have hread := hC.read hplace hrest hstart
    rw [byteLength_toList] at hread
    exact .succeed expected hread
  · rw [if_neg (mt List.isPrefixOf_iff_prefix.1 hstart),
      if_neg (mt List.isPrefixOf_iff_prefix.1 hstart)]
    exact .fail hplace (hC.literalMismatch hplace hrest htext hstart)

/-- Patterns. -/
theorem matching (hC : C.Readable good) (name : String) {search : Search} (hgood : good search) :
    C.Agree fuel (Parser.matching name search) (Parser.matching name search) := by
  refine hC.onRemainder fun {pos pos' text} hplace hrest htext => ?_
  cases hfind : search.find text with
  | none => exact .fail hplace (hC.patternMismatch name hplace hrest htext)
  | some matched => exact .succeed (String.ofList matched) (hC.found hgood hplace hrest hfind)

end Correspondence.Readable

/-- What a kind of failure says about the text from a byte index on. -/
def Failure.Kind.TrueAt (input : Text) (index : Nat) : Failure.Kind → Prop
  | .endOfInput => index = byteLength input
  | .literalMismatch expected =>
    ∃ rest, dropBytes? index input = some rest ∧ rest ≠ [] ∧ ¬ expected.toList <+: rest
  | .patternMismatch _ => ∃ rest, dropBytes? index input = some rest ∧ rest ≠ []
  | .noMatches combinator => combinator = "many1" ∨ combinator = "sepBy1"
  | .noAlternative => True
  | .custom => True

/-- The failure was noticed at the place where it is kept, and it is true there. -/
def Failure.TrueOf (e : Failure) (pos : Position) : Prop :=
  e.index = pos.index ∧ e.kind.TrueAt pos.input pos.index

/-- Where nothing follows the text ends. -/
theorem Position.index_eq_of_remainder_nil {pos : Position} (h : pos.remainder? = some []) :
    pos.index = byteLength pos.input := by
  obtain ⟨before, hinput, hindex⟩ := dropBytes?_eq_some_iff.1 h
  rw [hinput, List.append_nil, hindex]

namespace Correspondence

/-- Places with a property and failures that are true of their place correspond to themselves. -/
def keeping (holds : Position → Prop) (faults : Prop) : Correspondence where
  place pos pos' := pos = pos' ∧ holds pos
  failure pos e pos' e' := pos = pos' ∧ e = e' ∧ e.TrueOf pos
  faults := faults
  moved := by
    intro pos pos' next next' hpos hnext
    rw [hpos.1, hnext.1]
  reached := by
    intro pos pos' next next' e e' f f' he hf
    rw [he.2.1, hf.2.1]
  noAlternative := by
    intro pos pos' hpos
    exact ⟨hpos.1, by rw [hpos.1], rfl, trivial⟩
  many1 := by
    intro pos pos' hpos
    exact ⟨hpos.1, by rw [hpos.1], rfl, .inl rfl⟩
  sepBy1 := by
    intro pos pos' hpos
    exact ⟨hpos.1, by rw [hpos.1], rfl, .inr rfl⟩
  custom message := by
    intro hpos
    exact ⟨hpos.1, by rw [hpos.1], rfl, trivial⟩
  reworded message := by
    intro he
    exact ⟨he.1, by rw [he.2.1], he.2.2⟩

variable {holds : Position → Prop} {faults : Prop} {good : Search → Prop}

/-- Looking at the text keeps a property that reading keeps. -/
theorem keeping_readable
    (hfault : ∀ pos : Position, holds pos → pos.remainder? = none → faults)
    (hread : ∀ (pos : Position) (text start : Text), holds pos → pos.remainder? = some text →
      start <+: text → holds (pos.ahead (byteLength start)))
    (hfound : ∀ (pos : Position) (text matched : Text) (search : Search), good search →
      holds pos → pos.remainder? = some text → search.find text = some matched →
      holds (pos.ahead (byteLength matched)))
    (hanchored : ∀ r : Regex Unit, r.isAnchored = true → good r.search) :
    (keeping holds faults).Readable good where
  remainder := by
    intro pos pos' hplace
    rw [hplace.1]
  fault := by
    intro pos pos' hplace hnone
    exact hfault pos hplace.2 hnone
  endOfInput := by
    intro pos pos' hplace hrest
    exact ⟨hplace.1, by rw [hplace.1], rfl, Position.index_eq_of_remainder_nil hrest⟩
  literalMismatch := by
    intro pos pos' text expected hplace hrest htext hstart
    exact ⟨hplace.1, by rw [hplace.1], rfl, text, hrest, htext, hstart⟩
  patternMismatch := by
    intro pos pos' text name hplace hrest htext
    exact ⟨hplace.1, by rw [hplace.1], rfl, text, hrest, htext⟩
  read := by
    intro pos pos' text start hplace hrest hstart
    exact ⟨by rw [hplace.1], hread pos text start hplace.2 hrest hstart⟩
  found := by
    intro pos pos' text matched search hgood hplace hrest hfind
    exact ⟨by rw [hplace.1], hfound pos text matched search hgood hplace.2 hrest hfind⟩
  anchored := hanchored _

/-- Corresponding states are one state, at a place with the property, whose failure is true. -/
theorem States.of_keeping {α : Type} {s t : State α} (h : (keeping holds faults).States s t) :
    s = t ∧ holds t.toPosition ∧ ∀ e, t.result = .error e → e.TrueOf t.toPosition := by
  cases h with
  | succeed value hplace =>
    obtain ⟨rfl, hholds⟩ := hplace
    exact ⟨rfl, hholds, fun e he => by cases he⟩
  | fail hplace he =>
    obtain ⟨rfl, hholds⟩ := hplace
    obtain ⟨_, rfl, htrue⟩ := he
    refine ⟨rfl, hholds, fun e he => ?_⟩
    cases he
    exact htrue

end Correspondence

end ParserCombinators
