import ParserCombinators.Proofs.CommandLine.Execute
import ParserCombinators.Report.Diagnosis

/-!
# Diagnoses point at whole characters

An index lies inside a character of a text, or one of its characters begins there, or it is at or
past the end. A failure has a diagnosis in all cases but the first. The span is the character that
begins at the index, or nothing, so it does not end both past the index and past the text. The
failures of a run are noticed between characters of its text, so all of them have a diagnosis, and
an early end or a mismatch tells whether there is a character to point at.
-/

namespace ParserCombinators

/-- The index is behind the beginning of a character of the text and in front of its end. -/
def InsideChar (text : Text) (index : Nat) : Prop :=
  ∃ before c after, text = before ++ c :: after ∧ byteLength before < index ∧
    index < byteLength before + c.utf8Size

section Places

variable {text : Text} {c : Char} {index n : Nat}

/-- An index inside a character is in front of the end. -/
theorem InsideChar.lt_byteLength (h : InsideChar text index) : index < byteLength text := by
  obtain ⟨before, c, after, rfl, _, hlt⟩ := h
  rw [byteLength_append, byteLength_cons]
  omega

/-- Inside the first character, or inside one of the others. -/
theorem insideChar_cons : InsideChar (c :: text) n ↔
    0 < n ∧ n < c.utf8Size ∨ c.utf8Size ≤ n ∧ InsideChar text (n - c.utf8Size) := by
  constructor
  · rintro ⟨before, d, after, hsplit, hbegins, hends⟩
    obtain ⟨rfl, hfirst⟩ | ⟨before, rfl, rfl⟩ := List.cons_eq_append_iff.1 hsplit
    · cases hfirst
      exact .inl ⟨by simpa using hbegins, by simpa using hends⟩
    · rw [byteLength_cons] at hbegins hends
      exact .inr ⟨by omega, before, d, after, rfl, by omega, by omega⟩
  · rintro (⟨hbegins, hends⟩ | ⟨hle, before, d, after, rfl, hbegins, hends⟩)
    · exact ⟨[], c, text, rfl, by simpa using hbegins, by simpa using hends⟩
    · refine ⟨c :: before, d, after, rfl, ?_, ?_⟩
      · rw [byteLength_cons]
        omega
      · rw [byteLength_cons]
        omega

/-- No suffix begins exactly inside a character and past the end. -/
theorem dropBytes?_eq_none_iff :
    dropBytes? n text = none ↔ byteLength text < n ∨ InsideChar text n := by
  fun_induction dropBytes? n text with
  | case1 text =>
    simp [InsideChar]
  | case2 n =>
    simp
  | case3 n c rest hle ih =>
    rw [ih, insideChar_cons, byteLength_cons]
    constructor
    · rintro (hlt | hinside)
      · exact .inl (by omega)
      · exact .inr (.inr ⟨hle, hinside⟩)
    · rintro (hlt | ⟨_, hlt⟩ | ⟨_, hinside⟩)
      · exact .inl (by omega)
      · omega
      · exact .inr hinside
  | case4 n c rest hlt =>
    rw [insideChar_cons]
    simp only [true_iff]
    exact .inr (.inl ⟨by omega, by omega⟩)

/-- The length of a character at an index fails to exist exactly inside a character. -/
theorem charLengthAt?_eq_none_iff : charLengthAt? text index = none ↔ InsideChar text index := by
  rw [charLengthAt?, Option.map_eq_none_iff, dropBytes?_eq_none_iff]
  rcases Nat.le_total index (byteLength text) with hle | hle
  · rw [Nat.min_eq_left hle]
    exact or_iff_right (Nat.not_lt.2 hle)
  · rw [Nat.min_eq_right hle]
    have hend : ¬InsideChar text (byteLength text) := fun h => Nat.lt_irrefl _ h.lt_byteLength
    have hpast : ¬InsideChar text index := fun h => Nat.not_lt.2 hle h.lt_byteLength
    simp [hend, hpast]

/-- There is nothing to point at from the end on, and before it there is the character that begins
at the index. -/
theorem charLengthAt?_eq_some_iff : charLengthAt? text index = some n ↔
    byteLength text ≤ index ∧ n = 0 ∨
      ∃ before c after, text = before ++ c :: after ∧ byteLength before = index ∧
        n = c.utf8Size := by
  rw [charLengthAt?, Option.map_eq_some_iff]
  rcases Nat.lt_or_ge index (byteLength text) with hlt | hle
  · rw [Nat.min_eq_left (Nat.le_of_lt hlt)]
    constructor
    · rintro ⟨rest, hrest, rfl⟩
      obtain ⟨before, rfl, hindex⟩ := dropBytes?_eq_some_iff.1 hrest
      cases rest with
      | nil =>
        rw [List.append_nil, hindex] at hlt
        exact absurd hlt (Nat.lt_irrefl index)
      | cons c after =>
        exact .inr ⟨before, c, after, rfl, hindex, rfl⟩
    · rintro (⟨hle, _⟩ | ⟨before, c, after, rfl, rfl, rfl⟩)
      · exact absurd hle (Nat.not_le.2 hlt)
      · exact ⟨c :: after, dropBytes?_append before (c :: after), rfl⟩
  · rw [Nat.min_eq_right hle]
    have hend : dropBytes? (byteLength text) text = some [] := by
      simpa using dropBytes?_append text []
    constructor
    · rintro ⟨rest, hrest, rfl⟩
      rw [hend] at hrest
      cases hrest
      exact .inl ⟨hle, rfl⟩
    · rintro (⟨_, rfl⟩ | ⟨before, c, after, rfl, rfl, _⟩)
      · exact ⟨[], hend, rfl⟩
      · have hpos := c.utf8Size_pos
        rw [byteLength_append, byteLength_cons] at hle
        omega

/-- An offset between characters is the end of the text exactly if nothing stands behind it. -/
theorem eq_byteLength_iff_of_dropBytes? {rest : Text} (h : dropBytes? n text = some rest) :
    n = byteLength text ↔ rest = [] := by
  obtain ⟨before, rfl, rfl⟩ := dropBytes?_eq_some_iff.1 h
  rw [byteLength_append, ← byteLength_eq_zero]
  omega

end Places

/-- The diagnosis points at the index in the text: at the whole character that begins there, and at
nothing from the end of the text on. The end of the span is no larger a number than the index or the
length of the text. -/
structure Diagnosis.PointsAt (diagnosis : Diagnosis) (text : Text) (index : Nat) : Prop where
  offset : diagnosis.span.offset = index
  character : index < byteLength text → ∃ before c after, text = before ++ c :: after ∧
    byteLength before = index ∧ diagnosis.span.length = c.utf8Size
  pastEnd : byteLength text ≤ index → diagnosis.span.length = 0
  le_max : diagnosis.span.offset + diagnosis.span.length ≤ max index (byteLength text)
  /-- Counting to the end of the span stays within 64 bits. -/
  lt_size : index < UInt64.size → byteLength text < UInt64.size →
    diagnosis.span.offset + diagnosis.span.length < UInt64.size

/-- The span of the diagnosis is a part of the text. It is empty exactly if the failure was noticed
at the end of the text, which holds of an early end and never of a mismatch. -/
structure Diagnosis.Marks (diagnosis : Diagnosis) (text : Text) (failure : Failure) : Prop where
  part : ∃ before marked after, text = before ++ (marked ++ after) ∧
    diagnosis.span = ⟨byteLength before, byteLength marked⟩
  empty_iff : diagnosis.span.length = 0 ↔ failure.index = byteLength text
  endOfInput : failure.kind = .endOfInput → diagnosis.span.length = 0
  literalMismatch : ∀ expected, failure.kind = .literalMismatch expected →
    diagnosis.span.length ≠ 0
  patternMismatch : ∀ pattern, failure.kind = .patternMismatch pattern →
    diagnosis.span.length ≠ 0

namespace Failure

variable {failure : Failure} {source : Source} {diagnosis : Diagnosis}

/-- A failure has no diagnosis exactly if its index is inside a character. -/
theorem diagnose?_eq_none_iff :
    failure.diagnose? source = none ↔ InsideChar source.content failure.index := by
  rw [diagnose?, Option.map_eq_none_iff, charLengthAt?_eq_none_iff]

/-- The span of a diagnosis begins at the index of the failure and has the length found there. -/
theorem span_of_diagnose? (h : failure.diagnose? source = some diagnosis) :
    diagnosis.span.offset = failure.index ∧
      charLengthAt? source.content failure.index = some diagnosis.span.length := by
  obtain ⟨length, hlength, rfl⟩ := Option.map_eq_some_iff.1 h
  exact ⟨rfl, hlength⟩

/-- A diagnosis points at the index of its failure. -/
theorem pointsAt_of_diagnose? (h : failure.diagnose? source = some diagnosis) :
    diagnosis.PointsAt source.content failure.index := by
  obtain ⟨hoffset, hlength⟩ := span_of_diagnose? h
  have hplace := charLengthAt?_eq_some_iff.1 hlength
  have hmax : failure.index + diagnosis.span.length ≤
      max failure.index (byteLength source.content) := by
    obtain ⟨_, hzero⟩ | ⟨before, c, after, htext, hindex, hsize⟩ := hplace
    · omega
    · rw [htext, byteLength_append, byteLength_cons]
      omega
  refine ⟨hoffset, ?_, ?_, by rwa [hoffset], ?_⟩
  · intro hlt
    exact hplace.resolve_left fun h => Nat.not_le.2 hlt h.1
  · intro hle
    obtain ⟨_, hzero⟩ | ⟨before, c, after, htext, hindex, _⟩ := hplace
    · exact hzero
    · have hpos := c.utf8Size_pos
      rw [htext, byteLength_append, byteLength_cons] at hle
      omega
  · intro hindex htext
    omega

/-- The span of a diagnosis is a part of the text unless the index is past the end, and an empty one
at the end only. -/
theorem exists_part_of_diagnose? (h : failure.diagnose? source = some diagnosis)
    (hle : failure.index ≤ byteLength source.content) :
    ∃ before marked after, source.content = before ++ (marked ++ after) ∧
      diagnosis.span = ⟨byteLength before, byteLength marked⟩ ∧
      (marked = [] ↔ failure.index = byteLength source.content) := by
  have hpoints := pointsAt_of_diagnose? h
  have hspan : diagnosis.span = ⟨failure.index, diagnosis.span.length⟩ := by
    rw [← hpoints.offset]
  rcases Nat.lt_or_eq_of_le hle with hlt | heq
  · obtain ⟨before, c, after, htext, hbefore, hlength⟩ := hpoints.character hlt
    refine ⟨before, [c], after, htext, ?_, ?_⟩
    · rw [hspan, hbefore, hlength]
      rfl
    · exact iff_of_false (List.cons_ne_nil c []) (Nat.ne_of_lt hlt)
  · refine ⟨source.content, [], [], by simp, ?_, iff_of_true rfl heq⟩
    rw [hspan, hpoints.pastEnd (Nat.le_of_eq heq.symm), heq]
    rfl

/-- A true failure that was noticed between characters has a diagnosis, which marks its place. -/
theorem TrueOf.exists_marks {pos : Position} (h : failure.TrueOf pos) (hpos : pos.WellFormed)
    (name : String) : ∃ diagnosis,
      failure.diagnose? ⟨name, pos.input⟩ = some diagnosis ∧ diagnosis.Marks pos.input failure := by
  obtain ⟨diagnosis, hdiagnosis, -, -⟩ := h.exists_diagnosis hpos name
  obtain ⟨hindex, htrue⟩ := h
  obtain ⟨before, marked, after, htext, hspan, hnil⟩ := exists_part_of_diagnose? hdiagnosis
    (hindex ▸ hpos.index_le)
  have hempty : diagnosis.span.length = 0 ↔ failure.index = byteLength pos.input := by
    rw [hspan, ← hnil]
    exact byteLength_eq_zero
  -- A mismatch was noticed in front of what does not match.
  have hahead : (∃ rest, dropBytes? pos.index pos.input = some rest ∧ rest ≠ []) →
      diagnosis.span.length ≠ 0 := by
    rintro ⟨rest, hrest, hne⟩
    rw [Ne, hempty, hindex]
    exact mt (eq_byteLength_iff_of_dropBytes? hrest).1 hne
  refine ⟨diagnosis, hdiagnosis, ⟨before, marked, after, htext, hspan⟩, hempty, ?_, ?_, ?_⟩
  · intro hkind
    rw [hkind] at htrue
    exact hempty.2 (hindex.trans htrue)
  · intro expected hkind
    rw [hkind] at htrue
    obtain ⟨rest, hrest, hne, _⟩ := htrue
    exact hahead ⟨rest, hrest, hne⟩
  · intro pattern hkind
    rw [hkind] at htrue
    exact hahead htrue

/-- A failure has a diagnosis exactly if its index is not inside a character, and then it points at
the index. Over the text of a run of a grammar whose patterns match only where they start, every
failure of the run has one, and it marks a part of the text. -/
theorem diagnose?_points_and_marks :
    (∀ (failure : Failure) (source : Source),
      (failure.diagnose? source = none ↔ InsideChar source.content failure.index) ∧
      ∀ diagnosis, failure.diagnose? source = some diagnosis →
        diagnosis.PointsAt source.content failure.index) ∧
    ∀ (rules : Rules) (g : Grammar), rules.Patterns Search.FindsAtStart →
      g.Patterns Search.FindsAtStart → ∀ fuel input final failure,
        (g.parser rules).run fuel input = .done final → final.result = .error failure →
          ∀ name, ∃ diagnosis, failure.diagnose? ⟨name, input⟩ = some diagnosis ∧
            diagnosis.Marks input failure := by
  constructor
  · intro failure source
    exact ⟨diagnose?_eq_none_iff, fun _ h => pointsAt_of_diagnose? h⟩
  · intro rules g hrules hg fuel input final failure hrun hfail name
    have hstart : (Position.start input).WellFormed := ⟨[], input, rfl, rfl⟩
    obtain ⟨hreach, htrue⟩ := Grammar.reaches_of_apply hrules hg hstart hrun
    have hinput : final.input = input := hreach.input
    have hmarks := (htrue failure hfail).exists_marks hreach.wellFormed name
    rwa [hinput] at hmarks

/-- Where a group should be closed stands a character of two bytes, which is marked as a whole. -/
theorem diagnose?_points_and_marks_nestedWords :
    Rules.nestedWords.Patterns Search.FindsAtStart ∧
      ((Grammar.rule "group").parser Rules.nestedWords).run 9 "(ab(c)é".toList =
          .done ((⟨"(ab(c)é".toList, 6⟩ : Position).fail (literalMismatch 6 ")" "é")) ∧
      ∃ diagnosis, (literalMismatch 6 ")" "é").diagnose? ⟨"input", "(ab(c)é".toList⟩ =
          some diagnosis ∧
        diagnosis.span = ⟨6, 2⟩ ∧
        diagnosis.Marks "(ab(c)é".toList (literalMismatch 6 ")" "é") := by
  have hrun : ((Grammar.rule "group").parser Rules.nestedWords).run 9 "(ab(c)é".toList =
      .done ((⟨"(ab(c)é".toList, 6⟩ : Position).fail (literalMismatch 6 ")" "é")) := by
    cbv
  obtain ⟨diagnosis, hdiagnosis, hmarks⟩ := diagnose?_points_and_marks.2 Rules.nestedWords
    (.rule "group") Rules.patterns_nestedWords trivial 9 _ _ _ hrun rfl "input"
  have hspan : diagnosis.span = ⟨6, 2⟩ := by
    obtain ⟨length, hlength, rfl⟩ := Option.map_eq_some_iff.1 hdiagnosis
    cases hlength
    rfl
  exact ⟨Rules.patterns_nestedWords, hrun, diagnosis, hdiagnosis, hspan, hmarks⟩

end Failure

end ParserCombinators
