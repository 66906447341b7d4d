import ParserCombinators.Proofs.CommandLine.Response
import ParserCombinators.Proofs.Json.Reading
import ParserCombinators.Proofs.Text.Quoted

/-!
# Descriptions are lines that tell the outcome

The description of an outcome is one line, or two if a rest of the text is left, and no line ends
inside of one of them: values and the rest are put into the line with their escapes. What is
described is told by the description. The compact form of a value ends where the value ends, so a
text in it that looks like the words behind it does not mislead, and the numbers end at a space.
-/

namespace ParserCombinators

namespace Value

section OneLine

/-- Digits are on one line. -/
theorem oneLine_digits {digits : Text} (h : ∀ c ∈ digits, c.isDigit = true) : OneLine digits := by
  refine oneLine_iff.2 fun c hc => ?_
  have hdigit := h c hc
  constructor
  · rintro rfl
    exact absurd hdigit (by decide)
  · rintro rfl
    exact absurd hdigit (by decide)

/-- An integer is on one line. -/
theorem oneLine_decimal (n : Int) : OneLine (decimal n) := by
  have hdigits := oneLine_digits (isDigit_toDigits n.natAbs)
  unfold decimal
  split
  · exact oneLine_cons.2 ⟨by decide, hdigits⟩
  · exact hdigits

/-- A numeral is on one line. -/
theorem oneLine_written {n : Numeral} (h : n.WellFormed) : OneLine n.written := by
  have hsign : OneLine (if n.negative then ['-'] else []) := by
    split <;> decide
  have hfraction : OneLine (fractionText n.fraction) := by
    unfold fractionText
    split
    · exact oneLine_nil
    · exact oneLine_cons.2 ⟨by decide, oneLine_digits h.fraction⟩
  have hexponent : OneLine (exponentText n.exponent) := by
    cases n.exponent with
    | none => exact oneLine_nil
    | some power => exact oneLine_cons.2 ⟨by decide, oneLine_decimal power⟩
  unfold Numeral.written
  simp only [oneLine_append, hsign, oneLine_digits h.whole, hfraction, hexponent, and_self]

/-- A character is written on one line. -/
theorem oneLine_escapeChar (c : Char) : OneLine (escapeChar c) := by
  have hdigit : ∀ n < 16, hexDigit n ≠ '\n' ∧ hexDigit n ≠ '\r' := by decide
  unfold escapeChar
  split_ifs with hquote hslash hback htab hline hfeed hreturn hcontrol
  any_goals decide
  · have hhigh := hdigit (c.toNat / 16) (by omega)
    have hlow := hdigit (c.toNat % 16) (by omega)
    simp [hhigh.1, hhigh.2, hlow.1, hlow.2]
  · exact oneLine_cons.2 ⟨⟨hline, hreturn⟩, oneLine_nil⟩

/-- A string is on one line. -/
theorem oneLine_quote (s : String) : OneLine (quote s) := by
  have hchars : OneLine (s.toList.flatMap escapeChar) := oneLine_flatMap oneLine_escapeChar
  simp [quote, hchars]

mutual

/-- The compact form of a value is on one line. -/
theorem oneLine_compact : ∀ v : Value, OneLine (compact v)
  | .null => by simp [compact]
  | .bool b => by cases b <;> simp [compact]
  | .int n => by rw [compact]; exact oneLine_decimal n
  | .float x => by rw [compact]; exact oneLine_written x.numeral_wellFormed
  | .str s => by rw [compact]; exact oneLine_quote s
  | .arr [] => by simp [compact]
  | .arr (v :: vs) => by simp [compact, oneLine_compact v, oneLine_compactItems vs]
  | .obj [] => by simp [compact]
  | .obj ((k, v) :: fs) => by
    simp [compact, oneLine_quote k, oneLine_compact v, oneLine_compactFields fs]
termination_by v => sizeOf v

/-- The items behind the first one are on one line. -/
theorem oneLine_compactItems : ∀ vs : List Value, OneLine (compactItems vs)
  | [] => by simp [compactItems]
  | v :: vs => by simp [compactItems, oneLine_compact v, oneLine_compactItems vs]
termination_by vs => sizeOf vs

/-- The fields behind the first one are on one line. -/
theorem oneLine_compactFields : ∀ fs : List (String × Value), OneLine (compactFields fs)
  | [] => by simp [compactFields]
  | (k, v) :: fs => by
    simp [compactFields, oneLine_quote k, oneLine_compact v, oneLine_compactFields fs]
termination_by fs => sizeOf fs

end

end OneLine

section Ends

variable {first second : Text}

/-- No number goes on with a word that begins with a space. -/
theorem endsNumber_append (word : Text) (h : word.head? = some ' ') (rest : Text) :
    EndsNumber (word ++ rest) := by
  intro c hc
  rw [List.head?_append, h, Option.some_or, Option.mem_some_iff] at hc
  rw [← hc]
  decide

/-- The compact form of a value ends where the value ends. -/
theorem compact_append_inj {v w : Value} (hfirst : EndsNumber first) (hsecond : EndsNumber second)
    (h : compact v ++ first = compact w ++ second) : v = w ∧ first = second := by
  obtain ⟨fuel, hvfuel, hwfuel⟩ : ∃ fuel, 2 * (compact v).length ≤ fuel ∧
      2 * (compact w).length ≤ fuel := ⟨_, Nat.le_add_right _ _, Nat.le_add_left _ _⟩
  have hv := (writes_compact v).readValue hvfuel isGap_nil hfirst
  have hw := (writes_compact w).readValue hwfuel isGap_nil hsecond
  rw [h, hw] at hv
  cases hv
  exact ⟨rfl, rfl⟩

/-- An integer ends where its digits end. -/
theorem decimal_append_inj {m n : Int} (hfirst : EndsNumber first) (hsecond : EndsNumber second)
    (h : decimal m ++ first = decimal n ++ second) : m = n ∧ first = second := by
  have hm := readPower_decimal m hfirst
  rw [h, readPower_decimal n hsecond] at hm
  cases hm
  exact ⟨rfl, rfl⟩

end Ends

end Value

/-- Lines as they are printed, with a line feed behind each. -/
def printedLines (lines : List Text) : Text :=
  lines.flatMap (· ++ ['\n'])

/-- Without colour a terminal prints the texts as lines. -/
theorem terminalAll_lines (texts : List Text) : terminalAll false texts = printedLines texts :=
  congrArg (texts.flatMap ·) (funext terminalLine_plain)

namespace Outcome

variable {first second : Outcome}

/-- The line for a match is one line. -/
theorem oneLine_matchedLine (outcome : Outcome) : OneLine outcome.matchedLine := by
  have hmatched : OneLine "matched ".toList := by decide
  have hconsumed : OneLine " (consumed ".toList := by decide
  have hof : OneLine " of ".toList := by decide
  have hbytes : OneLine " bytes)".toList := by decide
  unfold matchedLine
  simp only [oneLine_append, Value.oneLine_compact, Value.oneLine_decimal, hmatched,
    hconsumed, hof, hbytes, and_self]

/-- The line for the rest is one line. -/
theorem oneLine_remainingLine (outcome : Outcome) : OneLine outcome.remainingLine := by
  have hremaining : OneLine "remaining: ".toList := by decide
  unfold remainingLine
  exact oneLine_append.2 ⟨hremaining, Quoted.oneLine_quote outcome.remainder⟩

/-- No line ends inside a line of the description. -/
theorem oneLine_of_mem_describe {outcome : Outcome} {line : Text} (h : line ∈ outcome.describe) :
    OneLine line := by
  rw [describe_eq, List.mem_cons] at h
  split_ifs at h with hend
  · rw [h.resolve_right List.not_mem_nil]
    exact oneLine_matchedLine outcome
  · rcases h with rfl | h
    · exact oneLine_matchedLine outcome
    · rw [List.mem_singleton.1 h]
      exact oneLine_remainingLine outcome

/-- The description has a line more if there is a rest. -/
theorem length_describe (outcome : Outcome) :
    outcome.describe.length = if outcome.remainder = [] then 1 else 2 := by
  rw [describe_eq]
  split_ifs <;> rfl

/-- A success has a value. -/
theorem result_eq_of_isSuccess {outcome : Outcome} (h : outcome.isSuccess = true) :
    outcome.result = .ok outcome.value := by
  unfold isSuccess failure? at h
  unfold value
  split at h
  · next hresult => rw [hresult]
  · cases h

/-- The line for a match tells the value and both numbers. -/
theorem matchedLine_inj (h : first.matchedLine = second.matchedLine) :
    first.value = second.value ∧ first.index = second.index ∧
      byteLength first.input = byteLength second.input := by
  have hconsumed := Value.endsNumber_append " (consumed ".toList rfl
  have hof := Value.endsNumber_append " of ".toList rfl
  have hbytes : EndsNumber " bytes)".toList := by
    simpa using Value.endsNumber_append " bytes)".toList rfl []
  unfold matchedLine at h
  simp only [List.append_assoc] at h
  obtain ⟨hvalue, h⟩ := Value.compact_append_inj (hconsumed _) (hconsumed _)
    (List.append_cancel_left h)
  obtain ⟨hindex, h⟩ := Value.decimal_append_inj (hof _) (hof _) (List.append_cancel_left h)
  obtain ⟨hlength, _⟩ := Value.decimal_append_inj hbytes hbytes (List.append_cancel_left h)
  exact ⟨hvalue, Int.ofNat.inj hindex, Int.ofNat.inj hlength⟩

/-- The line for the rest tells the rest. -/
theorem remainingLine_inj (h : first.remainingLine = second.remainingLine) :
    first.remainder = second.remainder := by
  unfold remainingLine at h
  exact Quoted.quote_injective (List.append_cancel_left h)

/-- The description tells whether there is a rest, and which. -/
theorem describe_inj (h : first.describe = second.describe) :
    first.matchedLine = second.matchedLine ∧ first.remainder = second.remainder := by
  rw [describe_eq, describe_eq, List.cons.injEq] at h
  obtain ⟨hmatched, hrest⟩ := h
  refine ⟨hmatched, ?_⟩
  by_cases hfirst : first.remainder = []
  · by_cases hsecond : second.remainder = []
    · rw [hfirst, hsecond]
    · simp [hfirst, hsecond] at hrest
  · by_cases hsecond : second.remainder = []
    · simp [hfirst, hsecond] at hrest
    · rw [if_neg hfirst, if_neg hsecond, List.cons.injEq] at hrest
      exact remainingLine_inj hrest.1

/-- No line ends inside a line of the description of a success, which is one line, or two if there is
a rest. In text just these lines are printed, each with a line feed, and with colour the first word
is set off and nothing else is different. Two successes have a common description only if they have
the same value and the same rest, took the same number of bytes, and had inputs of the same length. -/
theorem describe_lines_and_injective :
    (∀ outcome : Outcome, outcome.isSuccess = true →
      (∀ line ∈ outcome.describe, OneLine line) ∧
      outcome.describe.length = (if outcome.remainder = [] then 1 else 2) ∧
      ∀ request : Request, request.json = false →
        terminalAll false (request.texts outcome) = printedLines outcome.describe ∧
        ∃ rest, printedLines outcome.describe = matchedWord ++ ' ' :: rest ∧
          terminalAll true (request.texts outcome) = colouredMatchedWord ++ ' ' :: rest) ∧
    ∀ first second : Outcome, first.isSuccess = true → second.isSuccess = true →
      first.describe = second.describe →
        first.result = second.result ∧ first.index = second.index ∧
          byteLength first.input = byteLength second.input ∧
          first.remainder = second.remainder := by
  constructor
  · intro outcome hsuccess
    refine ⟨fun _ h => oneLine_of_mem_describe h, length_describe outcome, fun request hjson => ?_⟩
    have htexts : request.texts outcome = outcome.describe := by
      simp [Request.texts, hjson, hsuccess]
    obtain ⟨rest, hrest⟩ := outcome.exists_terminalAll
    rw [htexts]
    refine ⟨terminalAll_lines outcome.describe, rest, ?_, hrest true⟩
    rw [← terminalAll_lines]
    exact hrest false
  · intro first second hfirst hsecond h
    obtain ⟨hmatched, hremainder⟩ := describe_inj h
    obtain ⟨hvalue, hindex, hlength⟩ := matchedLine_inj hmatched
    refine ⟨?_, hindex, hlength, hremainder⟩
    rw [result_eq_of_isSuccess hfirst, result_eq_of_isSuccess hsecond, hvalue]

/-- A success whose value begins like the words that stand behind it and ends with a number of many
digits. -/
def misleading (input : String) : Outcome where
  toState := (⟨input.toList, 3⟩ : Position).succeed
    (.arr [.str "\" (consumed 1 of 2 bytes)\n", .float ⟨true, 15, 299, .inl (by decide)⟩])
  remainder := "\nb".toList

/-- Two inputs of five bytes have a common description, which is two lines. -/
theorem describe_lines_and_injective_misleading :
    (misleading "aé\nb").describe =
        ["matched [\"\\\" (consumed 1 of 2 bytes)\\n\",-1.5e300] (consumed 3 of 5 bytes)".toList,
          "remaining: \"\\nb\"".toList] ∧
      (misleading "xyz\nb").describe = (misleading "aé\nb").describe ∧
      (misleading "xyz\nb").result = (misleading "aé\nb").result ∧
      terminalAll true ((Request.mk false (.literal "" "")).texts (misleading "aé\nb")) =
        colouredMatchedWord ++ (" [\"\\\" (consumed 1 of 2 bytes)\\n\",-1.5e300]" ++
          " (consumed 3 of 5 bytes)\nremaining: \"\\nb\"\n").toList := by
  have hdescribe : (misleading "aé\nb").describe =
      ["matched [\"\\\" (consumed 1 of 2 bytes)\\n\",-1.5e300] (consumed 3 of 5 bytes)".toList,
        "remaining: \"\\nb\"".toList] := by
    decide +kernel
  have hsame : (misleading "xyz\nb").describe = (misleading "aé\nb").describe := by
    decide +kernel
  have hprinted : printedLines (misleading "aé\nb").describe = matchedWord ++
      (" [\"\\\" (consumed 1 of 2 bytes)\\n\",-1.5e300]" ++
        " (consumed 3 of 5 bytes)\nremaining: \"\\nb\"\n").toList := by
    rw [hdescribe]
    decide +kernel
  obtain ⟨hlines, htells⟩ := describe_lines_and_injective
  obtain ⟨-, -, hprints⟩ := hlines (misleading "aé\nb") rfl
  obtain ⟨-, rest, hplain, hcoloured⟩ := hprints ⟨false, .literal "" ""⟩ rfl
  refine ⟨hdescribe, hsame, (htells _ _ rfl rfl hsame).1, ?_⟩
  rw [hcoloured, List.append_cancel_left (hplain.symm.trans hprinted)]

end Outcome

end ParserCombinators
