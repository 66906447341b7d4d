import ParserCombinators.Proofs.Parser.Outcome
import ParserCombinators.Proofs.Regex.Longest

/-!
# Named matchers read the longest

A named matcher reads the longest beginning of what follows that belongs to its language. Where no
beginning does, it fails where it stands, and at the end of the text it fails for that reason.
-/

namespace ParserCombinators.Parser

variable {p : Parser String} {name : String} {language : Text → Prop} {fuel : Nat}
  {rest text : Text}

/-- The parser reads the longest beginning that belongs to the language, and its failures name what
it looks for. -/
structure ReadsLongest (p : Parser String) (name : String) (language : Text → Prop) : Prop where
  found : ∀ {α : Type} (fuel : Nat) (pos : Position) (value : α) (text : Text),
    pos.remainder? = some text → Begins language text →
      ∃ part, Longest language text part ∧ p.apply fuel (pos.succeed value) =
        .done ((pos.ahead (byteLength part)).succeed (String.ofList part))
  mismatch : ∀ {α : Type} (fuel : Nat) (pos : Position) (value : α) (text : Text),
    pos.remainder? = some text → text ≠ [] → ¬Begins language text →
      p.apply fuel (pos.succeed value) =
        .done (pos.fail (Failure.patternMismatch pos.index name))
  endOfInput : ∀ {α : Type} (fuel : Nat) (pos : Position) (value : α),
    pos.remainder? = some [] →
      p.apply fuel (pos.succeed value) = .done (pos.fail (Failure.endOfInput pos.index))

/-- A pattern reads the longest if its search finds it and it is never the empty text. -/
theorem matching_readsLongest (name : String) {r : Regex Unit} (h : r.FindsLongest language)
    (hempty : ¬language []) : (matching name r.search).ReadsLongest name language where
  found fuel pos value text hpos hbegins := by
    have hne : text ≠ [] := by
      rintro rfl
      obtain ⟨part, hpart, hlanguage⟩ := hbegins
      exact hempty (List.prefix_nil.1 hpart ▸ hlanguage)
    obtain ⟨part, hfind, hlongest⟩ | ⟨-, hnone⟩ := h text
    · exact ⟨part, hlongest, matching_found name hpos hne hfind⟩
    · exact absurd hbegins hnone
  mismatch fuel pos value text hpos hne hnone := by
    obtain ⟨part, -, hlongest⟩ | ⟨hfind, -⟩ := h text
    · exact absurd hlongest.begins hnone
    · exact matching_mismatch name hpos hne hfind
  endOfInput _ _ _ hpos := onRemainder_end _ hpos

/-- A run of characters of a class is read as a whole. -/
theorem runOf_readsLongest (name : String) {members : CharSet} {inClass : Char → Bool}
    (hclass : ∀ c, members.mem c = inClass c) :
    (matching name (Regex.runOf members).search).ReadsLongest name (IsRun inClass) := by
  rw [← funext hclass]
  exact matching_readsLongest name (Regex.findsLongest_runOf members) fun hempty => hempty.1 rfl

/-- The parser takes the longest beginning that belongs to the language. -/
theorem ReadsLongest.takes (h : p.ReadsLongest name language) {word : String}
    (hword : Longest language (word.toList ++ rest) word.toList) :
    p.Takes fuel word.toList rest word := by
  intro pos hpos
  obtain ⟨part, hpart, hrun⟩ := h.found fuel pos () _ hpos hword.begins
  rwa [hpart.unique hword, String.ofList_toList] at hrun

/-- A run of characters is taken up to one that does not go on with it. -/
theorem ReadsLongest.run_takes {members : Char → Bool} (h : p.ReadsLongest name (IsRun members))
    {word : String} (hword : IsRun members word.toList) {c : Char} {behind : Text}
    (hrest : rest = c :: behind) (hc : ¬members c) : p.Takes fuel word.toList rest word := by
  refine h.takes (longest_run hword fun d others hothers => ?_)
  rw [hrest] at hothers
  rwa [← List.head_eq_of_cons_eq hothers]

/-- Where nothing belongs to the language the parser refuses. -/
theorem ReadsLongest.refuses (h : p.ReadsLongest name language) (hnone : ¬Begins language text) :
    p.Refuses fuel text := by
  intro pos hpos
  by_cases hempty : text = []
  · exact ⟨pos, _, h.endOfInput fuel pos () (hempty ▸ hpos)⟩
  · exact ⟨pos, _, h.mismatch fuel pos () text hpos hempty hnone⟩

/-- What reads the longest fails at the end of the text, so its language is without the empty text. -/
theorem ReadsLongest.not_nil (h : p.ReadsLongest name language) : ¬language [] := by
  intro hnil
  have hend : (Position.start []).remainder? = some ("".toList ++ []) := rfl
  have hlongest : Longest language ("".toList ++ []) "".toList := longest_append hnil (by simp)
  have htakes : p.Takes 0 "".toList [] "" := h.takes hlongest
  exact htakes.not_fails hend ⟨_, _, h.endOfInput 0 (Position.start []) () hend⟩

/-- The named matchers search for the expressions that these texts write, to every engine. -/
theorem named_written (engine : Regex.Engine) :
    written? engine "letters" "^[A-Za-z]+" = some letters ∧
    written? engine "digits" "^[0-9]+" = some digits ∧
    written? engine "letters or digits" "^[0-9A-Za-z]+" = some lettersOrDigits ∧
    written? engine "floating point number" "^-?[0-9]*\\.?[0-9]+" = some floatingPoint ∧
    written? engine "whitespace" "^\\s+" = some whitespace :=
  ⟨rfl, rfl, rfl, rfl, rfl⟩

/-- The letters that are read are the longest run. -/
theorem letters_readsLongest : letters.ReadsLongest "letters" (IsRun Char.isAlpha) :=
  runOf_readsLongest "letters" CharSet.mem_latinLetter

/-- The digits that are read are the longest run. -/
theorem digits_readsLongest : digits.ReadsLongest "digits" (IsRun Char.isDigit) :=
  runOf_readsLongest "digits" CharSet.mem_latinDigit

/-- The letters and digits that are read are the longest run. -/
theorem lettersOrDigits_readsLongest :
    lettersOrDigits.ReadsLongest "letters or digits" (IsRun Char.isAlphanum) :=
  runOf_readsLongest "letters or digits" CharSet.mem_latinLetterOrDigit

/-- The decimal number that is read is the longest. -/
theorem floatingPoint_readsLongest :
    floatingPoint.ReadsLongest "floating point number" IsDecimal :=
  matching_readsLongest _ Regex.findsLongest_decimalNumber fun hempty => hempty.ne_nil rfl

/-- The white space that is read is the longest run. -/
theorem whitespace_readsLongest : whitespace.ReadsLongest "whitespace" (IsRun Unicode.isBlank) :=
  runOf_readsLongest "whitespace" fun _ => rfl

/-- The named matchers read the longest run of characters of their classes, or the longest decimal
number. There is a run exactly if the first character is in the class, and the longest one is all
characters of the class from there on. A decimal number has at most one point, with a digit behind
it, and a minus sign in front only. -/
theorem named_readsLongest :
    letters.ReadsLongest "letters" (IsRun Char.isAlpha) ∧
    digits.ReadsLongest "digits" (IsRun Char.isDigit) ∧
    lettersOrDigits.ReadsLongest "letters or digits" (IsRun Char.isAlphanum) ∧
    whitespace.ReadsLongest "whitespace" (IsRun Unicode.isBlank) ∧
    floatingPoint.ReadsLongest "floating point number" IsDecimal ∧
    (∀ members text, Begins (IsRun members) text ↔ ∃ c rest, text = c :: rest ∧ members c) ∧
    (∀ members text part, Longest (IsRun members) text part → part = text.takeWhile members) ∧
    (∀ number, IsDecimal number → number.count '.' ≤ 1 ∧
      (∀ before after, number = before ++ '.' :: after →
        ∃ d rest, after = d :: rest ∧ d.isDigit) ∧
      (∀ before after, number = before ++ '-' :: after → before = [])) := by
  refine ⟨letters_readsLongest, digits_readsLongest, lettersOrDigits_readsLongest,
    whitespace_readsLongest, floatingPoint_readsLongest, ?_, ?_, ?_⟩
  · exact fun members text => begins_isRun_iff
  · exact fun members text part hlongest => hlongest.eq_takeWhile
  · intro number hnumber
    obtain ⟨hcount, hdigit⟩ := hnumber.point
    exact ⟨hcount, hdigit, fun before after => hnumber.minus_in_front⟩

/-- A second point is left even in front of a digit. -/
example : floatingPoint.apply 0 (State.initial "-1.5.2".toList) =
    .done ((⟨"-1.5.2".toList, 4⟩ : Position).succeed "-1.5") := by cbv

end ParserCombinators.Parser
