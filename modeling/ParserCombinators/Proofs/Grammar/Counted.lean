import ParserCombinators.Grammar.Counted
import ParserCombinators.Grammar.Meaning
import ParserCombinators.Proofs.Parser.Longest
import ParserCombinators.Proofs.Parser.Stepwise

/-!
# Counted lists are read as they are counted

The number in front of a list says how many words are read, whatever stands behind them. If the
number is that of the words, they are the value, and all that follows is left. If it is greater, a
word is missing, and the parser fails at the place where it should begin.
-/

namespace ParserCombinators

open ParserCombinators.Parser

/-- The text spells the number in decimal digits. Any zeros may stand in front. -/
structure Spells (spelling : Text) (n : Nat) : Prop where
  isRun : IsRun Char.isDigit spelling
  value : Nat.ofDigitChars 10 spelling 0 = n

/-- The usual spelling of a number, with any zeros in front. -/
theorem spells_toDigits (zeros n : Nat) :
    Spells (List.replicate zeros '0' ++ Nat.toDigits 10 n) n where
  isRun := by
    refine ⟨List.append_ne_nil_of_right_ne_nil _ Nat.toDigits_ne_nil, fun c hc => ?_⟩
    rcases List.mem_append.1 hc with hc | hc
    · rw [List.eq_of_mem_replicate hc]
      rfl
    · exact Nat.isDigit_of_mem_toDigits (by omega) (by omega) hc
  value := by
    induction zeros with
    | zero => exact Nat.ofDigitChars_ten_toDigits
    | succ zeros ih => exact ih

/-- A number that is spelled is counted if it is not too large. -/
theorem Spells.readCount? {spelling : String} {n : Nat} (h : Spells spelling.toList n)
    (hn : n ≤ 1000) : (Value.str spelling).readCount? = some n := by
  obtain ⟨⟨hne, hdigits⟩, hvalue⟩ := h
  have hsign : ∀ rest, spelling.toList ≠ '+' :: rest := by
    intro rest hplus
    exact absurd (hdigits '+' (hplus ▸ List.mem_cons_self)) (by decide)
  have hall : spelling.toList.all Char.isDigit = true := List.all_eq_true.2 hdigits
  have hempty : spelling.toList.isEmpty = false := by simpa using hne
  have hfold : spelling.toList.foldl (fun n c => 10 * n + (c.toNat - 48)) 0 = n := hvalue
  simp [Value.readCount?, hall, hempty, hfold, hn]

/-- How a word fails that is missing in front of a text. -/
def missingWord (index : Nat) (tail : Text) : Failure :=
  if tail = [] then Failure.endOfInput index else Failure.patternMismatch index "letters"

section Words

variable {r : String → Parser Value} {fuel n : Nat} {pos : Position} {tail : Text}
  {spelling word : String} {words : List String}

/-- A run of characters is taken up to a mark that does not go on with it. -/
theorem Parser.ReadsLongest.marked_takes {p : Parser String} {name : String}
    {members : Char → Bool} (h : p.ReadsLongest name (IsRun members))
    (hword : IsRun members word.toList) {mark : String} {c : Char} {behind : Text}
    (hmark : mark.toList = c :: behind) (hc : ¬members c) :
    ((p.map Value.str).skip ((Parser.literal mark).map Value.str)).Takes fuel
      (word.toList ++ mark.toList) tail (.str word) := by
  have hrun : p.Takes fuel word.toList (mark.toList ++ tail) word :=
    h.run_takes hword (by rw [hmark, List.cons_append]) hc
  have hstop : (Parser.literal mark).Takes fuel mark.toList tail mark :=
    literal_takes (by simp [hmark])
  exact (hrun.map Value.str).skip (hstop.map Value.str)

/-- A word is taken up to its comma. -/
theorem Grammar.word_takes (hword : IsRun Char.isAlpha word.toList) :
    (Grammar.word.denote r).Takes fuel (word.toList ++ ",".toList) tail (.str word) :=
  letters_readsLongest.marked_takes hword rfl (by decide)

/-- A number is taken up to its colon. -/
theorem Grammar.count_takes (h : IsRun Char.isDigit spelling.toList) :
    ((Grammar.skip (.matcher .digits) (.literal ":")).denote r).Takes fuel
      (spelling.toList ++ ":".toList) tail (.str spelling) :=
  digits_readsLongest.marked_takes h rfl (by decide)

/-- Where no letter stands, no word does. -/
theorem Grammar.word_fails (hpos : pos.remainder? = some tail)
    (htail : ∀ c rest, tail = c :: rest → ¬c.isAlpha) :
    (Grammar.word.denote r).transition fuel pos =
      .done (pos.fail (missingWord pos.index tail)) := by
  have hletters : letters.transition fuel pos =
      .done (pos.fail (missingWord pos.index tail)) := by
    unfold missingWord
    split
    · next hend => exact letters_readsLongest.endOfInput fuel pos () (hend ▸ hpos)
    · next hmore =>
      refine letters_readsLongest.mismatch fuel pos () tail hpos hmore fun hbegins => ?_
      obtain ⟨c, rest, hrest, hc⟩ := begins_isRun_iff.1 hbegins
      exact htail c rest hrest hc
  have hmapped : (letters.map Value.str).transition fuel pos = .done (pos.fail _) :=
    map_eq_fail_iff.2 hletters
  exact map_eq_fail_iff.2 (followedBy_of_fail hmapped _)

/-- Words are taken one after another by as many copies of the parser of a word. -/
theorem Grammar.words_takes (hwords : ∀ word ∈ words, IsRun Char.isAlpha word.toList) :
    (Parser.sequence (List.replicate words.length (Grammar.word.denote r))).Takes fuel
      (writtenWords words) tail (words.map .str) := by
  refine sequence_takes fun before word after hsplit => ?_
  have hmem : word ∈ words := hsplit ▸ by simp
  exact Grammar.word_takes (hwords word hmem)

/-- Copies of a grammar have copies of its parser. -/
theorem Grammar.denoteAll_replicate (n : Nat) (g : Grammar) :
    Grammar.denoteAll r (List.replicate n g) = List.replicate n (g.denote r) := by
  induction n with
  | zero => rfl
  | succ n ih => rw [List.replicate_succ, List.replicate_succ, denoteAll, ih]

/-- Behind a number as many words are read as it says. -/
theorem Grammar.times_word (h : Spells spelling.toList n) (hn : n ≤ 1000) :
    ((Continuation.times .word).choose (.str spelling)).denote r =
      (Parser.sequence (List.replicate n (Grammar.word.denote r))).map .arr := by
  simp only [Continuation.choose, h.readCount? hn, denote, denoteAll_replicate]

/-- Words that are as many as the number in front says are taken with it. -/
theorem Grammar.counted_takes (hspelling : Spells spelling.toList words.length)
    (hn : words.length ≤ 1000) (hwords : ∀ word ∈ words, IsRun Char.isAlpha word.toList) :
    (Grammar.counted.denote r).Takes fuel (writtenCounted spelling words) tail
      (.arr (words.map .str)) := by
  refine (count_takes hspelling.isRun).chain ?_
  rw [times_word hspelling hn]
  exact (words_takes hwords).map Value.arr

/-- Where fewer words stand than the number in front says, the parser fails behind the last of them,
as a word does there. -/
theorem Grammar.counted_fails (hspelling : Spells spelling.toList n) (hn : n ≤ 1000)
    (hwords : ∀ word ∈ words, IsRun Char.isAlpha word.toList) (hless : words.length < n)
    (htail : ∀ c rest, tail = c :: rest → ¬c.isAlpha)
    (hpos : pos.remainder? = some (writtenCounted spelling words ++ tail)) {last : Position}
    (hlast : last = pos.ahead (byteLength (writtenCounted spelling words))) :
    (Grammar.counted.denote r).transition fuel pos =
      .done (last.fail (missingWord last.index tail)) := by
  obtain ⟨missing, rfl⟩ : ∃ m, n = words.length + (m + 1) := ⟨n - words.length - 1, by omega⟩
  have hmissing : (Grammar.word.denote r).transition fuel last =
      .done (last.fail (missingWord last.index tail)) :=
    word_fails (hlast ▸ Position.remainder?_ahead hpos) htail
  rw [writtenCounted, List.append_assoc] at hpos
  have hcount : ((Grammar.skip (.matcher .digits) (.literal ":")).denote r).Takes fuel
      (spelling.toList ++ ":".toList) (writtenWords words ++ tail) (.str spelling) :=
    count_takes hspelling.isRun
  have hread : (Parser.sequence (List.replicate words.length (Grammar.word.denote r))).transition
      fuel (pos.ahead (byteLength (spelling.toList ++ ":".toList))) =
        .done (last.succeed (words.map .str)) := by
    rw [words_takes hwords _ (Position.remainder?_ahead hpos), Position.ahead_ahead,
      ← byteLength_append, hlast]
    rfl
  refine chain_eq_fail_iff.2 (.inr ⟨_, _, hcount pos hpos, ?_⟩)
  rw [times_word hspelling hn, map_eq_fail_iff, List.replicate_add, List.replicate_succ]
  exact sequence_eq_fail_iff.2 ⟨_, _, _, _, _, rfl, sequence_eq_succeed_iff.1 hread, hmissing⟩

end Words

/-- On a number of words that are there, whatever text stands behind them, the grammar succeeds with
all of them, right behind the last one. On a greater number, and a text behind the words that does
not begin with a letter, it fails right behind the last one: since the text ends there, or since
there is no word. -/
theorem Grammar.run_counted (rules : Rules) {spelling : String} {n : Nat}
    (hspelling : Spells spelling.toList n) (hn : n ≤ 1000) {words : List String}
    (hwords : ∀ word ∈ words, IsRun Char.isAlpha word.toList) (tail : Text) :
    (words.length = n →
      Grammar.counted.run rules (writtenCounted spelling words ++ tail) =
        .done ((⟨writtenCounted spelling words ++ tail,
          byteLength (writtenCounted spelling words)⟩ : Position).succeed
            (.arr (words.map .str)))) ∧
    (words.length < n → (∀ c rest, tail = c :: rest → ¬c.isAlpha) →
      Grammar.counted.run rules (writtenCounted spelling words ++ tail) =
        .done ((⟨writtenCounted spelling words ++ tail,
          byteLength (writtenCounted spelling words)⟩ : Position).fail
            (missingWord (byteLength (writtenCounted spelling words)) tail))) := by
  have hstart : (Position.start (writtenCounted spelling words ++ tail)).remainder? =
      some (writtenCounted spelling words ++ tail) := dropBytes?_zero _
  have hlast : (⟨writtenCounted spelling words ++ tail,
      byteLength (writtenCounted spelling words)⟩ : Position) =
        (Position.start (writtenCounted spelling words ++ tail)).ahead
          (byteLength (writtenCounted spelling words)) := by
    rw [Position.start, Position.ahead, Nat.zero_add]
  constructor
  · rintro rfl
    rw [hlast]
    exact Grammar.counted_takes hspelling hn hwords _ hstart
  · intro hless htail
    exact Grammar.counted_fails hspelling hn hwords hless htail hstart hlast

/-- A number with zeros in front, and text behind the words that goes on like them; and a number that
is too great, in front of a letter that no word has. -/
theorem Grammar.run_counted_zeros :
    Spells "002".toList 2 ∧
    Grammar.counted.run [] "002:ab,c,de,".toList =
      .done ((⟨"002:ab,c,de,".toList, 9⟩ : Position).succeed (.arr [.str "ab", .str "c"])) ∧
    Spells "10".toList 10 ∧
    Grammar.counted.run [] "10:ab,c,é,".toList =
      .done ((⟨"10:ab,c,é,".toList, 8⟩ : Position).fail (Failure.patternMismatch 8 "letters")) := by
  have hzeros : Spells "002".toList 2 := spells_toDigits 2 2
  have hten : Spells "10".toList 10 := spells_toDigits 0 10
  have hwords : ∀ word ∈ ["ab", "c"], IsRun Char.isAlpha word.toList := by
    simp [IsRun]
  have htail : ∀ c rest, "é,".toList = c :: rest → ¬c.isAlpha := by
    intro c rest hcons
    rw [← List.head_eq_of_cons_eq hcons]
    decide
  have hall := (Grammar.run_counted [] hzeros (by omega) hwords "de,".toList).1 rfl
  have hmissing := (Grammar.run_counted [] hten (by omega) hwords "é,".toList).2 (by decide) htail
  exact ⟨hzeros, hall, hten, hmissing⟩

end ParserCombinators
