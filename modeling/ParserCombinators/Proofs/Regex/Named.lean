import Mathlib.Data.List.TakeWhile
import ParserCombinators.Proofs.Regex.Extent

/-!
# What the named expressions find

The threads of a named expression are followed through a text. Runs of characters of a set take
all such characters that the text begins with. A decimal number takes an optional minus sign,
digits, and a point only where a digit follows it.
-/

namespace ParserCombinators

/-- The text does not go on with a character of the set. -/
def StopsAt (members : CharSet) (text : Text) : Prop :=
  ∀ c rest, text = c :: rest → members.mem c = false

/-- No decimal number goes on with the text. -/
abbrev EndsDecimal (text : Text) : Prop :=
  StopsAt (.union .latinDigit (.single '.')) text

/-- A text that begins with a character outside the set does not go on with one of the set. -/
theorem stopsAt_cons {members : CharSet} {c : Char} (h : members.mem c = false) (rest : Text) :
    StopsAt members (c :: rest) := by
  intro d after heq
  rwa [← List.head_eq_of_cons_eq heq]

namespace CharSet

/-- Characters are compared by their numbers. -/
theorem mem_range (first last c : Char) :
    (range first last).mem c = (c.val ≥ first.val && c.val ≤ last.val) := by
  rw [Bool.eq_iff_iff]
  simp only [mem, Bool.and_eq_true, decide_eq_true_eq, ge_iff_le, UInt32.le_iff_toNat_le]
  rfl

/-- The digits of the set are the ASCII digits. -/
theorem mem_latinDigit (c : Char) : latinDigit.mem c = c.isDigit :=
  mem_range '0' '9' c

/-- The letters of the set are the ASCII letters. -/
theorem mem_latinLetter (c : Char) : latinLetter.mem c = c.isAlpha := by
  rw [latinLetter, mem, mem_range, mem_range, ← Bool.decide_and]
  rfl

/-- The letters and digits of the set are those of ASCII. -/
theorem mem_latinLetterOrDigit (c : Char) : latinLetterOrDigit.mem c = c.isAlphanum := by
  rw [Char.isAlphanum, ← mem_latinLetter, ← mem_latinDigit, Bool.or_comm]
  exact Bool.or_assoc _ _ _

end CharSet

namespace Regex

variable {choices : List Nat} {mark : Nat} {members : CharSet} {before after : Option Char}

/-- What an anchored expression finds is matched from its own threads. -/
theorem find_eq_scan {r : Regex Unit} (hr : r.isAnchored = true) (text : Text) :
    r.find text = scan (List.range (r.number 0).2) none [[(r.number 0).1]] text :=
  find_eq_matchStart hr text

/-- At the end of a text only a way that accepts matches. -/
theorem scan_nil (threads : List Thread) :
    scan choices before threads [] =
      if Way.accept ∈ ways before none choices threads then some [] else none := by
  cases threads with
  | nil => simp [scan, ways]
  | cons thread threads => rw [scan]

/-- In front of a character the ways that read it are followed, and accepting is the last resort. -/
theorem scan_cons (threads : List Thread) (c : Char) (rest : Text) :
    scan choices before threads (c :: rest) =
      ((scan choices (some c) (advance c (ways before (some c) choices threads)) rest).map
        (c :: ·)).or
          (if Way.accept ∈ ways before (some c) choices threads then some [] else none) := by
  cases threads with
  | nil => simp [scan, ways, advance]
  | cons thread threads =>
    simp only [scan]
    split
    · next heq => rw [heq, Option.map_some, Option.some_or]
    · next heq => rw [heq, Option.map_none, Option.none_or]

/-- A way that reads the character leads on. -/
theorem advance_read {c : Char} (h : members.mem c) (next : Thread) (more : List Way) :
    advance c (.read members next :: more) = next :: advance c more := by
  simp [advance, h]

/-- A way that does not read the character leads nowhere. -/
theorem advance_skip {c : Char} (h : ¬ members.mem c) (next : Thread) (more : List Way) :
    advance c (.read members next :: more) = advance c more := by
  simp [advance, h]

/-- Threads with the same ways match the same. -/
theorem scan_congr {threads others : List Thread}
    (h : ∀ after, ways before after choices threads = ways before after choices others)
    (text : Text) : scan choices before threads text = scan choices before others text := by
  cases text with
  | nil => rw [scan_nil, scan_nil, h]
  | cons c rest => rw [scan_cons, scan_cons, h]

/-- Further rounds of a greedy loop over a set. -/
theorem ways_loop (h : mark ∈ choices) :
    ways before after choices [[loop mark (set members) true]] =
      [.read members [loop mark (set members) true], .accept] := by
  simp only [ways, h, if_true]

/-- A greedy loop over a set takes all characters of the set. -/
theorem scan_loop (h : mark ∈ choices) (text : Text) :
    scan choices before [[loop mark (set members) true]] text =
      some (text.takeWhile members.mem) := by
  induction text generalizing before with
  | nil => simp [scan_nil, ways_loop h]
  | cons c rest ih =>
    rw [scan_cons, ways_loop h, List.takeWhile_cons]
    by_cases hc : members.mem c
    · simp [advance, hc, ih]
    · simp [advance, hc, scan]

/-- A nonempty run takes all characters of the set, if there is one. -/
theorem scan_plus (h : mark ∈ choices) (text : Text) :
    scan choices before [[plus mark (set members) true]] text =
      if text.takeWhile members.mem = [] then none else some (text.takeWhile members.mem) := by
  have hways : ∀ after, ways before after choices [[plus mark (set members) true]] =
      [.read members [loop mark (set members) true]] := by
    intro after
    simp only [ways]
  cases text with
  | nil => simp [scan_nil, hways]
  | cons c rest =>
    rw [scan_cons, hways, List.takeWhile_cons]
    by_cases hc : members.mem c
    · simp [advance, hc, scan_loop h]
    · simp [advance, hc, scan]

/-- Characters of a set from the beginning of a text on. -/
theorem find_runOf (members : CharSet) (text : Text) :
    (runOf members).find text =
      if text.takeWhile members.mem = [] then none else some (text.takeWhile members.mem) := by
  rw [find_eq_scan rfl, ← scan_plus (List.mem_singleton_self 0)]
  apply scan_congr
  intro after
  simp only [runOf, number, ways, Look.holds, Option.isNone_none, if_true]

section DecimalNumber

/-- What is left of a decimal number behind its whole part. -/
abbrev fractionLeft : Regex Nat :=
  seq (alt 2 (set (.single '.')) empty) (plus 3 (set .latinDigit) true)

/-- The way on from a digit before the point. -/
abbrev wholeThread : Thread :=
  [loop 1 (set .latinDigit) true, fractionLeft]

/-- The way on from a digit that may be the last. -/
abbrev lastThread : Thread :=
  [loop 3 (set .latinDigit) true]

/-- The way on behind the sign. -/
abbrev unsignedThread : Thread :=
  [seq (loop 1 (set .latinDigit) true) fractionLeft]

/-- A point and the digits behind it, if there are any. -/
def pointedDigits? : Text → Option Text
  | [] => none
  | c :: rest =>
    if c = '.' ∧ rest.takeWhile CharSet.latinDigit.mem ≠ [] then
      some (c :: rest.takeWhile CharSet.latinDigit.mem)
    else none

/-- What a decimal number takes behind a digit before the point. -/
def decimalTail : Text → Text
  | [] => []
  | c :: rest =>
    if CharSet.latinDigit.mem c then c :: decimalTail rest
    else (pointedDigits? (c :: rest)).getD []

/-- What a decimal number without a sign takes. -/
def unsignedDecimal? : Text → Option Text
  | [] => none
  | c :: rest =>
    if CharSet.latinDigit.mem c then some (c :: decimalTail rest)
    else pointedDigits? (c :: rest)

/-- What a decimal number takes. -/
def decimal? : Text → Option Text
  | [] => none
  | c :: rest =>
    if c = '-' then (unsignedDecimal? rest).map ('-' :: ·) else unsignedDecimal? (c :: rest)

/-- The choices of a decimal number. -/
abbrev decimalChoices : List Nat :=
  [0, 1, 2, 3]

/-- Behind a digit before the point the number may go on, have its point or end. -/
theorem ways_whole {later : List Thread} (hlater : later = [lastThread] ∨
    later = [lastThread, lastThread]) :
    ways before after decimalChoices (wholeThread :: later) =
      [.read .latinDigit wholeThread, .read (.single '.') [plus 3 (set .latinDigit) true],
        .read .latinDigit lastThread, .read .latinDigit lastThread, .accept] := by
  rcases hlater with rfl | rfl
  · simp [ways]
  · simp [ways]

/-- Behind a minus sign the number has a digit or its point. -/
theorem ways_unsigned :
    ways before after decimalChoices [unsignedThread] =
      [.read .latinDigit wholeThread, .read (.single '.') [plus 3 (set .latinDigit) true],
        .read .latinDigit lastThread] := by
  simp [ways]

/-- The ways that read a point lead to the digits behind it. -/
theorem scan_point (rest : Text) :
    (scan decimalChoices (some '.') [[plus 3 (set .latinDigit) true]] rest).map ('.' :: ·) =
      pointedDigits? ('.' :: rest) := by
  rw [scan_plus (by decide), pointedDigits?]
  by_cases hrest : rest.takeWhile CharSet.latinDigit.mem = []
  · simp [hrest]
  · simp [hrest]

/-- A digit leads on in the whole part and perhaps to the last digits. -/
theorem advance_digit {c : Char} (hc : CharSet.latinDigit.mem c) (more : List Way) :
    advance c (.read .latinDigit wholeThread ::
      .read (.single '.') [plus 3 (set .latinDigit) true] :: more) =
        wholeThread :: advance c more := by
  have hpoint : ¬ (CharSet.single '.').mem c := by
    rw [CharSet.mem_single]
    rintro rfl
    exact absurd hc (by decide)
  rw [advance_read hc, advance_skip hpoint]

/-- A point leads to the last digits. -/
theorem advance_point (more : List Way) :
    advance '.' (.read .latinDigit wholeThread ::
      .read (.single '.') [plus 3 (set .latinDigit) true] :: more) =
        [plus 3 (set .latinDigit) true] :: advance '.' more := by
  rw [advance_skip (by decide), advance_read (by decide)]

/-- Any other character leads nowhere. -/
theorem advance_other {c : Char} (hdigit : ¬ CharSet.latinDigit.mem c) (hpoint : c ≠ '.')
    (more : List Way) :
    advance c (.read .latinDigit wholeThread ::
      .read (.single '.') [plus 3 (set .latinDigit) true] :: more) = advance c more := by
  rw [advance_skip hdigit, advance_skip (mt CharSet.mem_single.1 hpoint)]

/-- Behind a digit before the point. -/
theorem scan_whole {later : List Thread} (hlater : later = [lastThread] ∨
    later = [lastThread, lastThread]) (text : Text) :
    scan decimalChoices before (wholeThread :: later) text = some (decimalTail text) := by
  -- Without a point a digit may belong to either part. So behind the first digit one thread is left
  -- among the last digits, and from the second digit on there are two that go on alike.
  induction text generalizing before later with
  | nil => simp [scan_nil, ways_whole hlater, decimalTail]
  | cons c rest ih =>
    rw [scan_cons, ways_whole hlater, decimalTail]
    by_cases hc : CharSet.latinDigit.mem c
    · have hlast : advance c [.read .latinDigit lastThread, .read .latinDigit lastThread,
          .accept] = [lastThread, lastThread] := by
        rw [advance_read hc, advance_read hc]
        rfl
      rw [advance_digit hc, hlast, ih (.inr rfl), if_pos hc, Option.map_some, Option.some_or]
    · have hlast : advance c [.read .latinDigit lastThread, .read .latinDigit lastThread,
          .accept] = [] := by
        rw [advance_skip hc, advance_skip hc]
        rfl
      rw [if_neg hc]
      by_cases hpoint : c = '.'
      · subst hpoint
        rw [advance_point, hlast, ← scan_point]
        cases scan decimalChoices (some '.') [[plus 3 (set .latinDigit) true]] rest with
        | none => simp
        | some matched => rfl
      · rw [advance_other hc hpoint, hlast]
        simp [scan, pointedDigits?, hpoint]

/-- Behind a minus sign. -/
theorem scan_unsigned (text : Text) :
    scan decimalChoices before [unsignedThread] text = unsignedDecimal? text := by
  cases text with
  | nil => simp [scan_nil, ways_unsigned, unsignedDecimal?]
  | cons c rest =>
    rw [scan_cons, ways_unsigned, unsignedDecimal?]
    by_cases hc : CharSet.latinDigit.mem c
    · have hlast : advance c [.read .latinDigit lastThread] = [lastThread] :=
        advance_read hc _ _
      rw [advance_digit hc, hlast, scan_whole (.inl rfl), if_pos hc, Option.map_some,
        Option.some_or]
    · have hlast : advance c [.read .latinDigit lastThread] = [] :=
        advance_skip hc _ _
      rw [if_neg hc]
      by_cases hpoint : c = '.'
      · subst hpoint
        rw [advance_point, hlast, ← scan_point]
        simp
      · rw [advance_other hc hpoint, hlast]
        simp [scan, pointedDigits?, hpoint]

/-- The expression of a decimal number with its choices numbered. -/
theorem number_decimalNumber : decimalNumber.number 0 =
    (seq (look .start) (seq (alt 0 (set (.single '-')) empty)
      (seq (loop 1 (set .latinDigit) true) fractionLeft)), 4) := rfl

/-- At the beginning a decimal number has its sign or goes on without one. -/
theorem ways_decimalNumber : ways none after decimalChoices [[(decimalNumber.number 0).1]] =
    .read (.single '-') unsignedThread :: ways none after decimalChoices [unsignedThread] := by
  simp [number_decimalNumber, ways, Look.holds]

/-- What the expression of a decimal number finds. -/
theorem find_decimalNumber (text : Text) : decimalNumber.find text = decimal? text := by
  rw [find_eq_scan rfl]
  change scan decimalChoices none [[(decimalNumber.number 0).1]] text = decimal? text
  cases text with
  | nil => simp [scan_nil, ways_decimalNumber, ways_unsigned, decimal?]
  | cons c rest =>
    rw [scan_cons, ways_decimalNumber, decimal?]
    have haccept : Way.accept ∉ ways none (some c) decimalChoices [unsignedThread] := by
      simp [ways_unsigned]
    by_cases hsign : c = '-'
    · subst hsign
      have hother : advance '-' (ways none (some '-') decimalChoices [unsignedThread]) = [] := by
        rw [ways_unsigned, advance_other (by decide) (by decide)]
        exact advance_skip (by decide) _ _
      rw [advance_read (by decide), hother, scan_unsigned, if_pos rfl]
      cases unsignedDecimal? rest with
      | none => simp [haccept]
      | some matched => rfl
    · have hunsigned : scan decimalChoices none [unsignedThread] (c :: rest) =
          unsignedDecimal? (c :: rest) := scan_unsigned _
      rw [advance_skip (mt CharSet.mem_single.1 hsign), if_neg hsign, ← hunsigned, scan_cons]
      simp

/-- The whole part is taken before anything else. -/
theorem decimalTail_digits {digits : Text} (h : ∀ c ∈ digits, c.isDigit) (rest : Text) :
    decimalTail (digits ++ rest) = digits ++ decimalTail rest := by
  induction digits with
  | nil => rfl
  | cons c digits ih =>
    have hc : CharSet.latinDigit.mem c := by
      rw [CharSet.mem_latinDigit]
      exact h c List.mem_cons_self
    rw [List.cons_append, decimalTail, if_pos hc, ih fun d hd => h d (List.mem_cons_of_mem c hd)]
    rfl

end DecimalNumber

/-- The expression that takes all characters up to a certain one. -/
theorem find_until (stop : Char) (text : Text) :
    (seq (look .start) (loop () (set (.compl (.single stop))) true)).find text =
      some (text.takeWhile (· != stop)) := by
  have hmembers : (CharSet.compl (.single stop)).mem = (· != stop) := by
    funext c
    rw [CharSet.mem, bne, Bool.not_inj_iff, Bool.eq_iff_iff, CharSet.mem_single, beq_iff_eq]
  rw [find_eq_scan rfl, ← hmembers, ← scan_loop (List.mem_singleton_self 0)]
  apply scan_congr
  intro after
  simp only [number, ways, Look.holds, Option.isNone_none, if_true]

end Regex

end ParserCombinators
