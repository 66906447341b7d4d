import Mathlib.Algebra.Group.Nat.Defs
import Mathlib.Data.List.TakeWhile
import ParserCombinators.Json.Printer
import ParserCombinators.Json.Reader

/-!
# Numbers are read back

Integers and floating point numbers are written as numerals, and a numeral is read back from its
text up to a place where no number goes on. The numeral of a floating point number moves the point
among its digits and the exponent by as much, so it has the number as its value.
-/

namespace ParserCombinators

variable {digits rest : Text}

/-- No number goes on with the text. -/
def EndsNumber (text : Text) : Prop :=
  ∀ c ∈ text.head?, c.isDigit = false ∧ c ≠ '.' ∧ c ≠ 'e' ∧ c ≠ 'E'

/-- No digit goes on with the text. -/
def EndsDigits (text : Text) : Prop :=
  ∀ c ∈ text.head?, c.isDigit = false

/-- Where no number goes on, no digit does. -/
theorem EndsNumber.endsDigits (h : EndsNumber rest) : EndsDigits rest :=
  fun c hc => (h c hc).1

/-- The digits of a natural number are digits. -/
theorem isDigit_toDigits (n : Nat) : ∀ c ∈ Nat.toDigits 10 n, c.isDigit = true :=
  fun _ hc => Nat.isDigit_of_mem_toDigits (by omega) (by omega) hc

/-- Only zero is written with a zero in front. -/
theorem eq_zero_of_head_toDigits {n : Nat} (h : (Nat.toDigits 10 n).head? = some '0') : n = 0 := by
  induction n using Nat.strongRecOn with
  | ind n ih =>
    by_cases hn : n < 10
    · have hdigit : ∀ k < 10, Nat.digitChar k = '0' → k = 0 := by decide
      rw [Nat.toDigits_of_lt_base hn] at h
      exact hdigit n hn (Option.some.inj h)
    · have hhead : (Nat.toDigits 10 (n / 10)).head? = some '0' := by
        rw [Nat.toDigits_of_base_le (by omega) (by omega), List.head?_append] at h
        cases hdigits : Nat.toDigits 10 (n / 10) with
        | nil => exact absurd hdigits Nat.toDigits_ne_nil
        | cons c digits => simpa [hdigits] using h
      have := ih (n / 10) (by omega) hhead
      omega

/-- A natural number begins with a zero only if it is zero. -/
theorem toDigits_of_head {n : Nat} (h : (Nat.toDigits 10 n).head? = some '0') :
    Nat.toDigits 10 n = ['0'] := by
  rw [eq_zero_of_head_toDigits h, Nat.toDigits_zero]

/-- Digits begin as the first of them do. -/
theorem head_of_take {count : Nat} {c : Char} (h : (digits.take count).head? = some c) :
    digits.head? = some c := by
  rw [List.head?_take] at h
  split at h
  · cases h
  · exact h

namespace DecimalFloat

/-- A zero has no power of ten. -/
theorem ofParts_zero (negative : Bool) (exponent : Int) :
    ofParts negative 0 exponent = ⟨negative, 0, 0, .inr ⟨rfl, rfl⟩⟩ := by
  rw [ofParts, dif_pos rfl]

/-- A number is made of its parts. -/
theorem ofParts_self (x : DecimalFloat) : ofParts x.negative x.digits x.exponent = x := by
  obtain ⟨negative, digits, exponent, hlast | ⟨rfl, rfl⟩⟩ := x
  · have hzero : digits ≠ 0 := by
      rintro rfl
      exact hlast rfl
    rw [ofParts, dif_neg hzero, dif_neg hlast]
  · exact ofParts_zero negative 0

/-- A zero behind the digits is a power of ten. -/
theorem ofParts_ten_mul (negative : Bool) (digits : Nat) (exponent : Int) :
    ofParts negative (10 * digits) exponent = ofParts negative digits (exponent + 1) := by
  by_cases hzero : digits = 0
  · rw [hzero, Nat.mul_zero, ofParts_zero, ofParts_zero]
  · rw [ofParts, dif_neg (by omega), dif_pos (by omega), Nat.mul_div_cancel_left _ (by omega)]

/-- So are zeros. -/
theorem ofParts_zeros (negative : Bool) (digits zeros : Nat) (exponent : Int) :
    ofParts negative (10 ^ zeros * digits) exponent =
      ofParts negative digits (exponent + zeros) := by
  induction zeros generalizing exponent with
  | zero => simp
  | succ zeros ih =>
    rw [Nat.pow_succ', Nat.mul_assoc, ofParts_ten_mul, ih, Int.natCast_succ]
    congr 1
    omega

end DecimalFloat

/-- A numeral has digits in front of the point, which begin with a zero only if they are that
digit. -/
structure Numeral.WellFormed (n : Numeral) : Prop where
  ne_nil : n.whole ≠ []
  whole : ∀ c ∈ n.whole, c.isDigit = true
  leading : n.whole.head? = some '0' → n.whole = ['0']
  fraction : ∀ c ∈ n.fraction, c.isDigit = true

/-- The numeral for an integer. -/
def Numeral.ofInt (n : Int) : Numeral where
  negative := n < 0
  whole := Nat.toDigits 10 n.natAbs
  fraction := []
  exponent := none

namespace Numeral

/-- An integer is written as a number. -/
theorem ofInt_wellFormed (n : Int) : (ofInt n).WellFormed where
  ne_nil := Nat.toDigits_ne_nil
  whole := isDigit_toDigits n.natAbs
  leading := toDigits_of_head
  fraction := by simp [ofInt]

/-- The text of the numeral for an integer is its decimal digits. -/
theorem written_ofInt (n : Int) : (ofInt n).written = Value.decimal n := by
  by_cases hneg : n < 0
  · simp [ofInt, written, fractionText, exponentText, Value.decimal, hneg]
  · simp [ofInt, written, fractionText, exponentText, Value.decimal, hneg]

/-- The value of the numeral for an integer is the integer. -/
theorem ofNumeral_ofInt (n : Int) : Value.ofNumeral (ofInt n) = .int n := by
  have hdigits : Nat.ofDigitChars 10 (Nat.toDigits 10 n.natAbs) 0 = n.natAbs :=
    Nat.ofDigitChars_ten_toDigits
  simp only [Value.ofNumeral, ofInt, List.append_nil, hdigits, and_self, if_true,
    Value.int.injEq, decide_eq_true_eq]
  split <;> omega

end Numeral

namespace DecimalFloat

variable {x : DecimalFloat}

/-- A number with a zero in front of its digits is zero. -/
theorem exponent_of_head (h : (Nat.toDigits 10 x.digits).head? = some '0') : x.exponent = 0 := by
  rcases x.normal with hlast | ⟨-, hexponent⟩
  · rw [eq_zero_of_head_toDigits h] at hlast
    exact absurd rfl hlast
  · exact hexponent

/-- A floating point number is written as a number. -/
theorem numeral_wellFormed (x : DecimalFloat) : x.numeral.WellFormed := by
  have hne : Nat.toDigits 10 x.digits ≠ [] := Nat.toDigits_ne_nil
  have hdigits := isDigit_toDigits x.digits
  have hzeros : ∀ n, ∀ c ∈ List.replicate n '0', c.isDigit = true := by
    intro n c hc
    rw [List.eq_of_mem_replicate hc]
    rfl
  unfold numeral
  dsimp only
  split_ifs with hwhole hpoint hsmall
  · refine ⟨by simp [hne], List.forall_mem_append.2 ⟨hdigits, hzeros _⟩, fun hhead => ?_, hzeros 1⟩
    have hhead' : (Nat.toDigits 10 x.digits).head? = some '0' := by
      rwa [List.head?_append, Option.or_of_isSome (by simp [hne])] at hhead
    rw [exponent_of_head hhead', toDigits_of_head hhead']
    rfl
  · have htake : (Nat.toDigits 10 x.digits).take
        ((Nat.toDigits 10 x.digits).length + x.exponent).toNat ≠ [] := by
      rw [ne_eq, List.take_eq_nil_iff, not_or]
      exact ⟨by omega, hne⟩
    refine ⟨htake, fun c hc => hdigits c (List.mem_of_mem_take hc), fun hhead => ?_,
      fun c hc => hdigits c (List.mem_of_mem_drop hc)⟩
    -- A zero would have been written without an exponent.
    rw [exponent_of_head (head_of_take hhead)] at hwhole hpoint
    omega
  · exact ⟨by simp, hzeros 1, fun _ => rfl, List.forall_mem_append.2 ⟨hzeros _, hdigits⟩⟩
  · refine ⟨by simp [hne], fun c hc => hdigits c (List.mem_of_mem_take hc), fun hhead => ?_,
      fun c hc => hdigits c (List.mem_of_mem_drop hc)⟩
    dsimp only
    rw [toDigits_of_head (head_of_take hhead)]
    rfl

/-- A numeral with a point or an exponent has a number as its value if it has the digits of the
number, with zeros behind them, and the place of the point and the exponent make up for the zeros. -/
theorem ofNumeral_eq {n : Numeral} (zeros : Nat) (hsign : n.negative = x.negative)
    (hpoint : n.fraction ≠ [] ∨ n.exponent ≠ none)
    (hdigits : Nat.ofDigitChars 10 (n.whole ++ n.fraction) 0 = 10 ^ zeros * x.digits)
    (hexponent : n.exponent.getD 0 - n.fraction.length + zeros = x.exponent) :
    Value.ofNumeral n = .float x := by
  have hfloat : ¬(n.fraction = [] ∧ n.exponent = none) := by
    rwa [not_and_or]
  simp only [Value.ofNumeral, if_neg hfloat, hdigits, hsign, ofParts_zeros, hexponent,
    ofParts_self]

/-- The value of the numeral for a floating point number is the number. -/
theorem ofNumeral_numeral (x : DecimalFloat) : Value.ofNumeral x.numeral = .float x := by
  have hlength : 0 < (Nat.toDigits 10 x.digits).length := Nat.length_toDigits_pos
  have hdigits : Nat.ofDigitChars 10 (Nat.toDigits 10 x.digits) 0 = x.digits :=
    Nat.ofDigitChars_ten_toDigits
  unfold numeral
  dsimp only
  split_ifs with hwhole hpoint hsmall
  · -- Behind the point stands one more zero.
    refine ofNumeral_eq (x.exponent.toNat + 1) rfl (.inl (by simp)) ?_ ?_
    · have hzeros : List.replicate x.exponent.toNat '0' ++ ['0'] =
          List.replicate (x.exponent.toNat + 1) '0' := List.replicate_succ'.symm
      rw [List.append_assoc, hzeros, Nat.ofDigitChars_append, hdigits,
        Nat.ofDigitChars_replicate_zero]
    · simp only [Option.getD_none, List.length_singleton]
      omega
  · refine ofNumeral_eq 0 rfl (.inl ?_) ?_ ?_
    · rw [ne_eq, List.drop_eq_nil_iff]
      omega
    · rw [List.take_append_drop, hdigits, Nat.pow_zero, Nat.one_mul]
    · simp only [Option.getD_none, List.length_drop]
      omega
  · refine ofNumeral_eq 0 rfl (.inl (by simp [Nat.toDigits_ne_nil])) ?_ ?_
    · change Nat.ofDigitChars 10 (List.replicate (_ + 1) '0' ++ Nat.toDigits 10 x.digits) 0 = _
      rw [Nat.ofDigitChars_append, Nat.ofDigitChars_replicate_zero, Nat.mul_zero, hdigits,
        Nat.pow_zero, Nat.one_mul]
    · simp only [Option.getD_none, List.length_append, List.length_replicate]
      omega
  · refine ofNumeral_eq 0 rfl (.inr (by simp)) ?_ ?_
    · rw [List.take_append_drop, hdigits, Nat.pow_zero, Nat.one_mul]
    · simp only [Option.getD_some, List.length_drop]
      omega

/-- Zero keeps its sign, and a number with many digits in front of its point has an exponent. -/
example : (ofParts true 0 0).numeral.written = "-0.0".toList ∧
    (ofParts false 1234 30).numeral.written = "1.234e33".toList ∧
    (ofParts false 5 (-5)).numeral.written = "0.00005".toList := by cbv

end DecimalFloat

namespace Value

/-- Digits are read up to something else. -/
theorem readDigits_append (hne : digits ≠ []) (hdigits : ∀ c ∈ digits, c.isDigit = true)
    (hrest : EndsDigits rest) : readDigits (digits ++ rest) = some (digits, rest) := by
  have hstop : rest.takeWhile Char.isDigit = [] ∧ rest.dropWhile Char.isDigit = rest := by
    cases rest with
    | nil => exact ⟨rfl, rfl⟩
    | cons c rest =>
      have hc := hrest c rfl
      exact ⟨List.takeWhile_cons_of_neg (by simp [hc]), List.dropWhile_cons_of_neg (by simp [hc])⟩
  have htake : (digits ++ rest).takeWhile Char.isDigit = digits := by
    rw [List.takeWhile_append_of_pos hdigits, hstop.1, List.append_nil]
  have hdrop : (digits ++ rest).dropWhile Char.isDigit = rest := by
    rw [List.dropWhile_append_of_pos hdigits, hstop.2]
  simp only [readDigits, htake, hdrop, if_neg (mt List.isEmpty_iff.1 hne)]

/-- Digits do not begin with anything else. -/
theorem append_ne_cons (hne : digits ≠ []) (hdigits : ∀ c ∈ digits, c.isDigit = true) (rest : Text)
    {d : Char} (hd : d.isDigit = false) (after : Text) : digits ++ rest ≠ d :: after := by
  obtain ⟨c, more, rfl⟩ := List.exists_cons_of_ne_nil hne
  intro heq
  have hc := hdigits c List.mem_cons_self
  rw [List.head_eq_of_cons_eq heq, hd] at hc
  cases hc

/-- A power of ten is read back. -/
theorem readPower_decimal (n : Int) (hrest : EndsNumber rest) :
    readPower (decimal n ++ rest) = some (n, rest) := by
  have hread := readDigits_append Nat.toDigits_ne_nil (isDigit_toDigits n.natAbs) hrest.endsDigits
  have hvalue : Nat.ofDigitChars 10 (Nat.toDigits 10 n.natAbs) 0 = n.natAbs :=
    Nat.ofDigitChars_ten_toDigits
  by_cases hneg : n < 0
  · simp only [decimal, if_pos hneg, List.cons_append, readPower, hread, Option.map_some, hvalue,
      Option.some.injEq, Prod.mk.injEq, and_true]
    omega
  · have hhead : ∀ d : Char, d.isDigit = false → ∀ after,
        Nat.toDigits 10 n.natAbs ++ rest ≠ d :: after := fun _ =>
      append_ne_cons Nat.toDigits_ne_nil (isDigit_toDigits n.natAbs) rest
    have hminus := hhead '-' (by decide)
    have hplus := hhead '+' (by decide)
    rw [decimal, if_neg hneg, readPower.eq_3 _ hminus hplus, hread]
    simp only [Option.map_some, hvalue, Option.some.injEq, Prod.mk.injEq, and_true]
    omega

/-- The power of ten of a numeral is read back. -/
theorem readExponent_text (exponent : Option Int) (hrest : EndsNumber rest) :
    readExponent (exponentText exponent ++ rest) = some (exponent, rest) := by
  cases exponent with
  | none =>
    cases rest with
    | nil => rfl
    | cons c rest =>
      obtain ⟨-, -, hsmall, hgreat⟩ := hrest c rfl
      simp [exponentText, readExponent, hsmall, hgreat]
  | some n =>
    change (readPower (decimal n ++ rest)).map _ = _
    rw [readPower_decimal n hrest]
    rfl

/-- The point and the digits behind it are read back. -/
theorem readFraction_text {fraction : Text} (hdigits : ∀ c ∈ fraction, c.isDigit = true)
    (hrest : ∀ c ∈ rest.head?, c.isDigit = false ∧ c ≠ '.') :
    readFraction (fractionText fraction ++ rest) = some (fraction, rest) := by
  by_cases hfraction : fraction = []
  · subst hfraction
    cases rest with
    | nil => rfl
    | cons c rest =>
      refine readFraction.eq_2 _ fun after hafter => ?_
      exact (hrest c rfl).2 (List.head_eq_of_cons_eq hafter)
  · rw [fractionText, if_neg hfraction]
    exact readDigits_append hfraction hdigits fun c hc => (hrest c hc).1

/-- The digits in front of the point are read back. -/
theorem readWhole_append {n : Numeral} (h : n.WellFormed) (hrest : EndsDigits rest) :
    readWhole (n.whole ++ rest) = some (n.whole, rest) := by
  have hleading : n.whole.head? ≠ some '0' ∨ n.whole = ['0'] := by
    by_cases hzero : n.whole.head? = some '0'
    · exact .inr (h.leading hzero)
    · exact .inl hzero
  rw [readWhole, readDigits_append h.ne_nil h.whole hrest, Option.filter_some,
    if_pos (decide_eq_true hleading)]

/-- Neither a digit nor a point goes on with a power of ten and what stands behind it. -/
theorem head_exponentText (exponent : Option Int) (hrest : EndsNumber rest) :
    ∀ c ∈ (exponentText exponent ++ rest).head?, c.isDigit = false ∧ c ≠ '.' := by
  cases exponent with
  | none => exact fun c hc => ⟨(hrest c hc).1, (hrest c hc).2.1⟩
  | some n =>
    intro c hc
    cases hc
    decide

/-- No digit goes on with a point. -/
theorem endsDigits_fractionText (fraction : Text) (hrest : EndsDigits rest) :
    EndsDigits (fractionText fraction ++ rest) := by
  unfold fractionText
  split
  · exact hrest
  · intro c hc
    cases hc
    rfl

/-- A numeral without its sign is read back. -/
theorem readUnsigned_text {n : Numeral} (h : n.WellFormed) (hrest : EndsNumber rest) :
    readUnsigned n.negative (n.whole ++ (fractionText n.fraction ++
      (exponentText n.exponent ++ rest))) = some (n, rest) := by
  have hpower := head_exponentText n.exponent hrest
  have hpoint := endsDigits_fractionText n.fraction fun c hc => (hpower c hc).1
  simp only [readUnsigned, readWhole_append h hpoint, readFraction_text h.fraction hpower,
    readExponent_text n.exponent hrest, bind, Option.bind_some, pure]

/-- A numeral is read back. -/
theorem readNumeral_written {n : Numeral} (h : n.WellFormed) (hrest : EndsNumber rest) :
    readNumeral (n.written ++ rest) = some (n, rest) := by
  have hread := readUnsigned_text h hrest
  cases hsign : n.negative with
  | true =>
    simp only [Numeral.written, hsign, if_true, List.append_assoc, List.singleton_append,
      readNumeral]
    rwa [hsign] at hread
  | false =>
    simp only [Numeral.written, hsign, Bool.false_eq_true, if_false, List.append_assoc,
      List.nil_append]
    rw [readNumeral.eq_2 _ (append_ne_cons h.ne_nil h.whole _ rfl)]
    rwa [hsign] at hread

/-- A numeral begins with a minus sign or a digit. -/
theorem exists_head_written {n : Numeral} (h : n.WellFormed) :
    ∃ c text, n.written = c :: text ∧ (c = '-' ∨ c.isDigit = true) := by
  obtain ⟨c, digits, hwhole⟩ := List.exists_cons_of_ne_nil h.ne_nil
  have hc : c.isDigit = true := h.whole c (hwhole ▸ List.mem_cons_self)
  cases hsign : n.negative with
  | true =>
    refine ⟨'-', n.whole ++ fractionText n.fraction ++ exponentText n.exponent, ?_, .inl rfl⟩
    simp [Numeral.written, hsign]
  | false =>
    refine ⟨c, digits ++ fractionText n.fraction ++ exponentText n.exponent, ?_, .inr hc⟩
    simp [Numeral.written, hsign, hwhole]

end Value

end ParserCombinators
