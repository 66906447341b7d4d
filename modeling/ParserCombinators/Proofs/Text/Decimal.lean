import Mathlib.Data.List.Basic
import Mathlib.Data.List.TakeWhile
import ParserCombinators.Text.Decimal

/-!
# The form of decimal numbers

A decimal number without its sign is a row of digits, or has a point with digits behind it. So it has
at most one point, with a digit behind it, and a minus sign in front only. Either way it is a finite
floating point number.
-/

namespace ParserCombinators

variable {digits whole fraction text : Text}

/-- A decimal number without a sign is digits only, or it has a point. -/
theorem IsUnsignedDecimal.digits_or_pointed (h : IsUnsignedDecimal text) :
    (text ≠ [] ∧ ∀ c ∈ text, c.isDigit) ∨
      ∃ whole fraction, text = whole ++ '.' :: fraction ∧ (∀ c ∈ whole, c.isDigit) ∧
        fraction ≠ [] ∧ ∀ c ∈ fraction, c.isDigit := by
  obtain ⟨whole, point, fraction, rfl, hwhole, rfl | rfl, hfraction, hdigits⟩ := h
  · refine .inl ⟨by simp [hfraction], fun c hc => ?_⟩
    rcases List.mem_append.1 hc with hc | hc
    · exact hwhole c hc
    · exact hdigits c hc
  · exact .inr ⟨whole, fraction, rfl, hwhole, hfraction, hdigits⟩

/-- Digits are a finite number. -/
theorem isFinite_digits (h : digits ≠ []) (hdigits : ∀ c ∈ digits, c.isDigit) :
    isFinite digits := by
  simp [isFinite, List.takeWhile_eq_self_iff.2 hdigits, List.dropWhile_eq_nil_iff.2 hdigits, h,
    isExponent]

/-- Digits around a point are a finite number. -/
theorem isFinite_pointed (hwhole : ∀ c ∈ whole, c.isDigit) (h : fraction ≠ [])
    (hdigits : ∀ c ∈ fraction, c.isDigit) : isFinite (whole ++ '.' :: fraction) := by
  simp [isFinite, List.takeWhile_append_of_pos hwhole, List.dropWhile_append_of_pos hwhole,
    List.takeWhile_eq_self_iff.2 hdigits, List.dropWhile_eq_nil_iff.2 hdigits, h, isExponent]

/-- Decimal numbers without a sign are finite. -/
theorem IsUnsignedDecimal.isFinite (h : IsUnsignedDecimal text) : isFinite text := by
  obtain ⟨hne, hdigits⟩ | ⟨whole, fraction, rfl, hwhole, hne, hdigits⟩ := h.digits_or_pointed
  · exact isFinite_digits hne hdigits
  · exact isFinite_pointed hwhole hne hdigits

/-- Decimal numbers without a sign have digits. -/
theorem IsUnsignedDecimal.ne_nil (h : IsUnsignedDecimal text) : text ≠ [] := by
  obtain ⟨hne, -⟩ | ⟨whole, fraction, hpointed, -⟩ := h.digits_or_pointed
  · exact hne
  · simp [hpointed]

/-- Decimal numbers have digits. -/
theorem IsDecimal.ne_nil (h : IsDecimal text) : text ≠ [] := by
  obtain ⟨sign, unsigned, rfl, -, hunsigned⟩ := h
  exact List.append_ne_nil_of_right_ne_nil sign hunsigned.ne_nil

/-- A decimal number without a sign has digits and points only. -/
theorem IsUnsignedDecimal.digit_or_point (h : IsUnsignedDecimal text) {c : Char} (hc : c ∈ text) :
    c.isDigit ∨ c = '.' := by
  obtain ⟨-, hdigits⟩ | ⟨whole, fraction, rfl, hwhole, -, hdigits⟩ := h.digits_or_pointed
  · exact .inl (hdigits c hc)
  · obtain hc | rfl | hc : c ∈ whole ∨ c = '.' ∨ c ∈ fraction := by simpa using hc
    · exact .inl (hwhole c hc)
    · exact .inr rfl
    · exact .inl (hdigits c hc)

/-- A decimal number without a sign does not begin with one. -/
theorem IsUnsignedDecimal.head_not_sign (h : IsUnsignedDecimal text) {c : Char} {rest : Text}
    (htext : text = c :: rest) : c ≠ '+' ∧ c ≠ '-' := by
  have hc : c.isDigit ∨ c = '.' := h.digit_or_point (htext ▸ List.mem_cons_self)
  constructor <;> rintro rfl <;> revert hc <;> decide

/-- Digits are a decimal number without a sign. -/
theorem isUnsignedDecimal_digits (h : digits ≠ []) (hdigits : ∀ c ∈ digits, c.isDigit) :
    IsUnsignedDecimal digits :=
  ⟨[], [], digits, rfl, by simp, .inl rfl, h, hdigits⟩

/-- Digits around a point are one, too. -/
theorem isUnsignedDecimal_pointed (hwhole : ∀ c ∈ whole, c.isDigit) (h : fraction ≠ [])
    (hdigits : ∀ c ∈ fraction, c.isDigit) : IsUnsignedDecimal (whole ++ '.' :: fraction) :=
  ⟨whole, ['.'], fraction, rfl, hwhole, .inr rfl, h, hdigits⟩

/-- A decimal number has a minus sign in front only. -/
theorem IsDecimal.minus_in_front (h : IsDecimal text) {before after : Text}
    (htext : text = before ++ '-' :: after) : before = [] := by
  obtain ⟨sign, unsigned, rfl, hsign, hunsigned⟩ := h
  have hminus : '-' ∉ unsigned := by
    intro hmem
    rcases hunsigned.digit_or_point hmem with hdigit | hpoint
    · exact absurd hdigit (by decide)
    · exact absurd hpoint (by decide)
  rcases hsign with rfl | rfl
  · have hunsigned' : unsigned = before ++ '-' :: after := htext
    exact absurd (by simp [hunsigned']) hminus
  · cases before with
    | nil => rfl
    | cons d before =>
      have hunsigned' : unsigned = before ++ '-' :: after := List.tail_eq_of_cons_eq htext
      exact absurd (by simp [hunsigned']) hminus

/-- Behind its first character a decimal number has digits and points only. -/
theorem IsDecimal.digit_or_point (h : IsDecimal (whole ++ text)) (hwhole : whole ≠ []) {c : Char}
    (hc : c ∈ text) : c.isDigit ∨ c = '.' := by
  have hminus : c ≠ '-' := by
    rintro rfl
    obtain ⟨before, after, rfl⟩ := List.append_of_mem hc
    have hnil := h.minus_in_front (List.append_assoc whole before ('-' :: after)).symm
    exact hwhole (List.append_eq_nil_iff.1 hnil).1
  obtain ⟨sign, unsigned, heq, hsign, hunsigned⟩ := h
  have hmem : c ∈ sign ++ unsigned := heq ▸ List.mem_append_right whole hc
  rcases List.mem_append.1 hmem with hmem | hmem
  · rcases hsign with rfl | rfl
    · simp at hmem
    · exact absurd (List.mem_singleton.1 hmem) hminus
  · exact hunsigned.digit_or_point hmem

/-- Digits have no point. -/
theorem not_mem_point (h : ∀ c ∈ digits, c.isDigit) : '.' ∉ digits :=
  fun hmem => absurd (h '.' hmem) (by decide)

/-- A decimal number has at most one point, and a digit behind it. -/
theorem IsDecimal.point (h : IsDecimal text) : text.count '.' ≤ 1 ∧
    ∀ before after, text = before ++ '.' :: after → ∃ d rest, after = d :: rest ∧ d.isDigit := by
  obtain ⟨sign, unsigned, rfl, hsign, hunsigned⟩ := h
  have hnosign : '.' ∉ sign := by
    rcases hsign with rfl | rfl
    · simp
    · simp
  obtain ⟨-, hdigits⟩ | ⟨whole, fraction, rfl, hwhole, hne, hdigits⟩ := hunsigned.digits_or_pointed
  · have hnone : '.' ∉ sign ++ unsigned := by simp [hnosign, not_mem_point hdigits]
    refine ⟨by simp [List.count_eq_zero_of_not_mem hnone], fun before after heq => ?_⟩
    exact absurd (by simp [heq]) hnone
  · have hbefore : '.' ∉ sign ++ whole := by simp [hnosign, not_mem_point hwhole]
    have hafter : '.' ∉ fraction := not_mem_point hdigits
    rw [← List.append_assoc]
    constructor
    · rw [List.count_append, List.count_cons_self, List.count_eq_zero_of_not_mem hbefore,
        List.count_eq_zero_of_not_mem hafter]
    · intro before after heq
      obtain ⟨-, -, rfl⟩ := (List.append_cons_inj_of_notMem hbefore hafter).1 heq
      obtain ⟨d, rest, rfl⟩ := List.exists_cons_of_ne_nil hne
      exact ⟨d, rest, rfl, hdigits d List.mem_cons_self⟩

/-- Every decimal number can be read as a floating point number. -/
theorem IsDecimal.isFloat (h : IsDecimal text) : isFloat text := by
  obtain ⟨sign, unsigned, rfl, hsign, hunsigned⟩ := h
  have hwithout : withoutSign (sign ++ unsigned) = unsigned := by
    rcases hsign with rfl | rfl
    · cases unsigned with
      | nil => rfl
      | cons c rest =>
        obtain ⟨hplus, hminus⟩ := hunsigned.head_not_sign rfl
        simp [withoutSign, hplus, hminus]
    · rfl
  rw [ParserCombinators.isFloat, hwithout, hunsigned.isFinite, Bool.true_or]

end ParserCombinators
