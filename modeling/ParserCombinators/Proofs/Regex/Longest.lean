import ParserCombinators.Proofs.Regex.Named
import ParserCombinators.Proofs.Text.Decimal
import ParserCombinators.Proofs.Text.Longest

/-!
# The named expressions find the longest

Matching follows the preferred way and does not look for the longest match. What the named
expressions find is the longest all the same. A decimal number takes digits as long as there are any,
whichever part of the expression reads them, and it takes a point exactly if a digit follows. So from
any beginning that is a decimal number the match goes on.
-/

namespace ParserCombinators.Regex

variable {r : Regex Unit} {language : Text → Prop} {part rest text : Text}

/-- A search finds the longest beginning that belongs to the language, or nothing if there is none. -/
def FindsLongest (r : Regex Unit) (language : Text → Prop) : Prop :=
  ∀ text, (∃ part, r.find text = some part ∧ Longest language text part) ∨
    (r.find text = none ∧ ¬Begins language text)

/-- A search at the beginning finds the longest if it finds what belongs to the language and goes on
from every beginning that does. -/
theorem findsLongest_of_extends (hr : r.isAnchored = true)
    (hsound : ∀ text part, r.find text = some part → language part)
    (hextends : ∀ part rest, language part →
      ∃ more, r.find (part ++ rest) = some (part ++ more)) :
    r.FindsLongest language := by
  intro text
  cases hfind : r.find text with
  | none =>
    refine .inr ⟨rfl, ?_⟩
    rintro ⟨part, ⟨rest, rfl⟩, hpart⟩
    obtain ⟨more, hmore⟩ := hextends part rest hpart
    rw [hfind] at hmore
    cases hmore
  | some part =>
    have hstarts : part <+: text := findsAtStart_of_isAnchored hr text part hfind
    refine .inl ⟨part, rfl, hstarts, hsound text part hfind, ?_⟩
    rintro other ⟨rest, rfl⟩ hother
    obtain ⟨more, hmore⟩ := hextends other rest hother
    obtain rfl : part = other ++ more := Option.some.inj (hfind.symm.trans hmore)
    rw [List.length_append]
    exact Nat.le_add_right _ _

/-- A run of characters of a set is found as a whole. -/
theorem findsLongest_runOf (members : CharSet) :
    (runOf members).FindsLongest (IsRun members.mem) := by
  intro text
  rw [find_runOf]
  by_cases h : text.takeWhile members.mem = []
  · rw [if_pos h]
    exact .inr ⟨rfl, fun hbegins => (longest_takeWhile hbegins).belongs.1 h⟩
  · rw [if_neg h]
    have hrun : IsRun members.mem (text.takeWhile members.mem) :=
      ⟨h, fun c hc => List.mem_takeWhile_imp hc⟩
    exact .inl ⟨_, rfl, longest_takeWhile ⟨_, List.takeWhile_prefix _, hrun⟩⟩

section DecimalNumber

/-- The digits that a text begins with are digits. -/
theorem takeWhile_latinDigit (text : Text) :
    ∀ c ∈ text.takeWhile CharSet.latinDigit.mem, c.isDigit := by
  intro c hc
  rw [← CharSet.mem_latinDigit]
  exact List.mem_takeWhile_imp hc

/-- What is taken from the point on is a point and digits. -/
theorem pointedDigits?_sound (h : pointedDigits? text = some part) :
    ∃ fraction, part = '.' :: fraction ∧ fraction ≠ [] ∧ ∀ c ∈ fraction, c.isDigit := by
  cases text with
  | nil => cases h
  | cons c rest =>
    obtain ⟨⟨rfl, hne⟩, hpart⟩ := Option.ite_none_right_eq_some.1 h
    exact ⟨_, (Option.some.inj hpart).symm, hne, takeWhile_latinDigit rest⟩

/-- Digits and what is taken behind them are a decimal number without a sign. -/
theorem decimalTail_sound {whole : Text} (hne : whole ≠ []) (hwhole : ∀ c ∈ whole, c.isDigit)
    (text : Text) : IsUnsignedDecimal (whole ++ decimalTail text) := by
  -- A digit that is taken counts among the digits in front of what is taken later.
  induction text generalizing whole with
  | nil =>
    rw [decimalTail, List.append_nil]
    exact isUnsignedDecimal_digits hne hwhole
  | cons c rest ih =>
    rw [decimalTail]
    split
    · next hc =>
      have hdigit : c.isDigit := CharSet.mem_latinDigit c ▸ hc
      have hwhole' : ∀ d ∈ whole ++ [c], d.isDigit :=
        List.forall_mem_append.2 ⟨hwhole, List.forall_mem_singleton.2 hdigit⟩
      rw [List.append_cons]
      exact ih (by simp) hwhole'
    · cases hpoint : pointedDigits? (c :: rest) with
      | none =>
        rw [Option.getD_none, List.append_nil]
        exact isUnsignedDecimal_digits hne hwhole
      | some pointed =>
        obtain ⟨fraction, rfl, hfraction, hdigits⟩ := pointedDigits?_sound hpoint
        exact isUnsignedDecimal_pointed hwhole hfraction hdigits

/-- What is taken behind a sign is a decimal number without one. -/
theorem unsignedDecimal?_sound (h : unsignedDecimal? text = some part) :
    IsUnsignedDecimal part := by
  cases text with
  | nil => cases h
  | cons c rest =>
    rw [unsignedDecimal?] at h
    split at h
    · next hc =>
      have hdigit : c.isDigit := CharSet.mem_latinDigit c ▸ hc
      rw [← Option.some.inj h]
      exact decimalTail_sound (List.cons_ne_nil c []) (List.forall_mem_singleton.2 hdigit) rest
    · obtain ⟨fraction, rfl, hfraction, hdigits⟩ := pointedDigits?_sound h
      exact isUnsignedDecimal_pointed (List.forall_mem_nil _) hfraction hdigits

/-- What is taken is a decimal number. -/
theorem decimal?_sound (h : decimal? text = some part) : IsDecimal part := by
  cases text with
  | nil => cases h
  | cons c rest =>
    rw [decimal?] at h
    split at h
    · obtain ⟨unsigned, hunsigned, rfl⟩ := Option.map_eq_some_iff.1 h
      exact ⟨['-'], unsigned, rfl, .inr rfl, unsignedDecimal?_sound hunsigned⟩
    · exact ⟨[], part, rfl, .inl rfl, unsignedDecimal?_sound h⟩

/-- A point with digits behind it is taken, and so are the digits that follow. -/
theorem pointedDigits?_extends {fraction : Text} (hne : fraction ≠ [])
    (hdigits : ∀ c ∈ fraction, c.isDigit) (rest : Text) :
    pointedDigits? ('.' :: (fraction ++ rest)) =
      some ('.' :: (fraction ++ rest.takeWhile CharSet.latinDigit.mem)) := by
  have hmembers : ∀ c ∈ fraction, CharSet.latinDigit.mem c := by
    intro c hc
    rw [CharSet.mem_latinDigit]
    exact hdigits c hc
  rw [pointedDigits?, List.takeWhile_append_of_pos hmembers,
    if_pos ⟨rfl, List.append_ne_nil_of_left_ne_nil hne _⟩]

/-- Behind a sign, what is taken goes on from a decimal number without one. -/
theorem unsignedDecimal?_extends {number : Text} (h : IsUnsignedDecimal number) (rest : Text) :
    ∃ more, unsignedDecimal? (number ++ rest) = some (number ++ more) := by
  have hdigit : ∀ {c : Char}, c.isDigit → CharSet.latinDigit.mem c := by
    intro c hc
    rwa [CharSet.mem_latinDigit]
  obtain ⟨hne, hdigits⟩ | ⟨whole, fraction, rfl, hwhole, hne, hdigits⟩ := h.digits_or_pointed
  · cases number with
    | nil => exact absurd rfl hne
    | cons c number =>
      refine ⟨decimalTail rest, ?_⟩
      have htail := decimalTail_digits (fun d hd => hdigits d (List.mem_cons_of_mem c hd)) rest
      rw [List.cons_append, unsignedDecimal?, if_pos (hdigit (hdigits c List.mem_cons_self)),
        htail, List.cons_append]
  · refine ⟨rest.takeWhile CharSet.latinDigit.mem, ?_⟩
    have hpoint := pointedDigits?_extends hne hdigits rest
    have hnodigit : ¬ CharSet.latinDigit.mem '.' := by decide
    simp only [List.append_assoc, List.cons_append]
    cases whole with
    | nil => rw [List.nil_append, List.nil_append, unsignedDecimal?, if_neg hnodigit, hpoint]
    | cons c whole =>
      have htail := decimalTail_digits (fun d hd => hwhole d (List.mem_cons_of_mem c hd))
        ('.' :: (fraction ++ rest))
      rw [List.cons_append, List.cons_append, unsignedDecimal?,
        if_pos (hdigit (hwhole c List.mem_cons_self)), htail, decimalTail, if_neg hnodigit, hpoint,
        Option.getD_some]

/-- What is taken goes on from a decimal number. -/
theorem decimal?_extends {number : Text} (h : IsDecimal number) (rest : Text) :
    ∃ more, decimal? (number ++ rest) = some (number ++ more) := by
  obtain ⟨sign, unsigned, rfl, hsign, hunsigned⟩ := h
  obtain ⟨more, hmore⟩ := unsignedDecimal?_extends hunsigned rest
  refine ⟨more, ?_⟩
  rcases hsign with rfl | rfl
  · cases unsigned with
    | nil => exact absurd rfl hunsigned.ne_nil
    | cons c unsigned =>
      rw [List.cons_append] at hmore
      rw [List.nil_append, List.cons_append, decimal?, if_neg (hunsigned.head_not_sign rfl).2, hmore]
  · simp only [List.cons_append, List.nil_append]
    rw [decimal?, if_pos rfl, hmore, Option.map_some]

/-- A decimal number is found as a whole. -/
theorem findsLongest_decimalNumber : decimalNumber.FindsLongest IsDecimal := by
  refine findsLongest_of_extends rfl ?_ ?_
  · intro text part hfind
    rw [find_decimalNumber] at hfind
    exact decimal?_sound hfind
  · intro number rest hnumber
    rw [find_decimalNumber]
    exact decimal?_extends hnumber rest

/-- A decimal number is the longest where neither a digit nor a point follows. -/
theorem longest_decimal {number : Text} (h : IsDecimal number) (hrest : EndsDecimal rest) :
    Longest IsDecimal (number ++ rest) number := by
  refine longest_append h fun c behind more heq hmore => ?_
  have hstop := hrest c behind heq
  rw [CharSet.mem, CharSet.mem_latinDigit, Bool.or_eq_false_iff] at hstop
  rcases hmore.digit_or_point h.ne_nil List.mem_cons_self with hdigit | rfl
  · exact absurd hdigit (by simp [hstop.1])
  · exact absurd hstop.2 (by decide)

end DecimalNumber

end ParserCombinators.Regex
