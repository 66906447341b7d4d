import Mathlib.Tactic.SplitIfs
import ParserCombinators.Regex.Escape
import ParserCombinators.Text.Quoted

/-!
# Quoted text stays on its line and ends where it says

No line ends inside quotation marks, whatever the text is. A reader that takes one character at a
time, with its escape if it has one, finds the text again and stops at the closing mark. So a text
and what stands behind it are told by the quoted text followed by the rest.
-/

namespace ParserCombinators

/-- No line ends inside the text. -/
def OneLine (text : Text) : Prop :=
  '\n' ∉ text ∧ '\r' ∉ text

instance (text : Text) : Decidable (OneLine text) :=
  inferInstanceAs (Decidable (_ ∧ _))

section OneLine

variable {c : Char} {text first second : Text}

@[simp] theorem oneLine_nil : OneLine [] := by
  simp [OneLine]

@[simp] theorem oneLine_cons : OneLine (c :: text) ↔ (c ≠ '\n' ∧ c ≠ '\r') ∧ OneLine text := by
  simp only [OneLine, List.mem_cons, not_or, ne_comm (a := c)]
  exact and_and_and_comm

@[simp] theorem oneLine_append : OneLine (first ++ second) ↔ OneLine first ∧ OneLine second := by
  simp only [OneLine, List.mem_append, not_or]
  exact and_and_and_comm

/-- Each character may be looked at by itself. -/
theorem oneLine_iff : OneLine text ↔ ∀ d ∈ text, d ≠ '\n' ∧ d ≠ '\r' := by
  simp only [OneLine, forall_and, List.forall_mem_ne']

/-- Characters that are each written on one line are together. -/
theorem oneLine_flatMap {written : Char → Text} (h : ∀ d, OneLine (written d)) :
    OneLine (text.flatMap written) := by
  induction text with
  | nil => exact oneLine_nil
  | cons d text ih => exact oneLine_append.2 ⟨h d, ih⟩

end OneLine

section Digits

/-- The number that hexadecimal digits write. -/
def hexValue (digits : Text) : Nat :=
  digits.foldl (fun n c => 16 * n + (Regex.hexDigit? c).getD 0) 0

/-- Hexadecimal digits are read back. -/
theorem hexValue_toDigits (n : Nat) : hexValue (Nat.toDigits 16 n) = n := by
  have hdigit : ∀ k < 16, (Regex.hexDigit? (Nat.digitChar k)).getD 0 = k := by decide
  induction n using Nat.strongRecOn with
  | ind n ih =>
    by_cases hn : n < 16
    · simp [Nat.toDigits_of_lt_base hn, hexValue, hdigit n hn]
    · have hlast := hdigit (n % 16) (Nat.mod_lt n (by omega))
      have hfirst := ih (n / 16) (by omega)
      unfold hexValue at hfirst ⊢
      rw [Nat.toDigits_of_base_le (by omega) (by omega), List.foldl_append, hfirst,
        List.foldl_cons, List.foldl_nil, hlast]
      omega

/-- Hexadecimal digits are digits. -/
theorem exists_digitChar_of_mem_toDigits {n : Nat} {c : Char} (h : c ∈ Nat.toDigits 16 n) :
    ∃ k < 16, c = Nat.digitChar k := by
  induction n using Nat.strongRecOn with
  | ind n ih =>
    by_cases hn : n < 16
    · rw [Nat.toDigits_of_lt_base hn, List.mem_singleton] at h
      exact ⟨n, hn, h⟩
    · rw [Nat.toDigits_of_base_le (by omega) (by omega), List.mem_append, List.mem_singleton] at h
      rcases h with hfirst | hlast
      · exact ih (n / 16) (by omega) hfirst
      · exact ⟨n % 16, Nat.mod_lt n (by omega), hlast⟩

end Digits

namespace Quoted

/-- What a letter behind a backslash stands for. -/
def shortEscape : Char → Char
  | 't' => '\t'
  | 'n' => '\n'
  | 'r' => '\r'
  | '0' => '\x00'
  | c => c

/-- The character that a backslash and the text behind it stand for, and the rest. -/
def readEscape : Text → Option (Char × Text)
  | [] => none
  | 'u' :: rest =>
    some (Char.ofNat (hexValue (rest.tail.takeWhile (· != '\x7d'))),
      (rest.tail.dropWhile (· != '\x7d')).tail)
  | c :: rest => some (shortEscape c, rest)

/-- The first character of a text inside quotation marks, and the rest. There is none at the
closing mark. -/
def readChar : Text → Option (Char × Text)
  | [] => none
  | c :: rest =>
    if c = '"' then none else if c = '\\' then readEscape rest else some (c, rest)

/-- A code point in braces is read back. -/
theorem readEscape_code (c : Char) (rest : Text) :
    readEscape ('u' :: '\x7b' :: (Nat.toDigits 16 c.toNat ++ '\x7d' :: rest)) = some (c, rest) := by
  have hdigits : ∀ d ∈ Nat.toDigits 16 c.toNat, (d != '\x7d') = true := by
    have hdigit : ∀ k < 16, (Nat.digitChar k != '\x7d') = true := by decide
    intro d hd
    obtain ⟨k, hk, rfl⟩ := exists_digitChar_of_mem_toDigits hd
    exact hdigit k hk
  have htake : (Nat.toDigits 16 c.toNat ++ '\x7d' :: rest).takeWhile (· != '\x7d') =
      Nat.toDigits 16 c.toNat := by
    rw [List.takeWhile_append_of_pos hdigits, List.takeWhile_cons_of_neg (by simp),
      List.append_nil]
  have hdrop : (Nat.toDigits 16 c.toNat ++ '\x7d' :: rest).dropWhile (· != '\x7d') =
      '\x7d' :: rest := by
    rw [List.dropWhile_append_of_pos hdigits, List.dropWhile_cons_of_neg (by simp)]
  simp only [readEscape, List.tail_cons, htake, hdrop, hexValue_toDigits, Char.ofNat_toNat]

/-- A written character is read back. -/
theorem readChar_escapeChar (c : Char) (rest : Text) :
    readChar (escapeChar c ++ rest) = some (c, rest) := by
  unfold escapeChar
  split_ifs with hquote hslash htab hline hreturn hzero hshown
  · rw [hquote]
    rfl
  · rw [hslash]
    rfl
  · rw [htab]
    rfl
  · rw [hline]
    rfl
  · rw [hreturn]
    rfl
  · rw [hzero]
    rfl
  · rw [List.singleton_append, readChar, if_neg hquote, if_neg hslash]
  · rw [← readEscape_code c rest, List.append_assoc]
    rfl

/-- What is written inside quotation marks ends at the closing one. -/
theorem escaped_append_inj {first second after after' : Text}
    (h : first.flatMap escapeChar ++ '"' :: after = second.flatMap escapeChar ++ '"' :: after') :
    first = second ∧ after = after' := by
  induction first generalizing second with
  | nil =>
    cases second with
    | nil => exact ⟨rfl, (List.cons.inj h).2⟩
    | cons d second =>
      have hread := congrArg readChar h
      rw [List.flatMap_cons, List.append_assoc, readChar_escapeChar] at hread
      cases hread
  | cons c first ih =>
    have hread := congrArg readChar h
    rw [List.flatMap_cons, List.append_assoc, readChar_escapeChar] at hread
    cases second with
    | nil => cases hread
    | cons d second =>
      rw [List.flatMap_cons, List.append_assoc, readChar_escapeChar, Option.some.injEq,
        Prod.mk.injEq] at hread
      obtain ⟨rfl, hrest⟩ := hread
      obtain ⟨rfl, hafter⟩ := ih hrest
      exact ⟨rfl, hafter⟩

/-- Quoted texts are the same only for the same text. -/
theorem quote_injective : Function.Injective quote := by
  intro first second h
  exact (escaped_append_inj (List.cons.inj h).2).1

/-- A character is written on one line. -/
theorem oneLine_escapeChar (c : Char) : OneLine (escapeChar c) := by
  have hdigits : OneLine (Nat.toDigits 16 c.toNat) := by
    have hdigit : ∀ k < 16, Nat.digitChar k ≠ '\n' ∧ Nat.digitChar k ≠ '\r' := by decide
    refine oneLine_iff.2 fun d hd => ?_
    obtain ⟨k, hk, rfl⟩ := exists_digitChar_of_mem_toDigits hd
    exact hdigit k hk
  unfold escapeChar
  split_ifs with hquote hslash htab hline hreturn hzero hshown <;> simp_all

/-- A quoted text is on one line. -/
theorem oneLine_quote (text : Text) : OneLine (quote text) := by
  have htext : OneLine (text.flatMap escapeChar) := oneLine_flatMap oneLine_escapeChar
  simp [quote, htext]

end Quoted

end ParserCombinators
