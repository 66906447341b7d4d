import ParserCombinators.Proofs.Regex.Grouping

/-!
# What a piece takes from the text

Every piece takes its first character from the text and never gives any back, so no more pieces are
read than there are characters.
-/

namespace ParserCombinators.Regex

variable {n : Nat} {text rest : Text}

section Parts

variable {verbose : Bool}

/-- Digits are taken from the text. -/
theorem length_readDigits_le (verbose : Bool) (fuel : Nat) (digits text : Text) :
    (readDigits verbose fuel digits text).2.length ≤ text.length := by
  induction fuel generalizing digits text with
  | zero => exact Nat.le_refl _
  | succ fuel ih =>
    cases text with
    | nil => exact Nat.le_refl _
    | cons c rest =>
      have hskip := length_skip_le verbose rest
      have hmore := ih (digits ++ [c]) (skip verbose rest)
      rw [readDigits]
      split_ifs
      · rw [List.length_cons]
        omega
      · exact Nat.le_refl _

/-- Blanks are taken from the text. -/
theorem length_dropBlanks_le (text : Text) :
    (text.dropWhile Unicode.isBlank).length ≤ text.length :=
  (List.dropWhile_sublist _).length_le

/-- A decimal number is taken from the text. -/
theorem readDecimal_leaves (verbose : Bool) (h : text.length ≤ n) :
    Leaves n (readDecimal verbose text) := by
  have hstart := length_dropBlanks_le text
  have hdigits := length_readDigits_le verbose (text.dropWhile Unicode.isBlank).length []
    (text.dropWhile Unicode.isBlank)
  rw [readDecimal]
  generalize readDigits verbose _ [] _ = found at hdigits ⊢
  obtain ⟨digits, rest⟩ := found
  have hblanks := length_dropBlanks_le rest
  have hskip := length_skip_le verbose (rest.dropWhile Unicode.isBlank)
  dsimp only at hdigits ⊢
  split_ifs
  · exact leaves_none
  · exact leaves_some (by omega)

/-- The end of a count is taken from the text. -/
theorem closeCount_leaves (least : Nat) (most : Nat × Text) (h : most.2.length ≤ n) :
    Leaves n (closeCount least most) := by
  unfold closeCount
  split
  · next rest heq =>
    rw [heq, List.length_cons] at h
    split_ifs
    · exact leaves_some (by omega)
    · exact leaves_none
  · exact leaves_none

/-- The greatest number of a count is taken from the text. -/
theorem countFrom_leaves (verbose : Bool) (least : Nat) (h : text.length ≤ n) :
    Leaves n (countFrom verbose least text) := by
  unfold countFrom
  split
  · rw [List.length_cons] at h
    exact leaves_some (by omega)
  · exact (readDecimal_leaves verbose h).bind (closeCount_leaves least)

/-- A count is taken from the text. -/
theorem readCount_leaves (verbose : Bool) (h : text.length ≤ n) :
    Leaves n (readCount verbose text) := by
  have hskip := length_skip_le verbose text
  refine (readDecimal_leaves verbose (Nat.le_trans hskip h)).bind ?_
  rintro ⟨least, rest⟩ hrest
  dsimp only at hrest ⊢
  split
  · rw [List.length_cons] at hrest
    exact leaves_some (by omega)
  · next rest =>
    have hskip' := length_skip_le verbose rest
    rw [List.length_cons] at hrest
    exact countFrom_leaves verbose least (by omega)
  · exact leaves_none

/-- Flags are taken from the text. -/
theorem length_readFlags_le {flags flags' : Flags} {seen seen' : List Char} {stop : Char}
    (h : readFlags flags seen text = some (flags', seen', stop, rest)) :
    rest.length ≤ text.length := by
  induction text generalizing flags seen with
  | nil => cases h
  | cons c more ih =>
    rw [readFlags] at h
    rw [List.length_cons]
    split_ifs at h
    · cases h
      exact Nat.le_succ _
    · exact Nat.le_succ_of_le (ih h)
    · obtain ⟨_, _, hmore⟩ := Option.bind_eq_some_iff.1 h
      exact Nat.le_succ_of_le (ih hmore)

/-- The name of a group is taken from the text. -/
theorem readGroupName_leaves (name : Text) (h : text.length ≤ n) :
    Leaves n (readGroupName name text) := by
  induction text generalizing name with
  | nil => exact leaves_none
  | cons c rest ih =>
    rw [List.length_cons] at h
    rw [readGroupName]
    split_ifs
    · exact leaves_none
    · exact leaves_some (by omega)
    · exact ih _ (by omega)
    · exact leaves_none

/-- A class is taken from the text. -/
theorem length_readClassFrom_le {mode : Mode} {fuel levels : Nat} {cls : OpenClass}
    {outer : List OpenClass} {members : CharSet}
    (h : readClassFrom mode fuel cls outer text = some (members, levels, rest)) :
    rest.length ≤ text.length := by
  induction fuel generalizing cls outer text with
  | zero => cases h
  | succ fuel ih =>
    have hskip := length_skip_le mode.verbose text
    rw [readClassFrom] at h
    split at h
    · cases h
    · next heq =>
      rw [heq, List.length_cons] at hskip
      obtain ⟨closed, _, hrest⟩ := Option.bind_eq_some_iff.1 h
      cases outer with
      | nil =>
        cases hrest
        omega
      | cons parent outer => exact Nat.le_trans (ih hrest) (by omega)
    · next after heq =>
      rw [heq, List.length_cons] at hskip
      have hnamed := readNamedClass_leaves after
      have hopen := openClass_leaves mode after
      change readBracket mode fuel cls outer after = _ at h
      unfold readBracket at h
      split at h
      · next negated ranges behind hfound =>
        have hfrom : behind.length ≤ after.length := hnamed _ hfound
        obtain ⟨named, _, hrest⟩ := Option.bind_eq_some_iff.1 h
        exact Nat.le_trans (ih hrest) (by omega)
      · exact Nat.le_trans (ih h) (by omega)
    · next heq =>
      rw [heq, List.length_cons, List.length_cons] at hskip
      exact Nat.le_trans (ih h) (by omega)
    · next heq =>
      rw [heq, List.length_cons, List.length_cons] at hskip
      exact Nat.le_trans (ih h) (by omega)
    · next heq =>
      rw [heq, List.length_cons, List.length_cons] at hskip
      exact Nat.le_trans (ih h) (by omega)
    · next hnil _ _ _ _ _ =>
      obtain ⟨⟨item, after⟩, hitem, hmore⟩ := Option.bind_eq_some_iff.1 h
      cases htext : skip mode.verbose text with
      | nil => exact absurd htext hnil
      | cons c more =>
        rw [htext] at hitem hskip
        rw [List.length_cons] at hskip
        have hafter : after.length ≤ more.length := readClassItem_leaves mode c more _ hitem
        exact Nat.le_trans (ih hmore) (by omega)

/-- A class is taken from the text. -/
theorem length_readClass_le {mode : Mode} {levels : Nat} {members : CharSet}
    (h : readClass mode text = some (members, levels, rest)) : rest.length ≤ text.length :=
  Nat.le_trans (length_readClassFrom_le h) (openClass_leaves mode text)

end Parts

namespace Reader

/-- The name of a group is taken from the text. -/
theorem nameGroup_leaves (reader : Reader) (h : text.length ≤ n) :
    Leaves n (reader.nameGroup text) := by
  refine (readGroupName_leaves [] h).bind ?_
  rintro ⟨name, rest⟩ hrest
  dsimp only at hrest ⊢
  split_ifs
  · exact leaves_none
  · exact leaves_some hrest

/-- The flags of a group are taken from the text. -/
theorem flagGroup_leaves (reader : Reader) (h : text.length ≤ n) :
    Leaves n (reader.flagGroup text) := by
  rw [flagGroup]
  cases hfound : readFlags reader.group.flags [] text with
  | none => exact leaves_none
  | some found =>
    obtain ⟨flags, seen, stop, rest⟩ := found
    have hrest := length_readFlags_le hfound
    dsimp only [Option.bind_some]
    split_ifs
    · exact leaves_some (by omega)
    · exact leaves_none
    · exact leaves_some (by omega)

/-- What follows a parenthesis and a question mark is taken from the text. -/
theorem questionGroup_leaves (reader : Reader) (h : text.length ≤ n) :
    Leaves n (reader.questionGroup text) := by
  unfold questionGroup
  split
  · exact leaves_none
  · exact leaves_none
  · exact leaves_none
  · exact leaves_none
  · rw [List.length_cons, List.length_cons] at h
    exact nameGroup_leaves reader (by omega)
  · rw [List.length_cons] at h
    exact nameGroup_leaves reader (by omega)
  · exact flagGroup_leaves reader h

/-- The beginning of a group is taken from the text. -/
theorem openGroup_leaves (reader : Reader) (h : text.length ≤ n) :
    Leaves n (reader.openGroup text) := by
  have hskip := length_skip_le reader.verbose text
  by_cases hmarked : (skip reader.verbose text).head? = some '?'
  · obtain ⟨rest, ht⟩ := List.head?_eq_some_iff.1 hmarked
    rw [openGroup_question reader ht]
    rw [ht, List.length_cons] at hskip
    exact questionGroup_leaves reader (by omega)
  · rw [openGroup_plain reader hmarked]
    exact leaves_some (by omega)

/-- The end of a repetition is taken from the text. -/
theorem repeatPart_leaves (reader : Reader) (least : Nat) (most : Option Nat)
    (h : text.length ≤ n) : Leaves n (reader.repeatPart least most text) := by
  unfold repeatPart
  split
  · next rest =>
    rw [List.length_cons] at h
    cases reader.group.repeatLast? least most true with
    | none => exact leaves_none
    | some group => exact leaves_some (by omega)
  · cases reader.group.repeatLast? least most false with
    | none => exact leaves_none
    | some group => exact leaves_some h

/-- A piece takes at least its first character from the text. -/
theorem step_leaves (reader : Reader) (c : Char) (h : text.length ≤ n) :
    Leaves n (reader.step c text) := by
  unfold step
  split
  · exact openGroup_leaves reader h
  · cases reader.closeGroup with
    | none => exact leaves_none
    | some closed => exact leaves_some h
  · exact leaves_some h
  · cases hclass : readClass reader.mode text with
    | none => exact leaves_none
    | some found =>
      obtain ⟨members, levels, rest⟩ := found
      exact leaves_some (Nat.le_trans (length_readClass_le hclass) h)
  · exact repeatPart_leaves reader 0 (some 1) h
  · exact repeatPart_leaves reader 0 none h
  · exact repeatPart_leaves reader 1 none h
  · refine (readCount_leaves reader.verbose h).bind ?_
    rintro ⟨⟨least, most⟩, rest⟩ hrest
    have hskip := length_skip_le reader.verbose rest
    exact repeatPart_leaves reader least most (Nat.le_trans hskip hrest)
  · have hescape := readEscape_leaves reader.mode h
    cases hfound : readEscape reader.mode text with
    | none => exact leaves_none
    | some found => exact leaves_some (hescape found hfound)
  · cases reader.group.flags.dot? with
    | none => exact leaves_none
    | some members => exact leaves_some h
  · exact leaves_some h
  · exact leaves_some h
  · exact leaves_some h

end Reader

end ParserCombinators.Regex
