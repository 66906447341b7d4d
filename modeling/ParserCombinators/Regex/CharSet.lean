import ParserCombinators.Unicode.Blank
import ParserCombinators.Unicode.CaseFold
import ParserCombinators.Unicode.DecimalDigit
import ParserCombinators.Unicode.WordCharacter

/-!
# Sets of characters

The sets that a regular expression can name, as expressions with a decidable membership. A
set stays the expression that was written, so two equal sets may be written differently.
-/

namespace ParserCombinators

/-- A set of characters. -/
inductive CharSet where
  /-- No character. -/
  | none
  /-- The characters from the first to the last, both included. -/
  | range (first last : Char)
  /-- White space. -/
  | blank
  /-- Decimal digits of every script. -/
  | digit
  /-- Word characters. -/
  | word
  /-- The characters of a table. -/
  | listed (table : Unicode.Ranges)
  /-- The characters that differ at most in case from one of the set. -/
  | anyCase (set : CharSet)
  /-- The characters that differ from one of the set at most in the case of an ASCII letter. -/
  | asciiCase (set : CharSet)
  /-- The characters outside the set. -/
  | compl (set : CharSet)
  | union (first second : CharSet)
  | inter (first second : CharSet)
deriving DecidableEq, Repr

namespace CharSet

/-- Whether the character belongs to the set. -/
def mem : CharSet → Char → Bool
  | none, _ => false
  | range first last, c => first.toNat ≤ c.toNat && c.toNat ≤ last.toNat
  | blank, c => Unicode.isBlank c
  | digit, c => Unicode.isDecimalDigit c
  | word, c => Unicode.isWordCharacter c
  | listed table, c => Unicode.inRanges table c.toNat
  | anyCase set, c => set.mem c || (Unicode.caseVariants c).any set.mem
  | asciiCase set, c => set.mem c || set.mem c.toLower || set.mem c.toUpper
  | compl set, c => !set.mem c
  | union first second, c => first.mem c || second.mem c
  | inter first second, c => first.mem c && second.mem c

/-- The set with one member. -/
def single (c : Char) : CharSet :=
  range c c

/-- The members of the first set that are not in the second. -/
def diff (first second : CharSet) : CharSet :=
  inter first (compl second)

/-- The characters in exactly one of the two sets. -/
def symmDiff (first second : CharSet) : CharSet :=
  union (diff first second) (diff second first)

/-- The union of a list of ranges. -/
def ofRanges : List (Char × Char) → CharSet
  | [] => none
  | [(first, last)] => range first last
  | (first, last) :: rest => union (range first last) (ofRanges rest)

/-- The union of a list of tables. -/
def ofTables (tables : List Unicode.Ranges) : CharSet :=
  tables.foldr (fun table set => union (listed table) set) none

/-- A set with one member has just that member. -/
theorem mem_single {c d : Char} : (single c).mem d = true ↔ d = c := by
  simp only [single, mem, Bool.and_eq_true, decide_eq_true_eq]
  constructor
  · intro h
    exact Char.toNat_inj.1 (by omega)
  · rintro rfl
    exact ⟨Nat.le_refl _, Nat.le_refl _⟩

end CharSet

end ParserCombinators
