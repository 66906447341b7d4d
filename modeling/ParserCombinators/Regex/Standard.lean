import ParserCombinators.Regex.Engine
import ParserCombinators.Unicode.Script

/-!
# The standard engine

The standard engine knows the properties that are given by general categories and scripts, and
those of being alphabetic, of a case, or white space. It refuses expressions whose automaton would
take more than ten megabytes, as far as the size can be told without building one.
-/

namespace ParserCombinators.Regex

namespace Property

/-- The characters that are assigned. -/
def assigned : CharSet :=
  .ofTables Unicode.assignedTables

/-- The characters of a general category, or of a name that is used like one. -/
def category? (name : String) : Option CharSet :=
  match name with
  | "any" => some (.compl .none)
  | "ascii" => some (.range '\x00' '\x7f')
  | "assigned" => some assigned
  | "cn" | "unassigned" => some (.compl assigned)
  | "c" | "other" => some (.union (.ofTables Unicode.controlTables) (.compl assigned))
  | _ => (Unicode.generalCategories.find? (name ∈ ·.1)).map fun entry => .ofTables entry.2

/-- The characters of a script. -/
def script? (name : String) : Option CharSet :=
  (Unicode.scripts.find? (name ∈ ·.1)).map fun entry => .listed entry.2

/-- The characters with a property that has no values. -/
def binary? (name : String) : Option CharSet :=
  match name with
  | "alphabetic" | "alpha" => some (.ofTables Unicode.alphabeticTables)
  | "lowercase" | "lower" =>
    some (.ofTables [Unicode.lowercaseLetterRanges, Unicode.otherLowercaseRanges])
  | "uppercase" | "upper" =>
    some (.ofTables [Unicode.uppercaseLetterRanges, Unicode.otherUppercaseRanges])
  | "whitespace" | "wspace" | "space" => some .blank
  | _ => none

/-- A name as it is looked up: case, word breaks and a leading word of being do not count. -/
def looseName (text : Text) : String :=
  let name := (text.filter fun c => c.toNat < 128 && !(c ∈ [' ', '_', '-'])).map Char.toLower
  String.ofList (if name = "isc".toList then name else (stripStart? "is".toList name).getD name)

/-- The characters with a property: a name, or a name and a value, between which an exclamation mark
in front of an equals sign turns the property around. -/
def find? (text : Text) : Option CharSet :=
  let name := text.takeWhile fun c => c != ':' && c != '='
  match text.dropWhile fun c => c != ':' && c != '=' with
  | [] => (binary? (looseName name)).or ((category? (looseName name)).or (script? (looseName name)))
  | separator :: value =>
    let negated := separator = '=' ∧ name.getLast? = some '!'
    let members := match looseName (if negated then name.dropLast else name) with
      | "gc" | "generalcategory" => category? (looseName value)
      | "sc" | "script" => script? (looseName value)
      | _ => none
    if negated then members.map .compl else members

end Property

end ParserCombinators.Regex

namespace ParserCombinators.CharSet

/-- The code points from which on characters take more bytes, or their further bytes have other
bounds. -/
def byteBounds : List Nat :=
  [0, 0x80, 0x800, 0x1000, 0xD000, 0xE000, 0x10000, 0x40000, 0x100000]

/-- The ends of the ranges of a table, those after the last code point of a range. -/
def tableEnds (table : Unicode.Ranges) : List Nat :=
  table.flatMap fun (low, high) => [low, high + 1]

/-- Code points at which a range of the set may begin or be over. -/
def ends : CharSet → List Nat
  | none => []
  | range first last => [first.toNat, last.toNat + 1]
  | blank => tableEnds Unicode.blankRanges
  | digit => tableEnds Unicode.decimalDigitRanges
  | word => tableEnds Unicode.wordRanges
  | listed table => tableEnds table
  | anyCase set => set.ends ++ set.ends.flatMap fun n =>
      (Unicode.caseVariants (Char.ofNat n) ++ Unicode.caseVariants (Char.ofNat (n - 1))).flatMap
        fun c => [c.toNat, c.toNat + 1]
  | asciiCase set => set.ends ++ set.ends.flatMap fun n => [n - 32, n + 32]
  | compl set => set.ends
  | union first second => first.ends ++ second.ends
  | inter first second => first.ends ++ second.ends

/-- The code points at which a piece of the set begins whose characters are told by ranges of their
bytes. -/
def pieces (set : CharSet) : List Nat :=
  ((byteBounds ++ set.ends).filter fun n => n.isValidChar && set.mem (Char.ofNat n) &&
    (n ∈ byteBounds || !set.mem (Char.ofNat (n - 1)))).eraseDups

/-- Roughly the bytes that an automaton takes for the pieces of the set. -/
def pieceMemory (set : CharSet) : Nat :=
  set.pieces.foldl (fun bytes n => bytes + if n < 128 then 8 else 64) 64

/-- Roughly the bytes that an automaton takes to read one character of the set. A single character
takes one state for each of its bytes. -/
def memory : CharSet → Nat
  | range first last =>
    if first = last then 32 * first.utf8Size else (range first last).pieceMemory
  | set => set.pieceMemory

end ParserCombinators.CharSet

namespace ParserCombinators.Regex

/-- Roughly the bytes that an automaton takes for the expression. -/
def Written.memory : Written → Nat
  | empty => 0
  | set members => members.memory
  | look _ => 32
  | seq first second => first.memory + second.memory
  | alt first second => first.memory + second.memory + 40
  | counted body least most _ =>
    let greatest := most.getD least
    body.memory * max least greatest + 40 * (greatest - least + 1)

/-- The standard engine. -/
def Engine.standard : Engine where
  property? := Property.find?
  fits e := e.memory ≤ 10 * 1024 * 1024

/-- The search of the standard engine for a pattern text. -/
def readPattern? (text : Text) : Option Search :=
  Engine.standard.search? text

end ParserCombinators.Regex
