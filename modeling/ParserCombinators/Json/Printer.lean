import ParserCombinators.Json.Value
import ParserCombinators.Text.Basic

/-!
# Printing JSON

A value has a compact form without any space and a pretty form with two spaces for each level
and one item to a line. Strings are written alike in both: the quotation mark, the backslash
and the control characters below the space are escaped, and all else stands for itself. Numbers are
written alike too. A floating point number has an exponent only if more than sixteen digits would
stand in front of its point, or more than four zeros behind it.
-/

namespace ParserCombinators

/-- An integer in decimal digits. -/
def Value.decimal (n : Int) : Text :=
  if n < 0 then '-' :: Nat.toDigits 10 n.natAbs else Nat.toDigits 10 n.natAbs

/-- The point and the digits behind it. -/
def fractionText (fraction : Text) : Text :=
  if fraction = [] then [] else '.' :: fraction

/-- The power of ten behind the letter for it. -/
def exponentText (exponent : Option Int) : Text :=
  exponent.elim [] fun n => 'e' :: Value.decimal n

/-- The text of a numeral. -/
def Numeral.written (n : Numeral) : Text :=
  (if n.negative then ['-'] else []) ++ n.whole ++ fractionText n.fraction ++
    exponentText n.exponent

/-- The numeral for a floating point number. -/
def DecimalFloat.numeral (x : DecimalFloat) : Numeral :=
  let digits := Nat.toDigits 10 x.digits
  let point := digits.length + x.exponent
  if 0 ≤ x.exponent ∧ point ≤ 16 then
    ⟨x.negative, digits ++ List.replicate x.exponent.toNat '0', ['0'], none⟩
  else if 0 < point ∧ point ≤ 16 then
    ⟨x.negative, digits.take point.toNat, digits.drop point.toNat, none⟩
  else if -5 < point ∧ point ≤ 0 then
    ⟨x.negative, ['0'], List.replicate (-point).toNat '0' ++ digits, none⟩
  else ⟨x.negative, digits.take 1, digits.drop 1, some (point - 1)⟩

namespace Value

/-- A hexadecimal digit, in lower case. -/
def hexDigit (n : Nat) : Char :=
  if n < 10 then Char.ofNat (n + '0'.toNat) else Char.ofNat (n - 10 + 'a'.toNat)

/-- A character as it is written inside a JSON string. -/
def escapeChar (c : Char) : Text :=
  if c = '"' then ['\\', '"']
  else if c = '\\' then ['\\', '\\']
  else if c = '\x08' then ['\\', 'b']
  else if c = '\t' then ['\\', 't']
  else if c = '\n' then ['\\', 'n']
  else if c = '\x0c' then ['\\', 'f']
  else if c = '\r' then ['\\', 'r']
  else if c.toNat < 32 then
    ['\\', 'u', '0', '0', hexDigit (c.toNat / 16), hexDigit (c.toNat % 16)]
  else [c]

/-- A string as JSON writes it. -/
def quote (s : String) : Text :=
  '"' :: s.toList.flatMap escapeChar ++ ['"']

mutual

/-- The compact form of a value. -/
def compact : Value → Text
  | null => "null".toList
  | bool b => if b then "true".toList else "false".toList
  | int n => decimal n
  | float x => x.numeral.written
  | str s => quote s
  | arr [] => ['[', ']']
  | arr (v :: vs) => '[' :: compact v ++ compactItems vs ++ [']']
  | obj [] => ['\x7b', '\x7d']
  | obj ((k, v) :: fs) => '\x7b' :: quote k ++ ':' :: compact v ++ compactFields fs ++ ['\x7d']

/-- The compact form of the items after the first one. -/
def compactItems : List Value → Text
  | [] => []
  | v :: vs => ',' :: compact v ++ compactItems vs

/-- The compact form of the fields after the first one. -/
def compactFields : List (String × Value) → Text
  | [] => []
  | (k, v) :: fs => ',' :: quote k ++ ':' :: compact v ++ compactFields fs

end

/-- The beginning of a line at a level of nesting. -/
def lineStart (level : Nat) : Text :=
  '\n' :: List.replicate (2 * level) ' '

mutual

/-- The pretty form of a value at a level of nesting. -/
def pretty (level : Nat) : Value → Text
  | null => "null".toList
  | bool b => if b then "true".toList else "false".toList
  | int n => decimal n
  | float x => x.numeral.written
  | str s => quote s
  | arr [] => ['[', ']']
  | arr (v :: vs) =>
    '[' :: lineStart (level + 1) ++ pretty (level + 1) v ++ prettyItems (level + 1) vs ++
      lineStart level ++ [']']
  | obj [] => ['\x7b', '\x7d']
  | obj ((k, v) :: fs) =>
    '\x7b' :: lineStart (level + 1) ++ quote k ++ ':' :: ' ' :: pretty (level + 1) v ++
      prettyFields (level + 1) fs ++ lineStart level ++ ['\x7d']

/-- The pretty form of the items after the first one. -/
def prettyItems (level : Nat) : List Value → Text
  | [] => []
  | v :: vs => ',' :: lineStart level ++ pretty level v ++ prettyItems level vs

/-- The pretty form of the fields after the first one. -/
def prettyFields (level : Nat) : List (String × Value) → Text
  | [] => []
  | (k, v) :: fs =>
    ',' :: lineStart level ++ quote k ++ ':' :: ' ' :: pretty level v ++ prettyFields level fs

end

end Value

end ParserCombinators
