import ParserCombinators.Json.Value
import ParserCombinators.Regex.Escape

/-!
# Reading JSON

The value that a JSON text writes. White space may stand in front of every part of a text and
behind it. A string holds any characters but control characters below the space, and escapes; a
character that is no single code of four digits is escaped as two surrogates. Numbers may have a
fraction and an exponent. Names that are used twice in an object are both kept.
-/

namespace ParserCombinators.Value

/-- Whether the character is white space between the parts of a text. -/
def isSpace (c : Char) : Bool :=
  c = ' ' || c = '\t' || c = '\n' || c = '\r'

/-- The text behind the white space at its beginning. -/
def skipSpace (text : Text) : Text :=
  text.dropWhile isSpace

/-- The character that a letter behind a backslash stands for. -/
def shortEscape? : Char → Option Char
  | '"' => some '"'
  | '\\' => some '\\'
  | '/' => some '/'
  | 'b' => some '\x08'
  | 'f' => some '\x0c'
  | 'n' => some '\n'
  | 'r' => some '\r'
  | 't' => some '\t'
  | _ => none

/-- A code of four hexadecimal digits. -/
def readCode (text : Text) : Option (Nat × Text) :=
  Regex.readHexDigits false 4 0 text

/-- The character of a code, which is followed by a second code if it is a high surrogate. -/
def readCoded (text : Text) : Option (Char × Text) := do
  let (code, rest) ← readCode text
  if 0xD800 ≤ code ∧ code < 0xDC00 then
    let (low, rest) ← readCode (← stripStart? ['\\', 'u'] rest)
    if 0xDC00 ≤ low ∧ low < 0xE000 then
      return (Char.ofNat (0x10000 + 0x400 * (code - 0xD800) + (low - 0xDC00)), rest)
    else none
  else return (← Regex.charOfCode? code, rest)

/-- What a backslash and the text behind it stand for. -/
def readEscape : Text → Option (Char × Text)
  | [] => none
  | 'u' :: rest => readCoded rest
  | c :: rest => (shortEscape? c).map fun escaped => (escaped, rest)

/-- The characters of a string up to its closing quotation mark, and the text behind it. -/
def readChars : Nat → Text → Option (Text × Text)
  | 0, _ => none
  | _ + 1, [] => none
  | _ + 1, '"' :: rest => some ([], rest)
  | fuel + 1, '\\' :: rest => do
    let (c, rest) ← readEscape rest
    let (chars, rest) ← readChars fuel rest
    return (c :: chars, rest)
  | fuel + 1, c :: rest =>
    if c.toNat < 32 then none
    else (readChars fuel rest).map fun (chars, rest) => (c :: chars, rest)

/-- A string, from behind its opening quotation mark on. -/
def readString (text : Text) : Option (String × Text) :=
  (readChars (text.length + 1) text).map fun (chars, rest) => (String.ofList chars, rest)

/-- The digits at the beginning of a text, at least one, and the text behind them. -/
def readDigits (text : Text) : Option (Text × Text) :=
  let digits := text.takeWhile Char.isDigit
  if digits.isEmpty then none else some (digits, text.dropWhile Char.isDigit)

/-- The digits in front of the point. They begin with a zero only if they are that digit. -/
def readWhole (text : Text) : Option (Text × Text) :=
  (readDigits text).filter fun (digits, _) => digits.head? ≠ some '0' ∨ digits = ['0']

/-- The digits behind the point, if there is a point. -/
def readFraction : Text → Option (Text × Text)
  | '.' :: rest => readDigits rest
  | text => some ([], text)

/-- The digits of a power of ten, with or without a sign. -/
def readPower : Text → Option (Int × Text)
  | '-' :: rest => (readDigits rest).map fun (digits, rest) =>
    (-(Nat.ofDigitChars 10 digits 0 : Int), rest)
  | '+' :: rest => (readDigits rest).map fun (digits, rest) =>
    ((Nat.ofDigitChars 10 digits 0 : Int), rest)
  | text => (readDigits text).map fun (digits, rest) =>
    ((Nat.ofDigitChars 10 digits 0 : Int), rest)

/-- The power of ten, if a letter for it stands here. -/
def readExponent : Text → Option (Option Int × Text)
  | [] => some (none, [])
  | c :: rest =>
    if c = 'e' ∨ c = 'E' then (readPower rest).map fun (power, rest) => (some power, rest)
    else some (none, c :: rest)

/-- A number without its sign. -/
def readUnsigned (negative : Bool) (text : Text) : Option (Numeral × Text) := do
  let (whole, rest) ← readWhole text
  let (fraction, rest) ← readFraction rest
  let (exponent, rest) ← readExponent rest
  return (⟨negative, whole, fraction, exponent⟩, rest)

/-- A number. -/
def readNumeral : Text → Option (Numeral × Text)
  | '-' :: rest => readUnsigned true rest
  | text => readUnsigned false text

/-- The value that a numeral writes. It is an integer if it has neither a point nor an exponent. -/
def ofNumeral (n : Numeral) : Value :=
  let digits := Nat.ofDigitChars 10 (n.whole ++ n.fraction) 0
  if n.fraction = [] ∧ n.exponent = none then int (if n.negative then -digits else digits)
  else float (.ofParts n.negative digits (n.exponent.getD 0 - n.fraction.length))

/-- The words that are values. -/
def wordValues : List (Text × Value) :=
  [("null".toList, null), ("true".toList, bool true), ("false".toList, bool false)]

/-- A word or a number. -/
def readPlain (text : Text) : Option (Value × Text) :=
  (wordValues.findSome? fun (word, v) => (stripStart? word text).map fun rest => (v, rest)).or
    ((readNumeral text).map fun (n, rest) => (ofNumeral n, rest))

/-- The name of a field with the colon behind it. -/
def readName (text : Text) : Option (String × Text) := do
  let (name, rest) ← readString (← stripStart? ['"'] (skipSpace text))
  return (name, ← stripStart? [':'] (skipSpace rest))

mutual

/-- A value, and the text behind it. -/
def readValue : Nat → Text → Option (Value × Text)
  | 0, _ => none
  | fuel + 1, text =>
    match skipSpace text with
    | '"' :: rest => (readString rest).map fun (s, rest) => (str s, rest)
    | '[' :: rest =>
      match skipSpace rest with
      | ']' :: rest => some (arr [], rest)
      | rest => (readItems fuel rest).map fun (items, rest) => (arr items, rest)
    | '\x7b' :: rest =>
      match skipSpace rest with
      | '\x7d' :: rest => some (obj [], rest)
      | rest => (readFields fuel rest).map fun (fields, rest) => (obj fields, rest)
    | text => readPlain text

/-- Items up to the closing bracket, at least one, and the text behind it. -/
def readItems : Nat → Text → Option (List Value × Text)
  | 0, _ => none
  | fuel + 1, text => do
    let (item, rest) ← readValue fuel text
    match skipSpace rest with
    | ',' :: rest => (readItems fuel rest).map fun (items, rest) => (item :: items, rest)
    | ']' :: rest => some ([item], rest)
    | _ => none

/-- Fields up to the closing brace, at least one, and the text behind it. -/
def readFields : Nat → Text → Option (List (String × Value) × Text)
  | 0, _ => none
  | fuel + 1, text => do
    let (name, rest) ← readName text
    let (item, rest) ← readValue fuel rest
    match skipSpace rest with
    | ',' :: rest => (readFields fuel rest).map fun (fields, rest) => ((name, item) :: fields, rest)
    | '\x7d' :: rest => some ([(name, item)], rest)
    | _ => none

end

/-- The value that a text writes, if it is a JSON text. Each character is met by at most one value
and one row of items. -/
def read? (text : Text) : Option Value :=
  (readValue (2 * text.length + 1) text).bind fun (v, rest) =>
    if (skipSpace rest).isEmpty then some v else none

end ParserCombinators.Value
