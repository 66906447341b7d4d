import ParserCombinators.Regex.Basic
import ParserCombinators.Text.Basic

/-!
# Written atoms of regular expressions

The smallest pieces of a written regular expression: escapes, hexadecimal code points, properties
of characters, decimal counts, and the layout between pieces. Each reader takes the text from its
place on and returns the piece with the text after it. Which characters have a property is not
said here; a mode brings the answer along.

Layout is white space and comments. It is skipped in verbose mode only; a comment runs from a
number sign to the end of its line, or to the end of the text.
-/

namespace ParserCombinators.Regex

/-- The text after a comment, layout that follows it included. -/
def skipLayout (inComment : Bool) : Text → Text
  | [] => []
  | c :: rest =>
    if inComment then skipLayout (c != '\n') rest
    else if Unicode.isBlank c then skipLayout false rest
    else if c = '#' then skipLayout true rest
    else c :: rest

/-- The text after the layout at its beginning, which counts in verbose mode only. -/
def skip (verbose : Bool) (text : Text) : Text :=
  if verbose then skipLayout false text else text

/-- How escapes and classes are read. -/
structure Mode where
  /-- Letters match in any case. -/
  ignoreCase : Bool
  /-- Classes and case take all characters into account and not only those of ASCII. -/
  unicode : Bool
  /-- Layout between the parts is skipped. -/
  verbose : Bool
  /-- The characters with a property, from the text that asks for it. -/
  property? : Text → Option CharSet

namespace Mode

/-- The set in any case if case is ignored. -/
def fold (mode : Mode) (members : CharSet) : CharSet :=
  if mode.ignoreCase then if mode.unicode then .anyCase members else .asciiCase members
  else members

/-- The characters from first to last. -/
def range (mode : Mode) (first last : Char) : CharSet :=
  mode.fold (.range first last)

/-- The characters outside the set, which are of more than ASCII. -/
def outside? (mode : Mode) (members : CharSet) : Option CharSet :=
  if mode.unicode then some (.compl members) else none

/-- The digits. -/
def digit (mode : Mode) : CharSet :=
  if mode.unicode then .digit else .range '0' '9'

/-- The white space. -/
def blank (mode : Mode) : CharSet :=
  if mode.unicode then .blank else .ofRanges [('\t', '\r'), (' ', ' ')]

/-- The word characters. -/
def word (mode : Mode) : CharSet :=
  if mode.unicode then .word else .ofRanges [('0', '9'), ('A', 'Z'), ('_', '_'), ('a', 'z')]

/-- The class of a letter behind a backslash. An uppercase letter stands for what is outside. -/
def letterClass? (mode : Mode) (letter : Char) : Option CharSet :=
  match letter with
  | 'd' => some mode.digit
  | 's' => some mode.blank
  | 'w' => some mode.word
  | 'D' => mode.outside? mode.digit
  | 'S' => mode.outside? mode.blank
  | 'W' => mode.outside? mode.word
  | _ => none

/-- The class of a property, or what is outside it. Case is ignored before. -/
def propertyClass? (mode : Mode) (negated : Bool) (name : Text) : Option CharSet :=
  if mode.unicode then
    (mode.property? name).map fun members =>
      if negated then .compl (mode.fold members) else mode.fold members
  else none

end Mode

/-- What an escape or an unescaped character stands for. -/
inductive Atom where
  | literal (c : Char)
  | set (members : CharSet)
  | look (condition : Look)
deriving DecidableEq, Repr

/-- The value of a hexadecimal digit. -/
def hexDigit? (c : Char) : Option Nat :=
  if '0' ≤ c ∧ c ≤ '9' then some (c.toNat - '0'.toNat)
  else if 'a' ≤ c ∧ c ≤ 'f' then some (c.toNat - 'a'.toNat + 10)
  else if 'A' ≤ c ∧ c ≤ 'F' then some (c.toNat - 'A'.toNat + 10)
  else none

/-- The character with a code point, if there is one. -/
def charOfCode? (n : Nat) : Option Char :=
  if n.isValidChar then some (Char.ofNat n) else none

/-- A fixed number of hexadecimal digits. -/
def readHexDigits (verbose : Bool) : Nat → Nat → Text → Option (Nat × Text)
  | 0, value, text => some (value, text)
  | n + 1, value, text =>
    match skip verbose text with
    | [] => none
    | c :: rest => (hexDigit? c).bind fun d => readHexDigits verbose n (16 * value + d) rest

/-- Hexadecimal digits up to a closing brace. At least one must have been read before it. -/
def readHexBrace (verbose : Bool) : Nat → Bool → Nat → Text → Option (Nat × Text)
  | 0, _, _, _ => none
  | fuel + 1, started, value, text =>
    match skip verbose text with
    | [] => none
    | '}' :: rest => if started then some (value, rest) else none
    | c :: rest =>
      (hexDigit? c).bind fun d => readHexBrace verbose fuel true (16 * value + d) rest

/-- A code point of a fixed number of digits. Two digits tell a byte, and without Unicode a byte
beyond ASCII is no character. -/
def fixedCode? (mode : Mode) (digits : Nat) (code : Nat × Text) : Option (Nat × Text) :=
  if mode.unicode ∨ digits ≠ 2 ∨ code.1 < 128 then some code else none

/-- A code point in braces, or as a fixed number of hexadecimal digits. -/
def readHex (mode : Mode) (digits : Nat) (text : Text) : Option (Atom × Text) := do
  let (value, rest) ← match skip mode.verbose text with
    | '{' :: rest => readHexBrace mode.verbose (rest.length + 1) false 0 rest
    | text => (readHexDigits mode.verbose digits 0 text).bind (fixedCode? mode digits)
  let c ← charOfCode? value
  return (.literal c, rest)

/-- A name up to its closing brace, of characters that may stand in it. -/
def readBraced (verbose : Bool) (allowed : Char → Bool) : Nat → Text → Text → Option (Text × Text)
  | 0, _, _ => none
  | fuel + 1, name, text =>
    match skip verbose text with
    | [] => none
    | '}' :: rest => some (name.reverse, rest)
    | c :: rest => if allowed c then readBraced verbose allowed fuel (c :: name) rest else none

/-- Whether the character may stand in the name of a kind of word boundary. -/
def isBoundaryNameChar (c : Char) : Bool :=
  c.isAlpha || c = '-'

/-- The kinds of word boundary that have a name. -/
def namedBoundary? (unicode : Bool) (name : Text) : Option Look :=
  match String.ofList name with
  | "start" => some (.wordStart unicode)
  | "end" => some (.wordStop unicode)
  | "start-half" => some (.notAfterWord unicode)
  | "end-half" => some (.notBeforeWord unicode)
  | _ => none

/-- A word boundary, by name if a name in braces follows. -/
def readBoundary (mode : Mode) (text : Text) : Option (Atom × Text) :=
  match text with
  | '{' :: rest =>
    match skip mode.verbose rest with
    | [] => none
    | c :: name =>
      if isBoundaryNameChar c then do
        let (name, after) ← readBraced mode.verbose isBoundaryNameChar (name.length + 2) []
          (c :: name)
        let condition ← namedBoundary? mode.unicode name
        return (.look condition, after)
      else some (.look (.wordBoundary mode.unicode), text)
  | _ => some (.look (.wordBoundary mode.unicode), text)

/-- What asks for a property: one letter, or what stands in braces. -/
def readPropertyName (verbose : Bool) (text : Text) : Option (Text × Text) :=
  match skip verbose text with
  | [] => none
  | '{' :: rest => readBraced verbose (fun _ => true) (rest.length + 1) [] rest
  | '\\' :: _ => none
  | c :: rest => some ([c], rest)

/-- The class of a property, or of what is outside it. -/
def readProperty (mode : Mode) (negated : Bool) (text : Text) : Option (Atom × Text) := do
  let (name, rest) ← readPropertyName mode.verbose text
  let members ← mode.propertyClass? negated name
  return (.set members, rest)

/-- What a backslash and the text after it stand for. -/
def readEscape (mode : Mode) : Text → Option (Atom × Text)
  | [] => none
  | c :: rest =>
    match c with
    | 'x' => readHex mode 2 rest
    | 'u' => readHex mode 4 rest
    | 'U' => readHex mode 8 rest
    | 'p' => readProperty mode false rest
    | 'P' => readProperty mode true rest
    | 'd' | 'D' | 's' | 'S' | 'w' | 'W' =>
      (mode.letterClass? c).map fun members => (.set members, rest)
    | 'a' => some (.literal '\x07', rest)
    | 'f' => some (.literal '\x0c', rest)
    | 't' => some (.literal '\t', rest)
    | 'n' => some (.literal '\n', rest)
    | 'r' => some (.literal '\r', rest)
    | 'v' => some (.literal '\x0b', rest)
    | 'A' => some (.look .start, rest)
    | 'z' => some (.look .stop, rest)
    | 'b' => readBoundary mode rest
    | 'B' => some (.look (.notWordBoundary mode.unicode), rest)
    | '<' => some (.look (.wordStart mode.unicode), rest)
    | '>' => some (.look (.wordStop mode.unicode), rest)
    | c => if c.toNat < 128 ∧ ¬ c.isAlphanum then some (.literal c, rest) else none

/-- Decimal digits at the beginning of a text, appended to those read before. -/
def readDigits (verbose : Bool) : Nat → Text → Text → Text × Text
  | 0, digits, text => (digits, text)
  | fuel + 1, digits, text =>
    match text with
    | [] => (digits, [])
    | c :: rest =>
      if c.isDigit then readDigits verbose fuel (digits ++ [c]) (skip verbose rest)
      else (digits, c :: rest)

/-- The number that decimal digits write. -/
def decimalValue (digits : Text) : Nat :=
  digits.foldl (fun value c => 10 * value + (c.toNat - '0'.toNat)) 0

/-- A decimal number of at most 32 bits, with white space around it. -/
def readDecimal (verbose : Bool) (text : Text) : Option (Nat × Text) :=
  let start := text.dropWhile Unicode.isBlank
  let (digits, rest) := readDigits verbose start.length [] start
  let value := decimalValue digits
  if digits.isEmpty ∨ UInt32.size ≤ value then none
  else some (value, skip verbose (rest.dropWhile Unicode.isBlank))

/-- A count in braces, from after the opening brace on: a number, a least number, or a least and
a greatest number that is no smaller. -/
def readCount (verbose : Bool) (text : Text) : Option ((Nat × Option Nat) × Text) := do
  let (least, rest) ← readDecimal verbose (skip verbose text)
  match rest with
  | '}' :: rest => return ((least, some least), rest)
  | ',' :: rest =>
    match skip verbose rest with
    | '}' :: rest => return ((least, none), rest)
    | rest =>
      let (most, rest) ← readDecimal verbose rest
      match rest with
      | '}' :: rest => if least ≤ most then return ((least, some most), rest) else none
      | _ => none
  | _ => none

end ParserCombinators.Regex
