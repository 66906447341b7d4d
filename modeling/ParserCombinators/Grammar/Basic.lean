import ParserCombinators.Failure
import ParserCombinators.Json.Printer
import ParserCombinators.Text.Basic

/-!
# Grammars

A grammar describes a parser of JSON values. It may refer to rules by name, so a set of rules
can be recursive. Values and messages go through arbitrary functions, and the next parser may
depend on the value read; the functions that a written grammar can name are data.
-/

namespace ParserCombinators

/-- The matchers that have a name. -/
inductive Matcher where
  | letters
  | digits
  | lettersOrDigits
  | floatingPoint
  | whitespace
  | optionalWhitespace

/-- The description of a parser. -/
inductive Grammar where
  | literal (expected : String)
  | pattern (name : String) (search : Search)
  | matcher (matcher : Matcher)
  | sequence (parts : List Grammar)
  | choice (alternatives : List Grammar)
  | many (item : Grammar)
  | many1 (item : Grammar)
  | sepBy (separator item : Grammar)
  | sepBy1 (separator item : Grammar)
  | between (left right content : Grammar)
  | optional (item : Grammar)
  | success (value : Value)
  | fail (message : String)
  | followedBy (first second : Grammar)
  | skip (first second : Grammar)
  | skipLeft (first second : Grammar)
  | label (item : Grammar) (name : String)
  | map (item : Grammar) (transform : Value → Value)
  /-- The next parser is chosen by the value read. -/
  | chain (item : Grammar) (next : Value → Grammar)
  | reword (item : Grammar) (message : Failure → String)
  /-- A parser that is built when it runs. -/
  | delay (item : Grammar)
  /-- The parser of a rule. -/
  | rule (name : String)

/-- Rules by name. The first rule of a name counts. -/
abbrev Rules := List (String × Grammar)

/-- A written function on values. -/
inductive Transform where
  /-- The same value for every value. -/
  | const (value : Value)
  /-- An object with the value as its only field. -/
  | tag (key : String)
  /-- The texts inside the value, joined. -/
  | concat
  /-- The number of items of an array, or of bytes of a string. -/
  | count
  /-- The item of an array at a place. -/
  | item (place : Nat)
  /-- One more than the greatest number in an array. -/
  | depth

/-- A part of the message of a reworded failure. -/
inductive MessagePart where
  /-- A fixed text. -/
  | fixed (words : String)
  | index
  | message
  | kind
  | category

/-- A written choice of the next parser by a value. -/
inductive Continuation where
  /-- Succeed with the value. -/
  | success
  /-- Fail with a message that the value ends. -/
  | fail (start : String)
  /-- Expect the text of the value again. -/
  | same
  /-- As many items as the value says. -/
  | times (item : Grammar)
  /-- The same parser for every value. -/
  | always (item : Grammar)
  /-- One parser for a string value, and another choice for all other values. -/
  | whenText (key : String) (item : Grammar) (otherwise : Continuation)

/-- The message that its parts give for a failure. -/
def MessagePart.render (failure : Failure) : MessagePart → String
  | fixed words => words
  | index => toString failure.index
  | message => failure.message
  | kind => failure.kind.name
  | category => failure.category.name

/-- The message that a list of parts gives for a failure. -/
def MessagePart.renderAll (parts : List MessagePart) (failure : Failure) : String :=
  String.join (parts.map (MessagePart.render failure))

namespace Value

mutual

/-- The text of a value: strings and numbers of nested arrays in order, and nothing else. -/
def text : Value → String
  | str s => s
  | int n => toString n
  | float x => String.ofList x.numeral.written
  | arr items => textOfItems items
  | null => ""
  | bool _ => ""
  | obj _ => ""

/-- The texts of values, joined. -/
def textOfItems : List Value → String
  | [] => ""
  | v :: vs => text v ++ textOfItems vs

end

/-- The number of items of an array or of bytes of a string. -/
def count : Value → Nat
  | arr items => items.length
  | str s => s.utf8ByteSize
  | _ => 0

/-- The natural number that the value is, or zero. -/
def toNatD : Value → Nat
  | int n => n.toNat
  | _ => 0

/-- One more than the greatest number in an array, zero for an empty array. -/
def depth : Value → Nat
  | arr items => (items.map fun item => item.toNatD + 1).foldl max 0
  | _ => 0

/-- The item of an array at a place, or null. -/
def item (place : Nat) : Value → Value
  | arr items => items.getD place null
  | _ => null

/-- The count that a string of decimal digits writes, with at most one plus sign in front, up to
a thousand. -/
def readCount? : Value → Option Nat
  | str s =>
    let digits := match s.toList with
      | '+' :: rest => rest
      | text => text
    let n := digits.foldl (fun n c => 10 * n + (c.toNat - '0'.toNat)) 0
    if digits.isEmpty || !digits.all Char.isDigit || 1000 < n then none else some n
  | _ => none

end Value

/-- The value of the function. -/
def Transform.apply : Transform → Value → Value
  | const value, _ => value
  | tag key, value => .obj [(key, value)]
  | concat, value => .str value.text
  | count, value => .int value.count
  | item place, value => value.item place
  | depth, value => .int value.depth

/-- The grammar that a written choice takes for a value. -/
def Continuation.choose : Continuation → Value → Grammar
  | success, value => .success value
  | fail start, value => .fail (start ++ value.text)
  | same, value => .literal value.text
  | times item, value =>
    match value.readCount? with
    | some n => .sequence (List.replicate n item)
    | none => .fail "count out of range"
  | always item, _ => item
  | whenText key item otherwise, value =>
    if value = .str key then item else otherwise.choose value

instance : Coe Transform (Value → Value) := ⟨Transform.apply⟩

instance : Coe (List MessagePart) (Failure → String) := ⟨MessagePart.renderAll⟩

instance : Coe Continuation (Value → Grammar) := ⟨Continuation.choose⟩

end ParserCombinators
