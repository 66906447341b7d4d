import ParserCombinators.Regex.Escape
import ParserCombinators.Regex.Nesting

/-!
# Written character classes

A bracketed class lists characters, ranges, escapes, named classes and nested classes, and may
combine what stands on its left and right by set operations, which group to the left. A caret
at the beginning complements the class. Hyphens at the beginning and a closing bracket that
comes first stand for themselves.
-/

namespace ParserCombinators.Regex

/-- The classes that have a name. -/
def namedClass? (name : Text) : Option (List (Char × Char)) :=
  match String.ofList name with
  | "alnum" => some [('0', '9'), ('A', 'Z'), ('a', 'z')]
  | "alpha" => some [('A', 'Z'), ('a', 'z')]
  | "ascii" => some [('\x00', '\x7f')]
  | "blank" => some [('\t', '\t'), (' ', ' ')]
  | "cntrl" => some [('\x00', '\x1f'), ('\x7f', '\x7f')]
  | "digit" => some [('0', '9')]
  | "graph" => some [('!', '~')]
  | "lower" => some [('a', 'z')]
  | "print" => some [(' ', '~')]
  | "punct" => some [('!', '/'), (':', '@'), ('[', '\x60'), ('\x7b', '~')]
  | "space" => some [('\t', '\r'), (' ', ' ')]
  | "upper" => some [('A', 'Z')]
  | "word" => some [('0', '9'), ('A', 'Z'), ('_', '_'), ('a', 'z')]
  | "xdigit" => some [('0', '9'), ('A', 'F'), ('a', 'f')]
  | _ => none

/-- A named class, from after its opening bracket on, such as the one of letters: whether it is
negated, and what its name stands for. -/
def readNamedClass : Text → Option ((Bool × List (Char × Char)) × Text)
  | ':' :: rest => do
    let (negated, rest) := match rest with
      | '^' :: rest => (true, rest)
      | rest => (false, rest)
    let name := rest.takeWhile (· != ':')
    let after ← stripStart? [':', ']'] (rest.dropWhile (· != ':'))
    return ((negated, ← namedClass? name), after)
  | _ => none

/-- The set of a named class. -/
def Mode.named? (mode : Mode) (negated : Bool) (ranges : List (Char × Char)) : Option CharSet :=
  if negated then mode.outside? (mode.fold (.ofRanges ranges))
  else some (mode.fold (.ofRanges ranges))

/-- How a set operation combines what stands on its two sides. -/
inductive SetOperation where
  | inter
  | diff
  | symmDiff

/-- The set that the operation makes of its two sides. -/
def SetOperation.apply : SetOperation → CharSet → CharSet → CharSet
  | inter => .inter
  | diff => .diff
  | symmDiff => .symmDiff

/-- A class on the way of being read: what stands left of the last set operation, and the items
read since. -/
structure OpenClass where
  negated : Bool
  left : Option (CharSet × SetOperation)
  items : CharSet
  nesting : Nesting := {}

namespace OpenClass

/-- The set read so far. -/
def members (cls : OpenClass) : CharSet :=
  match cls.left with
  | none => cls.items
  | some (left, operation) => operation.apply left cls.items

/-- The class with one more item of the given number of levels. -/
def add (cls : OpenClass) (item : CharSet) (levels : Nat) : OpenClass :=
  { cls with
    items := if cls.items = .none then item else .union cls.items item
    nesting := cls.nesting.push levels }

/-- The class after a set operation. -/
def operate (cls : OpenClass) (operation : SetOperation) : OpenClass :=
  { cls with left := some (cls.members, operation), items := .none, nesting := cls.nesting.operate }

/-- The set of the class. -/
def close? (cls : OpenClass) (mode : Mode) : Option CharSet :=
  if cls.negated then mode.outside? cls.members else some cls.members

/-- The levels of the class. -/
def levels (cls : OpenClass) : Nat :=
  cls.nesting.operands + 1

end OpenClass

/-- The range between two characters of a class. Without Unicode a class is one of ASCII. -/
def Mode.classRange? (mode : Mode) (first last : Char) : Option CharSet :=
  if first.toNat ≤ last.toNat ∧ (mode.unicode ∨ last.toNat < 128) then some (mode.range first last)
  else none

/-- The set that an atom stands for inside a class. Conditions have no place there. -/
def Mode.item? (mode : Mode) : Atom → Option CharSet
  | .literal c => mode.classRange? c c
  | .set members => some members
  | .look _ => none

/-- A character or an escape. -/
def readClassAtom (mode : Mode) : Text → Option (Atom × Text)
  | [] => none
  | '\\' :: rest => readEscape mode rest
  | c :: rest => some (.literal c, rest)

/-- A single item or a range. A hyphen makes a range unless a closing bracket or another hyphen
follows it. -/
def readClassItem (mode : Mode) (text : Text) : Option (CharSet × Text) := do
  let (first, rest) ← readClassAtom mode text
  let rest := skip mode.verbose rest
  match rest with
  | '-' :: more =>
    let more := skip mode.verbose more
    if more.head? = some ']' ∨ more.head? = some '-' then
      return (← mode.item? first, rest)
    else
      let (last, rest) ← readClassAtom mode more
      match first, last with
      | .literal first, .literal last => return (← mode.classRange? first last, rest)
      | _, _ => none
  | _ => return (← mode.item? first, rest)

/-- Hyphens at the beginning of a class. -/
def readHyphens (mode : Mode) : Nat → OpenClass → Text → OpenClass × Text
  | 0, cls, text => (cls, text)
  | fuel + 1, cls, text =>
    match skip mode.verbose text with
    | '-' :: rest => readHyphens mode fuel (cls.add (mode.range '-' '-') 0) rest
    | rest => (cls, rest)

/-- The beginning of a class, from after its opening bracket on: the caret, the hyphens, and a
closing bracket that stands for itself. -/
def openClass (mode : Mode) (text : Text) : OpenClass × Text :=
  let (negated, rest) := match skip mode.verbose text with
    | '^' :: rest => (true, rest)
    | rest => (false, rest)
  let (cls, rest) := readHyphens mode (rest.length + 1) ⟨negated, none, .none, {}⟩ rest
  match rest with
  | ']' :: after =>
    if cls.items = .none then (cls.add (mode.range ']' ']') 0, after) else (cls, rest)
  | _ => (cls, rest)

/-- The rest of a class, with the classes around it, innermost first: its set, its levels and the
text after it. -/
def readClassFrom (mode : Mode) :
    Nat → OpenClass → List OpenClass → Text → Option (CharSet × Nat × Text)
  | 0, _, _, _ => none
  | fuel + 1, cls, outer, text =>
    match skip mode.verbose text with
    | [] => none
    | ']' :: rest =>
      (cls.close? mode).bind fun members =>
        match outer with
        | [] => some (members, cls.levels, rest)
        | parent :: outer => readClassFrom mode fuel (parent.add members cls.levels) outer rest
    | '[' :: rest =>
      match readNamedClass rest with
      | some ((negated, ranges), rest) => (mode.named? negated ranges).bind fun members =>
          readClassFrom mode fuel (cls.add members 0) outer rest
      | none =>
        let (nested, rest) := openClass mode rest
        readClassFrom mode fuel nested (cls :: outer) rest
    | '&' :: '&' :: rest => readClassFrom mode fuel (cls.operate .inter) outer rest
    | '-' :: '-' :: rest => readClassFrom mode fuel (cls.operate .diff) outer rest
    | '~' :: '~' :: rest => readClassFrom mode fuel (cls.operate .symmDiff) outer rest
    | text => (readClassItem mode text).bind fun (item, rest) =>
        readClassFrom mode fuel (cls.add item 0) outer rest

/-- A bracketed class, from after its opening bracket on: its set, its levels and the text
after it. -/
def readClass (mode : Mode) (text : Text) : Option (CharSet × Nat × Text) :=
  let (cls, rest) := openClass mode text
  readClassFrom mode (rest.length + 1) cls [] rest

end ParserCombinators.Regex
