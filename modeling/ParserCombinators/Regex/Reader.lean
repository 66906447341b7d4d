import ParserCombinators.Regex.ClassReader
import ParserCombinators.Regex.Written
import ParserCombinators.Unicode.Alphabetic

/-!
# Reading regular expressions

A written regular expression is read from left to right, one piece at a time, with the groups
that are still open on a stack. Flags hold from the place where they are set to the end of the
group around it, later alternatives of the group included. There are no capturing groups in
the result; the names of groups are only checked.
-/

namespace ParserCombinators.Regex

/-- The settings that flags change. -/
structure Flags where
  /-- Letters match in any case. -/
  ignoreCase : Bool := false
  /-- The anchors match at the ends of lines. -/
  multiLine : Bool := false
  /-- The dot matches the line feed too. -/
  dotAll : Bool := false
  /-- Greedy and lazy repetition are exchanged. -/
  swapGreed : Bool := false
  /-- Layout between the parts is skipped. -/
  verbose : Bool := false
  /-- Classes and case take all characters into account and not only those of ASCII. -/
  unicode : Bool := true
  /-- A carriage return ends lines too. -/
  crlf : Bool := false
deriving DecidableEq, Repr

namespace Flags

/-- The settings with the flag of a letter switched on or off. -/
def set? (flags : Flags) (letter : Char) (value : Bool) : Option Flags :=
  match letter with
  | 'i' => some { flags with ignoreCase := value }
  | 'm' => some { flags with multiLine := value }
  | 's' => some { flags with dotAll := value }
  | 'U' => some { flags with swapGreed := value }
  | 'x' => some { flags with verbose := value }
  | 'u' => some { flags with unicode := value }
  | 'R' => some { flags with crlf := value }
  | _ => none

/-- How escapes and classes are read under these settings. -/
def mode (flags : Flags) (property? : Text → Option CharSet) : Mode :=
  ⟨flags.ignoreCase, flags.unicode, flags.verbose, property?⟩

/-- The characters that a dot stands for. Without Unicode it is a byte, which is no character. -/
def dot? (flags : Flags) : Option CharSet :=
  if !flags.unicode then none
  else if flags.dotAll then some (.compl .none)
  else if flags.crlf then some (.compl (.union (.single '\n') (.single '\r')))
  else some (.compl (.single '\n'))

/-- The condition of a caret. -/
def caret (flags : Flags) : Look :=
  if flags.multiLine then .startLine flags.crlf else .start

/-- The condition of a dollar sign. -/
def dollar (flags : Flags) : Look :=
  if flags.multiLine then .stopLine flags.crlf else .stop

end Flags

/-- Written flags, from after the question mark on, up to the character that ends them. The list
holds the characters read before; none of them may occur twice, and a hyphen may not be last. -/
def readFlags (flags : Flags) (seen : List Char) :
    Text → Option (Flags × List Char × Char × Text)
  | [] => none
  | c :: rest =>
    if c = ':' ∨ c = ')' then
      if seen.head? = some '-' then none else some (flags, seen, c, rest)
    else if c ∈ seen then none
    else if c = '-' then readFlags flags ('-' :: seen) rest
    else (flags.set? c ('-' ∉ seen)).bind fun flags => readFlags flags (c :: seen) rest

/-- Whether the character may stand in the name of a group, in front or further on. -/
def isGroupNameChar (isFirst : Bool) (c : Char) : Bool :=
  c = '_' || Unicode.isAlphabetic c ||
    !isFirst && (Unicode.isNumeric c || c = '.' || c = '[' || c = ']')

/-- The name of a group up to its closing angle bracket. -/
def readGroupName (name : Text) : Text → Option (Text × Text)
  | [] => none
  | c :: rest =>
    if c = '>' then if name.isEmpty then none else some (name.reverse, rest)
    else if isGroupNameChar name.isEmpty c then readGroupName (c :: name) rest
    else none

/-- A group on the way of being read: its alternatives so far and the parts of the current one,
both latest first. -/
structure OpenGroup where
  flags : Flags := {}
  alternatives : List Written := []
  parts : List Written := []
  /-- Whether the last thing read may be repeated. -/
  repeatable : Bool := false
  nesting : Nesting := {}

namespace OpenGroup

/-- The group with one more part of the given number of levels. -/
def push (group : OpenGroup) (part : Written) (levels : Nat) : OpenGroup :=
  { group with
    parts := part :: group.parts
    repeatable := true
    nesting := group.nesting.push levels }

/-- The group with new flags. -/
def setFlags (group : OpenGroup) (flags : Flags) : OpenGroup :=
  { group with flags, repeatable := false, nesting := group.nesting.push 0 }

/-- The group at the beginning of its next alternative. -/
def branch (group : OpenGroup) : OpenGroup :=
  { group with
    alternatives := .concat group.parts.reverse :: group.alternatives
    parts := []
    repeatable := false
    nesting := group.nesting.branch }

/-- The expression of the group. -/
def close (group : OpenGroup) : Written :=
  .oneOf (.concat group.parts.reverse :: group.alternatives).reverse

/-- The group with its last part repeated, if it ends in one. -/
def repeatLast? (group : OpenGroup) (least : Nat) (most : Option Nat) (lazyMark : Bool) :
    Option OpenGroup :=
  match group.parts with
  | [] => none
  | part :: parts =>
    if group.repeatable then
      some { group with
        parts := .counted part least most (lazyMark == group.flags.swapGreed) :: parts
        nesting := group.nesting.wrapLast }
    else none

end OpenGroup

/-- A reader between two pieces: the innermost open group, the groups around it, and the names
of groups used so far. -/
structure Reader where
  property? : Text → Option CharSet
  group : OpenGroup := {}
  outer : List OpenGroup := []
  names : List Text := []

namespace Reader

/-- Whether layout is skipped here. -/
def verbose (reader : Reader) : Bool :=
  reader.group.flags.verbose

/-- How escapes and classes are read here. -/
def mode (reader : Reader) : Mode :=
  reader.group.flags.mode reader.property?

/-- The reader after one more part of the given number of levels. -/
def push (reader : Reader) (part : Written) (levels : Nat) : Reader :=
  { reader with group := reader.group.push part levels }

/-- The reader inside a new group. -/
def enter (reader : Reader) (flags : Flags) : Reader :=
  { reader with group := { flags }, outer := reader.group :: reader.outer }

/-- The reader inside a group whose name begins here. A name is used once. -/
def nameGroup (reader : Reader) (text : Text) : Option (Reader × Text) := do
  let (name, rest) ← readGroupName [] text
  if name ∈ reader.names then none
  else return ({ reader.enter reader.group.flags with names := name :: reader.names }, rest)

/-- The reader after an opening parenthesis and the text after it. -/
def openGroup (reader : Reader) (text : Text) : Option (Reader × Text) :=
  match skip reader.verbose text with
  | '?' :: rest =>
    match rest with
    | '=' :: _ => none
    | '!' :: _ => none
    | '<' :: '=' :: _ => none
    | '<' :: '!' :: _ => none
    | 'P' :: '<' :: rest => reader.nameGroup rest
    | '<' :: rest => reader.nameGroup rest
    | _ => do
      let (flags, seen, stop, rest) ← readFlags reader.group.flags [] rest
      if stop = ':' then return (reader.enter flags, rest)
      else if seen.isEmpty then none
      else return ({ reader with group := reader.group.setFlags flags }, rest)
  | rest => some (reader.enter reader.group.flags, rest)

/-- The reader after a closing parenthesis. -/
def closeGroup (reader : Reader) : Option Reader :=
  match reader.outer with
  | [] => none
  | parent :: outer => some { reader with
      group := parent.push reader.group.close (reader.group.nesting.alternatives + 1), outer }

/-- The reader after a repetition of the last part and the text after it. A question mark right
behind the repetition makes it prefer few rounds. -/
def repeatPart (reader : Reader) (least : Nat) (most : Option Nat) (text : Text) :
    Option (Reader × Text) :=
  match text with
  | '?' :: rest => (reader.group.repeatLast? least most true).map fun group =>
      ({ reader with group }, rest)
  | _ => (reader.group.repeatLast? least most false).map fun group => ({ reader with group }, text)

/-- The expression of a character. -/
def literal (reader : Reader) (c : Char) : Written :=
  .set (reader.mode.range c c)

/-- The expression of an atom. -/
def ofAtom (reader : Reader) : Atom → Written
  | .literal c => reader.literal c
  | .set members => .set members
  | .look condition => .look condition

/-- The reader after the piece that begins with a character, and the text after the piece. -/
def step (reader : Reader) (c : Char) (rest : Text) : Option (Reader × Text) :=
  match c with
  | '(' => reader.openGroup rest
  | ')' => reader.closeGroup.map fun reader => (reader, rest)
  | '|' => some ({ reader with group := reader.group.branch }, rest)
  | '[' => (readClass reader.mode rest).map fun (members, levels, rest) =>
      (reader.push (.set members) levels, rest)
  | '?' => reader.repeatPart 0 (some 1) rest
  | '*' => reader.repeatPart 0 none rest
  | '+' => reader.repeatPart 1 none rest
  | '{' => (readCount reader.verbose rest).bind fun ((least, most), rest) =>
      reader.repeatPart least most (skip reader.verbose rest)
  | '\\' => (readEscape reader.mode rest).map fun (atom, rest) =>
      (reader.push (reader.ofAtom atom) 0, rest)
  | '.' => reader.group.flags.dot?.map fun members => (reader.push (.set members) 0, rest)
  | '^' => some (reader.push (.look reader.group.flags.caret) 0, rest)
  | '$' => some (reader.push (.look reader.group.flags.dollar) 0, rest)
  | c => some (reader.push (reader.literal c) 0, rest)

/-- The expression read, if no group is left open and it is not nested too deeply. -/
def finish (reader : Reader) : Option Written :=
  if reader.outer.isEmpty ∧ reader.group.nesting.alternatives ≤ Nesting.limit then
    some reader.group.close
  else none

/-- Read the rest of the text, one piece in each round. -/
def readAll : Nat → Reader → Text → Option Written
  | 0, _, _ => none
  | fuel + 1, reader, text =>
    match skip reader.verbose text with
    | [] => reader.finish
    | c :: rest => (reader.step c rest).bind fun (reader, rest) => readAll fuel reader rest

end Reader

end ParserCombinators.Regex
