import ParserCombinators.Parser.Match
import ParserCombinators.Parser.Repeat

/-!
# Requests

What a user can ask for on the command line: to match a literal, one of the named patterns, or
a list of such patterns with a separator, at the beginning of an input. The report is in text
or in JSON.
-/

namespace ParserCombinators

/-- The patterns that have a name on the command line. -/
inductive ItemKind where
  | letters
  | digits
  | alnum
  | float
deriving DecidableEq, Repr

namespace ItemKind

/-- The name of a kind. -/
def name : ItemKind → String
  | letters => "letters"
  | digits => "digits"
  | alnum => "alnum"
  | float => "float"

/-- The kind of a name. -/
def ofName? (name : String) : Option ItemKind :=
  [letters, digits, alnum, float].find? fun kind => kind.name = name

/-- Reading the name of a kind gives the kind. -/
theorem ofName?_name (kind : ItemKind) : ofName? kind.name = some kind := by
  cases kind <;> decide

/-- The parser of a kind. -/
def parser : ItemKind → Parser String
  | letters => Parser.letters
  | digits => Parser.digits
  | alnum => Parser.lettersOrDigits
  | float => Parser.floatingPoint

end ItemKind

/-- What to look for in which input. -/
inductive Command where
  | literal (expected input : String)
  | pattern (kind : ItemKind) (input : String)
  | list (kind : ItemKind) (input separator : String)
deriving DecidableEq, Repr

/-- A command and the form of its report. -/
structure Request where
  /-- Whether the report is in JSON. -/
  json : Bool
  command : Command
deriving DecidableEq, Repr

namespace Command

/-- The name of a command. -/
def name : Command → String
  | literal _ _ => "literal"
  | pattern _ _ => "pattern"
  | list _ _ _ => "list"

/-- The input of a command. -/
def input : Command → String
  | literal _ input => input
  | pattern _ input => input
  | list _ input _ => input

end Command

end ParserCombinators
