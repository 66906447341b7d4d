import ParserCombinators.Parser.Match
import ParserCombinators.Parser.Repeat
import ParserCombinators.Text.Decimal

/-!
# A query language

Queries ask a data set for its entries. A query names the data set, says which entries are wanted,
which of their keys to show, and by which key to sort them. The keys are those of the kind of the
data set, so most parsers depend on the kind read before.
-/

namespace ParserCombinators

/-- A data set of some kind. -/
structure DataSet where
  kind : String
  name : String
deriving DecidableEq

/-- What the value of a key is compared with. A number stays as it was written. -/
inductive FilterValue where
  | number (written : String)
  | text (content : String)
deriving DecidableEq

/-- A condition on the value of a key. -/
structure Filter where
  key : String
  op : String
  value : FilterValue
deriving DecidableEq

/-- What a query says. -/
structure ParsedQuery where
  dataSet : DataSet
  filters : List Filter
  display : List String
  /-- The key to sort by, or the empty text. -/
  order : String
deriving DecidableEq

namespace Query

open ParserCombinators.Parser

/-- The kinds of data sets. -/
def kinds : List String :=
  ["courses", "rooms"]

/-- The keys of the entries of a data set of the kind. -/
def keysFor (kind : String) : List String :=
  if kind = "courses" then ["Average", "Department", "Title", "Pass"]
  else ["Seats", "Name", "Address"]

/-- The comparisons with a number. -/
def numericOps : List String :=
  ["is greater than", "is less than", "is equal to"]

/-- The comparisons with a text. -/
def textOps : List String :=
  ["includes", "is"]

/-- What stands between two keys to show. -/
def joints : List String :=
  [", ", " and "]

/-- A key of the kind. -/
def key (kind : String) : Parser String :=
  (choice ((keysFor kind).map literal)).label ("a " ++ kind ++ " key")

/-- A data set. -/
def dataSet : Parser DataSet :=
  (((((literal "In ").skipLeft (choice (kinds.map literal))).skip (literal " dataset ")).followedBy
    lettersOrDigits).skip (literal ", ")).map fun (kind, name) => { kind, name }

/-- What a condition has in front of the value that it compares with. -/
def subject (kind : String) (ops : List String) : Parser (String × String) :=
  (((key kind).skip (literal " ")).followedBy (choice (ops.map literal))).skip (literal " ")

/-- A condition that compares with a number. -/
def numericFilter (kind : String) : Parser Filter :=
  ((subject kind numericOps).followedBy floatingPoint).chain fun ((key, op), number) =>
    if isFloat number.toList then success { key, op, value := .number number }
    else fail (number ++ " is not a number")

/-- Any text up to a quotation mark. -/
def quotedText : Parser String :=
  (pattern? .standard "text" "[^\"]*").get (by decide +kernel)

/-- A condition that compares with a text. -/
def textFilter (kind : String) : Parser Filter :=
  ((subject kind textOps).followedBy (between (literal "\"") (literal "\"") quotedText)).map
    fun ((key, op), content) => { key, op, value := .text content }

/-- The conditions on the entries, none if all are wanted. -/
def filters (kind : String) : Parser (List Filter) :=
  choice [(literal "find all entries").map fun _ => [],
    (literal "find entries whose ").skipLeft
      (sepBy1 (literal " and ") (choice [numericFilter kind, textFilter kind]))]

/-- The keys to show. -/
def display (kind : String) : Parser (List String) :=
  (literal "; show ").skipLeft (sepBy1 (choice (joints.map literal)) (key kind))

/-- The key to sort by, or the empty text. -/
def order (kind : String) : Parser String :=
  (((literal "; sort in ascending order by ").skipLeft (key kind)).optional).map (·.getD "")

/-- A query. -/
def parser : Parser ParsedQuery :=
  dataSet.chain fun dataSet =>
    ((((filters dataSet.kind).followedBy (display dataSet.kind)).followedBy
      (order dataSet.kind)).skip (literal ".")).map fun ((filters, display), order) =>
        { dataSet, filters, display, order }

end Query

end ParserCombinators
