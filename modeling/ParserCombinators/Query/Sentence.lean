import ParserCombinators.Query.Basic

/-!
# Written queries

A sentence is a query in the form in which it is written down. Its parts carry the proofs that they
are of the right form, so every sentence is one that the language has.
-/

namespace ParserCombinators.Query

/-- A key of the kind. -/
abbrev Key (kind : String) :=
  { name : String // name ∈ keysFor kind }

/-- What stands between two keys to show. -/
abbrev Joint :=
  { words : String // words ∈ joints }

/-- A comparison with a decimal number, or with a text without a quotation mark. -/
inductive Comparison where
  | number (op written : String) (hop : op ∈ numericOps) (hwritten : IsDecimal written.toList)
  | text (op content : String) (hop : op ∈ textOps) (hcontent : '"' ∉ content.toList)

/-- A condition on the entries of a data set of the kind. -/
structure Clause (kind : String) where
  key : Key kind
  comparison : Comparison

/-- A query as it is written. -/
structure Sentence where
  kind : String
  kind_mem : kind ∈ kinds
  name : String
  name_ne : name.toList ≠ []
  name_alphanum : ∀ c ∈ name.toList, c.isAlphanum
  clauses : List (Clause kind)
  /-- The first key to show. -/
  shown : Key kind
  /-- The other keys to show, with what stands in front of each. -/
  alsoShown : List (Joint × Key kind)
  /-- The key to sort by, if there is one. -/
  sortedBy : Option (Key kind)

/-- The words of a comparison. -/
def Comparison.op : Comparison → String
  | number op _ _ _ => op
  | text op _ _ _ => op

/-- What the comparison compares with. -/
def Comparison.value : Comparison → FilterValue
  | number _ written _ _ => .number written
  | text _ content _ _ => .text content

/-- What a key is compared with as it is written, a text in quotation marks. -/
def writtenValue : FilterValue → Text
  | .number written => written.toList
  | .text content => "\"".toList ++ content.toList ++ "\"".toList

/-- A condition as it is written. -/
def Clause.written {kind : String} (clause : Clause kind) : Text :=
  clause.key.1.toList ++ " ".toList ++ clause.comparison.op.toList ++ " ".toList ++
    writtenValue clause.comparison.value

/-- What a condition says. -/
def Clause.meaning {kind : String} (clause : Clause kind) : Filter where
  key := clause.key.1
  op := clause.comparison.op
  value := clause.comparison.value

/-- The conditions as they are written. -/
def writtenClauses {kind : String} : List (Clause kind) → Text
  | [] => "find all entries".toList
  | first :: more =>
    "find entries whose ".toList ++
      (first.written ++ turns (fun _ => " and ".toList) Clause.written more)

/-- Conditions are written with a joint in front of each but the first. -/
theorem writtenClauses_cons {kind : String} (first : Clause kind) (more : List (Clause kind)) :
    writtenClauses (first :: more) = "find entries whose ".toList ++
      (first.written ++ turns (fun _ => " and ".toList) Clause.written more) := rfl

/-- The keys to show as they are written. -/
def writtenDisplay {kind : String} (shown : Key kind) (more : List (Joint × Key kind)) : Text :=
  "; show ".toList ++
    (shown.1.toList ++ turns (fun also => also.1.1.toList) (fun also => also.2.1.toList) more)

/-- The keys to show are announced. -/
theorem writtenDisplay_eq {kind : String} (shown : Key kind) (more : List (Joint × Key kind)) :
    writtenDisplay shown more = "; show ".toList ++ (shown.1.toList ++
      turns (fun also => also.1.1.toList) (fun also => also.2.1.toList) more) := rfl

/-- The key to sort by as it is written. -/
def writtenOrder {kind : String} : Option (Key kind) → Text
  | none => []
  | some key => "; sort in ascending order by ".toList ++ key.1.toList

/-- Without a key to sort by nothing is written. -/
theorem writtenOrder_none {kind : String} : writtenOrder (none : Option (Key kind)) = [] := rfl

/-- A key to sort by is announced. -/
theorem writtenOrder_some {kind : String} (key : Key kind) :
    writtenOrder (some key) = "; sort in ascending order by ".toList ++ key.1.toList := rfl

namespace Sentence

/-- The whole query as it is written. -/
def written (sentence : Sentence) : Text :=
  "In ".toList ++ sentence.kind.toList ++ " dataset ".toList ++ sentence.name.toList ++
    ", ".toList ++ (writtenClauses sentence.clauses ++
      writtenDisplay sentence.shown sentence.alsoShown ++ writtenOrder sentence.sortedBy ++
        ".".toList)

/-- A query begins with its data set and ends with a full stop. -/
theorem written_eq (sentence : Sentence) : sentence.written =
    "In ".toList ++ sentence.kind.toList ++ " dataset ".toList ++ sentence.name.toList ++
      ", ".toList ++ (writtenClauses sentence.clauses ++
        writtenDisplay sentence.shown sentence.alsoShown ++ writtenOrder sentence.sortedBy ++
          ".".toList) := rfl

/-- What the query says. -/
def meaning (sentence : Sentence) : ParsedQuery where
  dataSet := { kind := sentence.kind, name := sentence.name }
  filters := sentence.clauses.map Clause.meaning
  display := sentence.shown.1 :: sentence.alsoShown.map fun also => also.2.1
  order := (sentence.sortedBy.map Subtype.val).getD ""

end Sentence

end ParserCombinators.Query
