import ParserCombinators.Json.Reader
import ParserCombinators.Report.Outcome

/-!
# Reading outcomes

The outcome that a JSON object stands for. Fields are found by their names, whatever their order.
An object has a result or an error; one that has both or none stands for no outcome.
-/

namespace ParserCombinators

namespace Value

/-- The first field of a name. -/
def field? (name : String) : Value → Option Value
  | obj fields => fields.lookup name
  | _ => none

/-- The string in the first field of a name. -/
def stringField? (name : String) (v : Value) : Option String :=
  match v.field? name with
  | some (str s) => some s
  | _ => none

/-- The natural number in the first field of a name. -/
def natField? (name : String) (v : Value) : Option Nat :=
  match v.field? name with
  | some (int n) => n.toNat?
  | _ => none

end Value

/-- The kind of failure that an object names, with the field that belongs to it. -/
def Failure.Kind.ofJson? (v : Value) : Option Failure.Kind :=
  match v.stringField? "kind" with
  | some "end_of_input" => some .endOfInput
  | some "literal_mismatch" => (v.stringField? "expected").map .literalMismatch
  | some "pattern_mismatch" => (v.stringField? "pattern").map .patternMismatch
  | some "no_matches" => (v.stringField? "combinator").map .noMatches
  | some "no_alternative" => some .noAlternative
  | some "custom" => some .custom
  | _ => none

/-- The failure that an object stands for. -/
def Failure.ofJson? (v : Value) : Option Failure := do
  let kind ← Failure.Kind.ofJson? v
  let index ← v.natField? "index"
  let message ← v.stringField? "message"
  return { kind, index, message }

/-- The outcome that an object stands for. -/
def Outcome.ofJson? (v : Value) : Option Outcome := do
  let input ← v.stringField? "input"
  let index ← v.natField? "index"
  let remainder ← v.stringField? "remainder"
  let result ← match v.field? "result", v.field? "error" with
    | some value, none => some (.ok value)
    | none, some failure => (Failure.ofJson? failure).map .error
    | _, _ => none
  return { input := input.toList, index, result, remainder := remainder.toList }

end ParserCombinators
