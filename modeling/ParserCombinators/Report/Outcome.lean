import ParserCombinators.Json.Printer
import ParserCombinators.State
import ParserCombinators.Text.Quoted

/-!
# Outcomes

An outcome is a final state made ready for printing: it holds the rest of the text besides the
position. A success has a form in lines of text, and every outcome has a form in JSON.
-/

namespace ParserCombinators

/-- The fields that only some kinds of failure have. -/
def Failure.Kind.fields : Failure.Kind → List (String × Value)
  | .literalMismatch expected => [("expected", .str expected)]
  | .patternMismatch pattern => [("pattern", .str pattern)]
  | .noMatches combinator => [("combinator", .str combinator)]
  | .endOfInput => []
  | .noAlternative => []
  | .custom => []

/-- A failure as JSON. -/
def Failure.toJson (failure : Failure) : Value :=
  .obj (("kind", .str failure.kind.name) :: failure.kind.fields ++
    [("index", .int failure.index), ("message", .str failure.message)])

/-- A final state with the rest of its text. -/
structure Outcome extends State Value where
  remainder : Text
deriving DecidableEq

namespace Outcome

/-- The outcome of a state that lies between characters of its text. -/
def ofState? (state : State Value) : Option Outcome :=
  state.remainder?.map fun remainder => { state with remainder }

/-- The failure, if there is one. -/
def failure? (outcome : Outcome) : Option Failure :=
  match outcome.result with
  | .ok _ => none
  | .error failure => some failure

/-- Whether the outcome has a value. -/
def isSuccess (outcome : Outcome) : Bool :=
  outcome.failure?.isNone

/-- The value, or null for a failure. -/
def value (outcome : Outcome) : Value :=
  match outcome.result with
  | .ok value => value
  | .error _ => .null

/-- The line that says what was matched and how much of the text that took. -/
def matchedLine (outcome : Outcome) : Text :=
  "matched ".toList ++ outcome.value.compact ++ " (consumed ".toList ++
    Value.decimal outcome.index ++ " of ".toList ++ Value.decimal (byteLength outcome.input) ++
    " bytes)".toList

/-- The lines of text for an outcome. The rest of the text has a line if there is any. -/
def describe (outcome : Outcome) : List Text :=
  if outcome.remainder.isEmpty then [outcome.matchedLine]
  else [outcome.matchedLine, "remaining: ".toList ++ Quoted.quote outcome.remainder]

/-- The outcome as JSON. -/
def toValue (outcome : Outcome) : Value :=
  .obj [("input", .str (String.ofList outcome.input)), ("index", .int outcome.index),
    ("remainder", .str (String.ofList outcome.remainder)),
    match outcome.result with
    | .ok value => ("result", value)
    | .error failure => ("error", failure.toJson)]

/-- The pretty JSON text of the outcome. -/
def toJson (outcome : Outcome) : Text :=
  outcome.toValue.pretty 0

end Outcome

end ParserCombinators
