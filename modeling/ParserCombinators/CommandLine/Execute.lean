import ParserCombinators.CommandLine.Request
import ParserCombinators.Report.Diagnosis
import ParserCombinators.Report.Outcome

/-!
# Executing requests

A request runs its parser once over its input and reports the final state. In JSON the state is
put out whatever it is; in text only a success is. A failure is reported as a diagnosis over
the input besides.
-/

namespace ParserCombinators

/-- The parser of a command. -/
def Command.parser : Command → Parser Value
  | literal expected _ => (Parser.literal expected).map .str
  | pattern kind _ => kind.parser.map .str
  | list kind _ separator =>
    (Parser.sepBy1 (Parser.literal separator) kind.parser).map fun items => .arr (items.map .str)

/-- The final state of a command. The fuel is enough for one round at each index of the input. -/
def Command.run (command : Command) : Run (State Value) :=
  command.parser.run (command.input.utf8ByteSize + 2) command.input.toList

/-- What executing a request gives: the texts put out, and the diagnosis of a failure. -/
structure Report where
  texts : List Text
  diagnosis? : Option Diagnosis
deriving DecidableEq

/-- The texts that a request puts out for an outcome. -/
def Request.texts (request : Request) (outcome : Outcome) : List Text :=
  if request.json then [outcome.toJson]
  else if outcome.isSuccess then outcome.describe
  else []

/-- Execute a request. -/
def Request.execute (request : Request) : Run Report :=
  request.command.run.bind fun state =>
    (Run.ofOption (Outcome.ofState? state)).bind fun outcome =>
      match outcome.failure? with
      | none => .done ⟨request.texts outcome, none⟩
      | some failure =>
        (Run.ofOption (failure.diagnose? ⟨"input", request.command.input.toList⟩)).map
          fun diagnosis => ⟨request.texts outcome, some diagnosis⟩

end ParserCombinators
