import ParserCombinators.CommandLine.Arguments
import ParserCombinators.CommandLine.Execute
import ParserCombinators.Report.Sink

/-!
# Responses

What the program answers to its arguments: a text on the standard output, a text on the error
output, and an exit code. The code is 0 for a success, 1 for a failed parse and 2 for arguments
that make no request.
-/

namespace ParserCombinators.CommandLine

/-- The answer of the program. -/
@[ext]
structure Response where
  output : Text
  errors : Text
  exitCode : UInt32
deriving DecidableEq

/-- How the program is called. -/
def usage : String :=
  "Usage: strand [--json] <literal EXPECTED INPUT | pattern KIND INPUT | " ++
    "list [-s SEPARATOR] KIND INPUT>\n"

/-- What is wrong with arguments that make no request. -/
def Refusal.message : Refusal → String
  | .nothingGiven => "no arguments"
  | .missingCommand => "a command is required"
  | .unknownCommand => "unknown command"
  | .missingOperand => "a required argument is missing"
  | .unknownArgument => "unexpected argument"
  | .invalidValue => "invalid or missing value"
  | .givenTwice => "an argument cannot be used more than once"
  | .unexpectedValue => "unexpected value for a flag"
  | .helpWanted => "help"
  | .versionWanted => "version"

/-- The answer to arguments that make no request. -/
def Refusal.response : Refusal → Response
  | .helpWanted => ⟨usage.toList, [], 0⟩
  | .versionWanted => ⟨"strand 0.1.0\n".toList, [], 0⟩
  | refusal => ⟨[], ("error: " ++ refusal.message ++ "\n" ++ usage).toList, 2⟩

/-- A diagnosis as the error output shows it. -/
def diagnosisText (diagnosis : Diagnosis) : Text :=
  (diagnosis.code ++ "\n" ++ diagnosis.headline ++ "\n" ++ toString diagnosis.span.offset ++ ": " ++
    diagnosis.label ++ "\n" ++
    (diagnosis.help.map fun help => "help: " ++ help ++ "\n").getD "").toList

/-- The answer with a report. In JSON a failure is on the standard output already. -/
def Report.response (colour json : Bool) (report : Report) : Response where
  output := terminalAll colour report.texts
  errors := if json then [] else (report.diagnosis?.map diagnosisText).getD []
  exitCode := if report.diagnosis?.isSome then 1 else 0

/-- The answer to the arguments. -/
def respond (colour : Bool) (arguments : List String) : Response :=
  match readArguments arguments with
  | .error refusal => refusal.response
  | .ok request =>
    match request.execute with
    | .done report => Report.response colour request.json report
    | .offBoundary => ⟨[], "error: no character boundary\n".toList, 101⟩
    | .exhausted => ⟨[], "error: out of fuel\n".toList, 101⟩

end ParserCombinators.CommandLine
