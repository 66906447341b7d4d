import ParserCombinators.CommandLine.Response

/-!
# The program

Prints the response to the arguments. Colours are used unless the terminal is unknown or dumb,
or the environment asks for none.
-/

namespace ParserCombinators.CommandLine

/-- Whether the environment allows colours. -/
def allowsColour : IO Bool := do
  let terminal ← IO.getEnv "TERM"
  let refused ← IO.getEnv "NO_COLOR"
  return refused.isNone && terminal.any (· != "dumb")

end ParserCombinators.CommandLine

/-- Answer the arguments. -/
def main (arguments : List String) : IO UInt32 := do
  let colour ← ParserCombinators.CommandLine.allowsColour
  let response := ParserCombinators.CommandLine.respond colour arguments
  IO.print (String.ofList response.output)
  IO.eprint (String.ofList response.errors)
  return response.exitCode
