import ParserCombinators.CommandLine.Request
import ParserCombinators.Text.Basic

/-!
# Reading the command line

Arguments are read from left to right. In front of the command there are only flags; behind its
name come its two operands, with options and flags anywhere among them. An operand is checked
when the next thing is read, so an error behind a bad operand is found after the bad operand.

Operands that hold free text may begin with a hyphen unless they spell a known flag or option.
Two hyphens end the options: what follows is an operand as it stands.
-/

namespace ParserCombinators.CommandLine

/-- Why arguments make no request. -/
inductive Refusal where
  /-- There are no arguments at all. -/
  | nothingGiven
  /-- There are flags but no command. -/
  | missingCommand
  /-- There is no command of this name. -/
  | unknownCommand
  /-- The command lacks an operand. -/
  | missingOperand
  /-- There is no such flag or option, or there are too many operands. -/
  | unknownArgument
  /-- A value is none of those allowed, or is missing. -/
  | invalidValue
  /-- A flag or an option is given twice. -/
  | givenTwice
  /-- A flag is given a value. -/
  | unexpectedValue
  /-- The user asks for help. -/
  | helpWanted
  /-- The user asks for the version. -/
  | versionWanted
deriving DecidableEq, Repr

/-- The commands by their form: which operand is the name of a kind, and whether a separator can
be set. -/
inductive Form where
  | literal
  | pattern
  | list
deriving DecidableEq, Repr

namespace Form

/-- The form of a command name. -/
def ofName? : String → Option Form
  | "literal" => some literal
  | "pattern" => some pattern
  | "list" => some list
  | _ => none

/-- Whether the operand at a place holds free text. There are two operands. -/
def takesText (form : Form) (place : Nat) : Bool :=
  place = 1 || place = 0 && form = literal

/-- Whether a separator can be set. -/
def hasSeparator (form : Form) : Bool :=
  form = list

/-- Whether the form knows the single-letter flag or option. -/
def knowsShort (form : Form) (c : Char) : Bool :=
  c = 'h' || form.hasSeparator && c = 's'

end Form

/-- What was read last and is not settled yet. -/
inductive Pending where
  | nothing
  /-- The last operand is not checked yet. -/
  | operand
  /-- The separator waits for its value, or has one that is not stored yet. -/
  | separator (value? : Option String)
deriving DecidableEq, Repr

/-- The arguments of a command read so far. -/
structure Reading where
  form : Form
  json : Bool := false
  operands : List String := []
  separator? : Option String := none
  pending : Pending := .nothing
  /-- Whether the options have ended. -/
  operandsOnly : Bool := false
deriving DecidableEq, Repr

namespace Reading

/-- Store the separator, which can be set once. -/
def setSeparator (reading : Reading) (value : String) : Except Refusal Reading :=
  if reading.separator?.isSome then .error .givenTwice
  else .ok { reading with separator? := some value, pending := .nothing }

/-- Settle what was read last. -/
def settle (reading : Reading) : Except Refusal Reading :=
  match reading.pending with
  | .nothing => .ok reading
  | .operand =>
    match reading.operands with
    | [name] =>
      if reading.form.takesText 0 || (ItemKind.ofName? name).isSome then
        .ok { reading with pending := .nothing }
      else .error .invalidValue
    | _ => .ok { reading with pending := .nothing }
  | .separator none => .error .invalidValue
  | .separator (some value) => reading.setSeparator value

/-- Take an operand. -/
def takeOperand (reading : Reading) (value : String) : Except Refusal Reading :=
  if reading.operands.length < 2 then do
    let reading ← reading.settle
    return { reading with operands := reading.operands ++ [value], pending := .operand }
  else .error .unknownArgument

/-- Take a value: of the separator if it waits for one, else an operand. -/
def takeValue (reading : Reading) (value : String) : Except Refusal Reading :=
  match reading.pending with
  | .separator none => .ok { reading with pending := .separator (some value) }
  | _ => reading.takeOperand value

/-- Switch the report to JSON, which can be done once. -/
def takeJson (reading : Reading) : Except Refusal Reading := do
  let reading ← reading.settle
  if reading.json then .error .givenTwice else return { reading with json := true }

/-- Stop for help. -/
def takeHelp (reading : Reading) : Except Refusal Reading := do
  let _ ← reading.settle
  .error .helpWanted

/-- Take the option for the separator, with its value if one is attached. -/
def takeSeparator (reading : Reading) (attached? : Option String) : Except Refusal Reading := do
  let reading ← reading.settle
  match attached? with
  | some value => reading.setSeparator value
  | none => return { reading with pending := .separator none }

/-- Whether a word that begins with a hyphen may stand here as an operand. -/
def allowsHyphen (reading : Reading) : Bool :=
  reading.form.takesText reading.operands.length

/-- Take an argument that begins with two hyphens, given the name and the attached value. -/
def takeLong (reading : Reading) (argument name : String) (attached? : Option String) :
    Except Refusal Reading :=
  if name = "json" then
    if attached?.isSome then .error .unexpectedValue else reading.takeJson
  else if name = "help" then
    if attached?.isSome then .error .unexpectedValue else reading.takeHelp
  else if name = "separator" ∧ reading.form.hasSeparator then reading.takeSeparator attached?
  else if reading.allowsHyphen then reading.takeValue argument
  else .error .unknownArgument

/-- Take the first of the letters behind a single hyphen. Each of them ends the reading of the
others. -/
def takeShort (reading : Reading) : Text → Except Refusal Reading
  | 'h' :: _ => reading.takeHelp
  | 's' :: rest =>
    if reading.form.hasSeparator then
      match rest with
      | [] => reading.takeSeparator none
      | '=' :: value => reading.takeSeparator (some (String.ofList value))
      | value => reading.takeSeparator (some (String.ofList value))
    else .error .unknownArgument
  | _ => .error .unknownArgument

/-- The name in front of the first equals sign, and the text after it if there is one. -/
def splitAttached (text : Text) : String × Option String :=
  match text.dropWhile (· != '=') with
  | [] => (String.ofList text, none)
  | _ :: value => (String.ofList (text.takeWhile (· != '=')), some (String.ofList value))

/-- Take the next argument. -/
def take (reading : Reading) (argument : String) : Except Refusal Reading :=
  if reading.operandsOnly then reading.takeOperand argument
  else
    match argument.toList with
    | ['-', '-'] => .ok { reading with operandsOnly := true }
    | '-' :: '-' :: long =>
      let (name, attached?) := splitAttached long
      reading.takeLong argument name attached?
    | ['-'] => reading.takeValue argument
    | '-' :: letters =>
      if reading.allowsHyphen ∧ ¬ letters.all reading.form.knowsShort then
        reading.takeValue argument
      else reading.takeShort letters
    | _ => reading.takeValue argument

/-- Take all arguments. -/
def takeAll (reading : Reading) : List String → Except Refusal Reading
  | [] => reading.settle
  | argument :: rest => do
    let reading ← reading.take argument
    reading.takeAll rest

/-- The command that the arguments make. The separator is a comma unless it was set. -/
def command (reading : Reading) : Except Refusal Command :=
  match reading.operands with
  | [first, input] =>
    match reading.form with
    | .literal => .ok (.literal first input)
    | .pattern =>
      match ItemKind.ofName? first with
      | some kind => .ok (.pattern kind input)
      | none => .error .invalidValue
    | .list =>
      match ItemKind.ofName? first with
      | some kind => .ok (.list kind input (reading.separator?.getD ","))
      | none => .error .invalidValue
  | _ => .error .missingOperand

end Reading

/-- The names of commands that one can ask help for. -/
def helpTopics : List String :=
  ["literal", "pattern", "list", "help"]

/-- Stop for help, perhaps on one of the commands. -/
def readHelp : List String → Refusal
  | [] => .helpWanted
  | [name] => if name ∈ helpTopics then .helpWanted else .unknownCommand
  | _ => .unknownCommand

/-- Read the arguments of a command. -/
def readCommand (form : Form) (json : Bool) (arguments : List String) : Except Refusal Request := do
  let reading ← ({ form } : Reading).takeAll arguments
  let command ← reading.command
  return { json := json || reading.json, command }

/-- Refuse a word that follows two hyphens, where no command can stand any more. -/
def readAfterHyphens (json : Bool) : List String → Refusal
  | [] => if json then .missingCommand else .nothingGiven
  | name :: _ => if name ∈ helpTopics then .unknownArgument else .unknownCommand

/-- Read arguments up to the command and then those of the command. -/
def readFrom (json : Bool) : List String → Except Refusal Request
  | [] => .error (if json then .missingCommand else .nothingGiven)
  | argument :: rest =>
    match Form.ofName? argument with
    | some form => readCommand form json rest
    | none =>
      if argument = "help" then .error (readHelp rest)
      else
        match argument.toList with
        | ['-', '-'] => .error (readAfterHyphens json rest)
        | '-' :: '-' :: long =>
          let (name, attached?) := Reading.splitAttached long
          if name = "json" ∨ name = "help" ∨ name = "version" then
            if attached?.isSome then .error .unexpectedValue
            else if name = "help" then .error .helpWanted
            else if name = "version" then .error .versionWanted
            else if json then .error .givenTwice
            else readFrom true rest
          else .error .unknownArgument
        | '-' :: 'h' :: _ => .error .helpWanted
        | '-' :: 'V' :: _ => .error .versionWanted
        | '-' :: _ :: _ => .error .unknownArgument
        | _ => .error .unknownCommand

/-- The request that the arguments make. -/
def readArguments (arguments : List String) : Except Refusal Request :=
  readFrom false arguments

end ParserCombinators.CommandLine
