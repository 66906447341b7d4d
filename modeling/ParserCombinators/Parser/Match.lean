import ParserCombinators.Parser.Choice
import ParserCombinators.Regex.Named
import ParserCombinators.Regex.Standard

/-!
# Parsers that look at the text

A literal or a pattern is compared with the rest of the text. All of them fail at the end of
the text, even those that match the empty text. The values are the texts that were read.
-/

namespace ParserCombinators.Parser

/-- The parser that looks at the rest of the text, which must not be empty. -/
def onRemainder {α : Type} (step : Position → Text → State α) : Parser α :=
  direct fun pos => (Run.ofOption pos.remainder?).map fun text =>
    if text.isEmpty then pos.fail (Failure.endOfInput pos.index) else step pos text

/-- Exactly the given text. -/
def literal (expected : String) : Parser String :=
  onRemainder fun pos text =>
    if expected.toList.isPrefixOf text then pos.advance expected.utf8ByteSize expected
    else pos.fail (Failure.literalMismatch pos.index expected (String.ofList text))

/-- What a search finds in the rest of the text. Its length is counted from the position on,
wherever it stands in the text. -/
def matching (name : String) (search : Search) : Parser String :=
  onRemainder fun pos text =>
    match search.find text with
    | some matched => pos.advance (byteLength matched) (String.ofList matched)
    | none => pos.fail (Failure.patternMismatch pos.index name)

/-- A pattern given by a written regular expression, if the engine takes it. -/
def pattern? (engine : Regex.Engine) (name text : String) : Option (Parser String) :=
  (engine.search? text.toList).map (matching name)

/-- A pattern searches for the expression that its text writes. -/
theorem pattern?_of_readPattern? {engine : Regex.Engine} {text : String} {e : Regex.Written}
    (h : engine.readPattern? text.toList = some e) (name : String) :
    pattern? engine name text = some (matching name e.expand.search) := by
  rw [pattern?, Regex.Engine.search?, h]
  rfl

/-- A search for a written regular expression as it stands, if it is a valid one. -/
def written? (engine : Regex.Engine) (name text : String) : Option (Parser String) :=
  (engine.read? text.toList).map fun e => matching name e.expand.search

/-- Letters of the ASCII alphabet. -/
def letters : Parser String :=
  matching "letters" (Regex.runOf .latinLetter).search

/-- ASCII digits. -/
def digits : Parser String :=
  matching "digits" (Regex.runOf .latinDigit).search

/-- Letters of the ASCII alphabet and ASCII digits. -/
def lettersOrDigits : Parser String :=
  matching "letters or digits" (Regex.runOf .latinLetterOrDigit).search

/-- A decimal number. -/
def floatingPoint : Parser String :=
  matching "floating point number" Regex.decimalNumber.search

/-- White space. -/
def whitespace : Parser String :=
  matching "whitespace" (Regex.runOf .blank).search

/-- White space, or the empty text if there is none. -/
def optionalWhitespace : Parser String :=
  whitespace.optional.map fun text => text.getD ""

end ParserCombinators.Parser
