import ParserCombinators.Grammar.Basic
import ParserCombinators.Text.Basic

/-!
# Counted lists

Words with their number in front. How many words are read is known only after the number has been, so
the parser of the words is chosen by it.
-/

namespace ParserCombinators

/-- A word and the comma behind it. -/
def Grammar.word : Grammar :=
  .skip (.matcher .letters) (.literal ",")

/-- A number, a colon, and as many words as the number says. -/
def Grammar.counted : Grammar :=
  .chain (.skip (.matcher .digits) (.literal ":")) (Continuation.times .word)

/-- Words with a comma behind each. -/
def writtenWords (words : List String) : Text :=
  words.flatMap fun word => word.toList ++ ",".toList

/-- A number as it is spelled, a colon, and words. -/
def writtenCounted (spelling : String) (words : List String) : Text :=
  spelling.toList ++ ":".toList ++ writtenWords words

end ParserCombinators
