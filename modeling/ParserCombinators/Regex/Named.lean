import ParserCombinators.Regex.Basic

/-!
# Regular expressions with a name

The expressions behind the named matchers: runs of characters of one class, and decimal
numbers. All of them match at the beginning of the text only and take as much as they can.
-/

namespace ParserCombinators

/-- The letters A to Z and a to z. -/
def CharSet.latinLetter : CharSet :=
  .union (.range 'A' 'Z') (.range 'a' 'z')

/-- The digits 0 to 9. -/
def CharSet.latinDigit : CharSet :=
  .range '0' '9'

/-- The digits 0 to 9 and the letters A to Z and a to z. -/
def CharSet.latinLetterOrDigit : CharSet :=
  .union (.union (.range '0' '9') (.range 'A' 'Z')) (.range 'a' 'z')

namespace Regex

/-- A nonempty run of characters of a set at the beginning of the text. -/
def runOf (members : CharSet) : Regex Unit :=
  .seq (.look .start) (.plus () (.set members) true)

/-- A decimal number at the beginning of the text: perhaps a minus sign, perhaps digits, perhaps
a point, and then digits. -/
def decimalNumber : Regex Unit :=
  .concat [.look .start, .opt (.set (.single '-')) true, .loop () (.set .latinDigit) true,
    .opt (.set (.single '.')) true, .plus () (.set .latinDigit) true]

end Regex

end ParserCombinators
