import ParserCombinators.Text.Basic

/-!
# Numbers in a text

The texts that are decimal numbers, and the wider set of texts that can be read as floating point
numbers: these may have a plus sign, end in a point, have an exponent, or name what is not a finite
number.
-/

namespace ParserCombinators

/-- The text is perhaps digits, perhaps a point, and then digits. -/
def IsUnsignedDecimal (text : Text) : Prop :=
  ∃ whole point fraction : Text, text = whole ++ (point ++ fraction) ∧
    (∀ c ∈ whole, c.isDigit) ∧ (point = [] ∨ point = ['.']) ∧
      fraction ≠ [] ∧ ∀ c ∈ fraction, c.isDigit

/-- The text is a decimal number, perhaps with a minus sign. -/
def IsDecimal (text : Text) : Prop :=
  ∃ sign unsigned : Text, text = sign ++ unsigned ∧ (sign = [] ∨ sign = ['-']) ∧
    IsUnsignedDecimal unsigned

/-- The text behind its sign, if it has one. -/
def withoutSign : Text → Text
  | [] => []
  | c :: rest => if c = '+' ∨ c = '-' then rest else c :: rest

/-- Whether the text is empty or an exponent. -/
def isExponent : Text → Bool
  | [] => true
  | c :: rest =>
    c.toLower = 'e' && !(withoutSign rest).isEmpty && (withoutSign rest).all Char.isDigit

/-- Whether the text is digits with at most one point among them, and perhaps an exponent. -/
def isFinite (text : Text) : Bool :=
  let whole := text.takeWhile Char.isDigit
  match text.dropWhile Char.isDigit with
  | '.' :: rest =>
    let fraction := rest.takeWhile Char.isDigit
    !(whole ++ fraction).isEmpty && isExponent (rest.dropWhile Char.isDigit)
  | rest => !whole.isEmpty && isExponent rest

/-- Whether the text can be read as a floating point number. -/
def isFloat (text : Text) : Bool :=
  isFinite (withoutSign text) ||
    ["inf".toList, "infinity".toList, "nan".toList].contains ((withoutSign text).map Char.toLower)

end ParserCombinators
