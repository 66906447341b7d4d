import ParserCombinators.Text.Basic

/-!
# Numbers with a fraction or an exponent

A floating point number has a sign, digits and a power of ten. The digits do not end in a zero, so a
number other than zero has one form; zero has a sign as well. A numeral is a number in the parts in
which it is written.
-/

namespace ParserCombinators

/-- A floating point number in base ten. -/
structure DecimalFloat where
  negative : Bool
  digits : Nat
  /-- The power of ten that the digits are multiplied with. -/
  exponent : Int
  normal : digits % 10 ≠ 0 ∨ digits = 0 ∧ exponent = 0
deriving DecidableEq, Repr

/-- The number with these digits and this power of ten. -/
def DecimalFloat.ofParts (negative : Bool) (digits : Nat) (exponent : Int) : DecimalFloat :=
  if hzero : digits = 0 then ⟨negative, 0, 0, .inr ⟨rfl, rfl⟩⟩
  else if hlast : digits % 10 = 0 then ofParts negative (digits / 10) (exponent + 1)
  else ⟨negative, digits, exponent, .inl hlast⟩
termination_by digits

/-- A number as it is written. -/
structure Numeral where
  negative : Bool
  /-- The digits in front of the point. -/
  whole : Text
  /-- The digits behind the point. Without any there is no point. -/
  fraction : Text
  /-- The power of ten that is written. -/
  exponent : Option Int
deriving DecidableEq, Repr

end ParserCombinators
