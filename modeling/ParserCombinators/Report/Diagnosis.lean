import ParserCombinators.Failure
import ParserCombinators.Text.Basic

/-!
# Diagnoses

A diagnosis ties a failure to the text it was found in. It points at the one character that
stands at the index of the failure, and at nothing when the index is at or past the end of
the text. No diagnosis exists for an index inside a character.
-/

namespace ParserCombinators

/-- A text with the name of where it comes from. -/
structure Source where
  name : String
  content : Text
deriving DecidableEq, Repr

/-- A part of a text, in bytes. -/
structure Span where
  offset : Nat
  length : Nat
deriving DecidableEq, Repr

/-- A failure together with the place in a text that it points at. -/
structure Diagnosis where
  failure : Failure
  source : Source
  span : Span
  help : Option String
deriving DecidableEq, Repr

/-- What stands at the place of a failure of this kind. -/
def Failure.Kind.label : Failure.Kind → String
  | .endOfInput => "input ends here"
  | .literalMismatch expected => "expected \x60" ++ expected ++ "\x60"
  | .patternMismatch pattern => "expected " ++ pattern
  | .noMatches combinator => combinator ++ " matched nothing here"
  | .noAlternative => "no alternative matched here"
  | .custom => "failed here"

/-- The advice that goes with a kind of failure. -/
def Failure.Kind.help : Failure.Kind → Option String
  | .endOfInput => some "the input ended before the parser finished"
  | .noAlternative => some "none of the alternatives accept this input"
  | .literalMismatch _ => none
  | .patternMismatch _ => none
  | .noMatches _ => none
  | .custom => none

/-- The number of bytes of the character at an index, zero from the end of the text on. There is
no answer for an index inside a character. -/
def charLengthAt? (content : Text) (index : Nat) : Option Nat :=
  (dropBytes? (min index (byteLength content)) content).map fun
    | [] => 0
    | c :: _ => c.utf8Size

/-- The diagnosis of a failure over a text. -/
def Failure.diagnose? (failure : Failure) (source : Source) : Option Diagnosis :=
  (charLengthAt? source.content failure.index).map fun length =>
    { failure, source, span := ⟨failure.index, length⟩, help := failure.kind.help }

namespace Diagnosis

/-- The diagnosis with other advice. -/
def withHelp (diagnosis : Diagnosis) (help : String) : Diagnosis :=
  { diagnosis with help := some help }

/-- The label of the place that the diagnosis points at. -/
def label (diagnosis : Diagnosis) : String :=
  diagnosis.failure.kind.label

/-- The code that names the category and the kind of the failure. -/
def code (diagnosis : Diagnosis) : String :=
  "strand::" ++ diagnosis.failure.category.name ++ "::" ++ diagnosis.failure.kind.name

/-- The headline of the diagnosis. -/
def headline (diagnosis : Diagnosis) : String :=
  "Parse error: " ++ diagnosis.failure.message

end Diagnosis

end ParserCombinators
