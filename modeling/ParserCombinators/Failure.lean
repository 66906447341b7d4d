/-!
# Failures

A failure is data: what went wrong, the byte index where it was noticed, and a message. The
kind alone decides the category, and every kind has a name of its own. The message is free
text that later stages may replace; nothing else depends on it.
-/

namespace ParserCombinators

/-- What went wrong. -/
inductive Failure.Kind where
  /-- The input ended where more was needed. -/
  | endOfInput
  /-- Another text stands where the expected one should. -/
  | literalMismatch (expected : String)
  /-- The named pattern does not match here. -/
  | patternMismatch (pattern : String)
  /-- A repetition that needs one value found none. -/
  | noMatches (combinator : String)
  /-- There was no alternative to try. -/
  | noAlternative
  /-- The parser refuses the input for a reason of its own. -/
  | custom
deriving DecidableEq, Repr

/-- Kinds of failure grouped by the part of a parser that reports them. -/
inductive Failure.Category where
  | endOfInput
  | mismatch
  | combinator
  | custom
deriving DecidableEq, Repr

/-- Why and where a parser failed. -/
structure Failure where
  kind : Failure.Kind
  /-- The byte index where the failure was noticed. -/
  index : Nat
  message : String
deriving DecidableEq, Repr

namespace Failure

/-- The category of a kind. -/
def Kind.category : Kind → Category
  | .endOfInput => .endOfInput
  | .literalMismatch _ => .mismatch
  | .patternMismatch _ => .mismatch
  | .noMatches _ => .combinator
  | .noAlternative => .combinator
  | .custom => .custom

/-- The name of a kind in reports. -/
def Kind.name : Kind → String
  | .endOfInput => "end_of_input"
  | .literalMismatch _ => "literal_mismatch"
  | .patternMismatch _ => "pattern_mismatch"
  | .noMatches _ => "no_matches"
  | .noAlternative => "no_alternative"
  | .custom => "custom"

/-- The name of a category in reports. -/
def Category.name : Category → String
  | .endOfInput => "end_of_input"
  | .mismatch => "mismatch"
  | .combinator => "combinator"
  | .custom => "custom"

/-- The category of a failure. -/
def category (failure : Failure) : Category :=
  failure.kind.category

/-- The same failure with another message. -/
def withMessage (failure : Failure) (message : String) : Failure :=
  { failure with message }

/-- The input ended too early. -/
def endOfInput (index : Nat) : Failure :=
  ⟨.endOfInput, index, "Unexpected end of input"⟩

/-- The text found is not the one expected. -/
def literalMismatch (index : Nat) (expected found : String) : Failure :=
  ⟨.literalMismatch expected, index, "Tried to match " ++ expected ++ " but got " ++ found⟩

/-- The pattern of the given name does not match. -/
def patternMismatch (index : Nat) (pattern : String) : Failure :=
  ⟨.patternMismatch pattern, index,
    "Could not match " ++ pattern ++ " at index: " ++ toString index⟩

/-- The named repetition found no value. -/
def noMatches (index : Nat) (combinator : String) : Failure :=
  ⟨.noMatches combinator, index, combinator ++ ": unable to match any parser"⟩

/-- There is no alternative to try. -/
def noAlternative (index : Nat) : Failure :=
  ⟨.noAlternative, index, "Unable to match with any parser"⟩

/-- A failure with a message of the caller's choice. -/
def custom (index : Nat) (message : String) : Failure :=
  ⟨.custom, index, message⟩

end Failure

end ParserCombinators
