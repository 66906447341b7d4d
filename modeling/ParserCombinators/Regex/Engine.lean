import ParserCombinators.Regex.Match
import ParserCombinators.Regex.Reader

/-!
# Engines

An engine reads the text of an expression and searches for the expression. How expressions are
written and what they match is the same for all engines. An engine brings two things along: which
characters have a property that an expression asks for, and how large an expression may be.
-/

namespace ParserCombinators.Regex

/-- What an engine brings along. -/
structure Engine where
  /-- The characters with a property, from the text that asks for it. -/
  property? : Text → Option CharSet
  /-- The expression is not too large. -/
  fits : Written → Bool

namespace Engine

/-- The reader at the beginning of a text. -/
def reader (engine : Engine) : Reader where
  property? := engine.property?

/-- The expression that a text writes, if it is a valid one. Its size is not looked at. -/
def read? (engine : Engine) (text : Text) : Option Written :=
  engine.reader.readAll text.length.succ text

/-- The expression of a pattern text, which is put into a group that must match at the beginning. It
must not be too large. -/
def readPattern? (engine : Engine) (text : Text) : Option Written :=
  (engine.read? ("^(?:".toList ++ text ++ [')'])).filter engine.fits

/-- The search for a pattern text. -/
def search? (engine : Engine) (text : Text) : Option Search :=
  (engine.readPattern? text).map fun e => e.expand.search

end Engine

end ParserCombinators.Regex
