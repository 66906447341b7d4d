import ParserCombinators.Regex.Basic

/-!
# Written regular expressions

A written regular expression is what a text says once flags, groups and escapes are resolved. A
counted repetition stays one piece, however many rounds it asks for; writing its rounds out gives
the expression that is matched.
-/

namespace ParserCombinators.Regex

/-- A regular expression as it was written. -/
inductive Written where
  /-- The empty text. -/
  | empty
  /-- One character of a set. -/
  | set (members : CharSet)
  /-- The empty text, where a condition holds. -/
  | look (condition : Look)
  /-- One expression and then another. -/
  | seq (first second : Written)
  /-- One of two expressions, the first one preferred. -/
  | alt (first second : Written)
  /-- From a least to a greatest number of rounds, or to any number. A greedy repetition prefers
  more rounds. -/
  | counted (body : Written) (least : Nat) (most : Option Nat) (greedy : Bool)
deriving DecidableEq, Repr

namespace Written

/-- All expressions one after another. -/
def concat : List Written → Written
  | [] => empty
  | [e] => e
  | e :: f :: rest => seq e (concat (f :: rest))

/-- One of the expressions, earlier ones preferred. -/
def oneOf : List Written → Written
  | [] => empty
  | [e] => e
  | e :: f :: rest => alt e (oneOf (f :: rest))

/-- The expression with the rounds of its repetitions written out. -/
def expand : Written → Regex Unit
  | empty => .empty
  | set members => .set members
  | look condition => .look condition
  | seq first second => .seq first.expand second.expand
  | alt first second => .alt () first.expand second.expand
  | counted body least most greedy => body.expand.repeated greedy least most

end Written

end ParserCombinators.Regex
