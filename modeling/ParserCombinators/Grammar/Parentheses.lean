import ParserCombinators.Grammar.Basic

/-!
# Rows of parentheses

Two grammars that refer to themselves. Both read groups in parentheses one after another, each
with such a row inside. One gives the row back as it was written, the other one counts how deep it
is nested.
-/

namespace ParserCombinators

/-- A row of groups in parentheses, as it is written. -/
def Grammar.balanced : Grammar :=
  .map (.many (.map (.between (.literal "(") (.literal ")") (.rule "balanced"))
    fun inner => .str ("(" ++ inner.text ++ ")"))) Transform.concat

/-- How deep a row of groups in parentheses is nested. -/
def Grammar.nesting : Grammar :=
  .map (.many (.between (.literal "(") (.literal ")") (.rule "nesting"))) Transform.depth

/-- The rules that the two grammars refer to. -/
def Rules.parentheses : Rules :=
  [("balanced", .balanced), ("nesting", .nesting)]

end ParserCombinators
