/-!
# Nesting

How deeply the pieces of a written regular expression are nested. A single character is no level
of its own. A group, a class and a repetition are one level around what they hold, and so are
several pieces in a row and several alternatives.
-/

namespace ParserCombinators.Regex

/-- The levels below a group or a class that is still open. -/
structure Nesting where
  /-- The number of pieces in the current row. -/
  pieces : Nat := 0
  /-- The levels of the last piece. -/
  last : Nat := 0
  /-- The greatest number of levels among the pieces of the row before the last. -/
  earlier : Nat := 0
  /-- The levels of what stands before the current row, if there is something. -/
  before : Option Nat := none

namespace Nesting

/-- The greatest number of levels that is allowed. -/
def limit : Nat := 250

/-- One more piece with the given number of levels. -/
def push (nesting : Nesting) (levels : Nat) : Nesting :=
  { nesting with
    pieces := nesting.pieces + 1
    last := levels
    earlier := max nesting.earlier nesting.last }

/-- The last piece with a level around it. -/
def wrapLast (nesting : Nesting) : Nesting :=
  { nesting with last := nesting.last + 1 }

/-- The levels of the current row. -/
def row (nesting : Nesting) : Nat :=
  max nesting.earlier nesting.last + if 1 < nesting.pieces then 1 else 0

/-- The levels of all alternatives, which share one level. -/
def alternatives (nesting : Nesting) : Nat :=
  match nesting.before with
  | none => nesting.row
  | some levels => max levels (nesting.row + 1)

/-- The next alternative. -/
def branch (nesting : Nesting) : Nesting :=
  { before := some (max (nesting.before.getD 0) (nesting.row + 1)) }

/-- The levels of the operands of set operations, each of which is a level around its two
sides. -/
def operands (nesting : Nesting) : Nat :=
  match nesting.before with
  | none => nesting.row
  | some levels => max levels nesting.row + 1

/-- The right side of a set operation. -/
def operate (nesting : Nesting) : Nesting :=
  { before := some nesting.operands }

end Nesting

end ParserCombinators.Regex
