import ParserCombinators.Regex.CharSet

/-!
# Regular expressions

A regular expression here is what is left of a written one after counted repetition, flags
and groups are resolved. Where it can go on in two ways it carries a mark. An expression that
was read has marks that say nothing; before matching, its choices are numbered, so that two
choices that are written alike can be told apart.
-/

namespace ParserCombinators

/-- A condition on the characters on both sides of a place in the text. -/
inductive Look where
  /-- The text begins here. -/
  | start
  /-- The text ends here. -/
  | stop
  /-- A line begins here. If so wanted, a carriage return ends a line too. -/
  | startLine (crlf : Bool)
  /-- A line ends here. -/
  | stopLine (crlf : Bool)
  /-- Exactly one of the two sides is a word character, of any script or of ASCII. -/
  | wordBoundary (unicode : Bool)
  /-- Both sides or none are word characters. -/
  | notWordBoundary (unicode : Bool)
  /-- A word begins here. -/
  | wordStart (unicode : Bool)
  /-- A word ends here. -/
  | wordStop (unicode : Bool)
  /-- No word character stands before. -/
  | notAfterWord (unicode : Bool)
  /-- No word character follows. -/
  | notBeforeWord (unicode : Bool)
deriving DecidableEq, Repr

namespace Look

/-- Whether a word character stands on this side. -/
def isWordSide (unicode : Bool) (side : Option Char) : Bool :=
  side.any fun c => if unicode then Unicode.isWordCharacter c else c.isAlphanum || c == '_'

/-- Whether the condition holds between the character before and the character after. A carriage
return and a line feed behind it end one line. -/
def holds (before after : Option Char) : Look → Bool
  | start => before.isNone
  | stop => after.isNone
  | startLine false => before.all (· == '\n')
  | startLine true => before.all fun c => c == '\n' || c == '\r' && after != some '\n'
  | stopLine false => after.all (· == '\n')
  | stopLine true => after.all fun c => c == '\r' || c == '\n' && before != some '\r'
  | wordBoundary unicode => isWordSide unicode before != isWordSide unicode after
  | notWordBoundary unicode => isWordSide unicode before == isWordSide unicode after
  | wordStart unicode => !isWordSide unicode before && isWordSide unicode after
  | wordStop unicode => isWordSide unicode before && !isWordSide unicode after
  | notAfterWord unicode => !isWordSide unicode before
  | notBeforeWord unicode => !isWordSide unicode after

end Look

/-- A regular expression with marked choices. -/
inductive Regex (ι : Type) where
  /-- The empty text. -/
  | empty
  /-- One character of a set. -/
  | set (members : CharSet)
  /-- The empty text, where a condition holds. -/
  | look (condition : Look)
  /-- One expression and then another. -/
  | seq (first second : Regex ι)
  /-- One of two expressions, the first one preferred. -/
  | alt (mark : ι) (first second : Regex ι)
  /-- One round or more. A greedy repetition prefers more rounds. The choice is made behind each
  round. -/
  | plus (mark : ι) (body : Regex ι) (greedy : Bool)
  /-- Any number of rounds. The choice is made in front of each round. -/
  | loop (mark : ι) (body : Regex ι) (greedy : Bool)
deriving DecidableEq, Repr

namespace Regex

variable {ι : Type}

/-- Whether the expression may match without reading. -/
def isNullable : Regex ι → Bool
  | empty => true
  | set _ => false
  | look _ => true
  | seq first second => first.isNullable && second.isNullable
  | alt _ first second => first.isNullable || second.isNullable
  | plus _ body _ => body.isNullable
  | loop _ _ _ => true

/-- Whether the expression can match at the beginning of the text only. -/
def isAnchored : Regex ι → Bool
  | empty => false
  | set _ => false
  | look condition => condition == .start
  | seq first _ => first.isAnchored
  | alt _ first second => first.isAnchored && second.isAnchored
  | plus _ body _ => body.isAnchored
  | loop _ _ _ => false

/-- One expression and then another, with an empty first one left out. -/
def andThen : Regex ι → Regex ι → Regex ι
  | empty, second => second
  | first, second => seq first second

/-- All expressions one after another. -/
def concat : List (Regex ι) → Regex ι
  | [] => empty
  | [r] => r
  | r :: s :: rest => seq r (concat (s :: rest))

/-- Whether the expression cannot read anything, so that a second round changes nothing. -/
def neverReads : Regex ι → Bool
  | empty => true
  | set _ => false
  | look _ => true
  | seq first second => first.neverReads && second.neverReads
  | alt _ first second => first.neverReads && second.neverReads
  | plus _ body _ => body.neverReads
  | loop _ body _ => body.neverReads

/-- The expression or nothing. -/
def opt (r : Regex Unit) (greedy : Bool) : Regex Unit :=
  if greedy then alt () r empty else alt () empty r

/-- Any number of rounds. If a round may read nothing, the first round is chosen apart from the
further ones, so that a first round that reads nothing keeps its rank among the ways of the
first round. -/
def star (r : Regex Unit) (greedy : Bool) : Regex Unit :=
  if r.isNullable then (plus () r greedy).opt greedy else loop () r greedy

/-- At most the given number of rounds. -/
def atMost (r : Regex Unit) (greedy : Bool) : Nat → Regex Unit
  | 0 => empty
  | 1 => r.opt greedy
  | n + 2 => (r.andThen (atMost r greedy (n + 1))).opt greedy

/-- From a least to a greatest number of rounds, or to any number. -/
def rounds (r : Regex Unit) (greedy : Bool) (least : Nat) : Option Nat → Regex Unit
  | some most =>
    concat (List.replicate least r ++
      if least < most then [r.atMost greedy (most - least)] else [])
  | none =>
    if least = 0 then r.star greedy
    else concat (List.replicate (least - 1) r ++ [plus () r greedy])

/-- The rounds of a repetition. What cannot read anything is repeated at most once, since a second
round changes nothing. -/
def repeated (r : Regex Unit) (greedy : Bool) (least : Nat) (most : Option Nat) : Regex Unit :=
  if r.neverReads then r.rounds greedy (min least 1) (some (min (most.getD 1) 1))
  else r.rounds greedy least most

/-- The expression with its choices numbered from the given number on, and the first number
that is left. -/
def number : Regex Unit → Nat → Regex Nat × Nat
  | empty, n => (empty, n)
  | set members, n => (set members, n)
  | look condition, n => (look condition, n)
  | seq first second, n =>
    let (first, n) := first.number n
    let (second, n) := second.number n
    (seq first second, n)
  | alt _ first second, mark =>
    let (first, n) := first.number (mark + 1)
    let (second, n) := second.number n
    (alt mark first second, n)
  | plus _ body greedy, mark =>
    let (body, n) := body.number (mark + 1)
    (plus mark body greedy, n)
  | loop _ body greedy, mark =>
    let (body, n) := body.number (mark + 1)
    (loop mark body greedy, n)

end Regex

end ParserCombinators
