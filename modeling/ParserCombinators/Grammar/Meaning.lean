import ParserCombinators.Grammar.Basic
import ParserCombinators.Parser.Match
import ParserCombinators.Parser.Order

/-!
# The meaning of grammars

A grammar means a parser, given a parser for each rule. The parsers of rules that refer to
each other are found by unfolding: with some fuel a rule may be unfolded that many times inside
itself. Every further unfolding answers at least as much, so the unfoldings have a common
limit, which is the parser of the rule.
-/

namespace ParserCombinators

open ParserCombinators.Parser

/-- The parser of a matcher. -/
def Matcher.parser : Matcher → Parser String
  | letters => Parser.letters
  | digits => Parser.digits
  | lettersOrDigits => Parser.lettersOrDigits
  | floatingPoint => Parser.floatingPoint
  | whitespace => Parser.whitespace
  | optionalWhitespace => Parser.optionalWhitespace

mutual

/-- The parser of a grammar when its rules have the given parsers. -/
def Grammar.denote (rules : String → Parser Value) : Grammar → Parser Value
  | .literal expected => (Parser.literal expected).map .str
  | .pattern name search => (matching name search).map .str
  | .matcher named => named.parser.map .str
  | .sequence parts => (Parser.sequence (Grammar.denoteAll rules parts)).map .arr
  | .choice alternatives => Parser.choice (Grammar.denoteAll rules alternatives)
  | .many item => (item.denote rules).many.map .arr
  | .many1 item => (item.denote rules).many1.map .arr
  | .sepBy separator item => (Parser.sepBy (separator.denote rules) (item.denote rules)).map .arr
  | .sepBy1 separator item => (Parser.sepBy1 (separator.denote rules) (item.denote rules)).map .arr
  | .between left right content =>
    Parser.between (left.denote rules) (right.denote rules) (content.denote rules)
  | .optional item => (item.denote rules).optional.map fun value => value.getD .null
  | .success value => Parser.success value
  | .fail message => Parser.fail message
  | .followedBy first second =>
    ((first.denote rules).followedBy (second.denote rules)).map fun (a, b) => .arr [a, b]
  | .skip first second => (first.denote rules).skip (second.denote rules)
  | .skipLeft first second => (first.denote rules).skipLeft (second.denote rules)
  | .label item name => (item.denote rules).label name
  | .map item transform => (item.denote rules).map transform
  | .chain item next => (item.denote rules).chain fun value => (next value).denote rules
  | .reword item message => (item.denote rules).reword message
  | .delay item => Parser.delay fun _ => item.denote rules
  | .rule name => rules name

/-- The parsers of a list of grammars. -/
def Grammar.denoteAll (rules : String → Parser Value) : List Grammar → List (Parser Value)
  | [] => []
  | item :: rest => item.denote rules :: Grammar.denoteAll rules rest

end

mutual

/-- A grammar answers more when its rules do. -/
theorem Grammar.denote_le {r s : String → Parser Value} (h : ∀ name, (r name).Le (s name)) :
    ∀ g : Grammar, (g.denote r).Le (g.denote s)
  | .literal _ => Parser.Le.refl _
  | .pattern _ _ => Parser.Le.refl _
  | .matcher _ => Parser.Le.refl _
  | .sequence parts => map_le (sequence_le (Grammar.denoteAll_le h parts)) _
  | .choice alternatives => choice_le (Grammar.denoteAll_le h alternatives)
  | .many item => map_le (many_le (item.denote_le h)) _
  | .many1 item => map_le (many1_le (item.denote_le h)) _
  | .sepBy separator item => map_le (sepBy_le (separator.denote_le h) (item.denote_le h)) _
  | .sepBy1 separator item => map_le (sepBy1_le (separator.denote_le h) (item.denote_le h)) _
  | .between left right content =>
    between_le (left.denote_le h) (right.denote_le h) (content.denote_le h)
  | .optional item => map_le (optional_le (item.denote_le h)) _
  | .success _ => Parser.Le.refl _
  | .fail _ => Parser.Le.refl _
  | .followedBy first second => map_le (followedBy_le (first.denote_le h) (second.denote_le h)) _
  | .skip first second => skip_le (first.denote_le h) (second.denote_le h)
  | .skipLeft first second => skipLeft_le (first.denote_le h) (second.denote_le h)
  | .label item _ => reword_le (item.denote_le h) _
  | .map item _ => map_le (item.denote_le h) _
  | .chain item next => chain_le (item.denote_le h) fun value => (next value).denote_le h
  | .reword item _ => reword_le (item.denote_le h) _
  | .delay item => item.denote_le h
  | .rule name => h name

/-- A list of grammars answers more when its rules do. -/
theorem Grammar.denoteAll_le {r s : String → Parser Value} (h : ∀ name, (r name).Le (s name)) :
    ∀ gs : List Grammar, LeAll (Grammar.denoteAll r gs) (Grammar.denoteAll s gs)
  | [] => trivial
  | item :: rest => ⟨item.denote_le h, Grammar.denoteAll_le h rest⟩

end

namespace Rules

/-- The parser of a rule when rules may be unfolded a number of times inside each other. -/
def unfold (rules : Rules) : Nat → String → Parser Value
  | 0, _ => never
  | n + 1, name =>
    match rules.lookup name with
    | none => never
    | some body => Parser.delay fun _ => body.denote (unfold rules n)

/-- One more unfolding answers at least as much. -/
theorem unfold_le_succ (rules : Rules) (n : Nat) (name : String) :
    (rules.unfold n name).Le (rules.unfold (n + 1) name) := by
  induction n generalizing name with
  | zero => exact never_le _
  | succ n ih =>
    unfold unfold
    split
    · exact Parser.Le.refl _
    · next body _ => exact body.denote_le ih

/-- More unfoldings answer at least as much. -/
theorem unfold_le (rules : Rules) {m n : Nat} (h : m ≤ n) (name : String) :
    (rules.unfold m name).Le (rules.unfold n name) := by
  induction h with
  | refl => exact Parser.Le.refl _
  | step _ ih => exact ih.trans (rules.unfold_le_succ _ name)

/-- The parser of a rule. -/
def parser (rules : Rules) (name : String) : Parser Value where
  transition fuel pos := (rules.unfold fuel name).transition fuel pos
  stable m n pos h := rules.unfold_le h name m n pos h

end Rules

/-- The parser of a grammar with rules. -/
def Grammar.parser (rules : Rules) (g : Grammar) : Parser Value :=
  g.denote rules.parser

/-- Fuel for a text. A run that ends unfolds no rule twice at one index inside itself, and makes
no more rounds of a repetition than there are indices. -/
def Rules.fuel (rules : Rules) (input : Text) : Nat :=
  (rules.length + 1) * (byteLength input + 2)

/-- Run a grammar from a state. -/
def Grammar.apply {α : Type} (rules : Rules) (g : Grammar) (state : State α) :
    Run (State Value) :=
  (g.parser rules).apply (rules.fuel state.input) state

/-- Run a grammar from the beginning of a text. -/
def Grammar.run (rules : Rules) (g : Grammar) (input : Text) : Run (State Value) :=
  g.apply rules (State.initial input)

end ParserCombinators
