import Mathlib
import ParserCombinators.Proofs.Grammar.Shift

/-!
# Words decide nothing

The messages of failures are for the reader only. Leaving out every label and every rewording in a
grammar and its rules, or giving other messages to deliberate failures, changes the messages of
runs and nothing else: a run ends, faults or runs out of fuel as before, at the same place, with
the same value or with a failure of the same kind and index.
-/

namespace ParserCombinators

open Correspondence

mutual

/-- The grammar in other words: labels and rewordings are kept or left out everywhere, and the
messages of deliberate failures go through a function. -/
def Grammar.rephrase (wrapped : Bool) (words : String → String) : Grammar → Grammar
  | .literal expected => .literal expected
  | .pattern name search => .pattern name search
  | .matcher named => .matcher named
  | .sequence parts => .sequence (Grammar.rephraseAll wrapped words parts)
  | .choice alternatives => .choice (Grammar.rephraseAll wrapped words alternatives)
  | .many item => .many (item.rephrase wrapped words)
  | .many1 item => .many1 (item.rephrase wrapped words)
  | .sepBy separator item => .sepBy (separator.rephrase wrapped words) (item.rephrase wrapped words)
  | .sepBy1 separator item =>
    .sepBy1 (separator.rephrase wrapped words) (item.rephrase wrapped words)
  | .between left right content => .between (left.rephrase wrapped words)
      (right.rephrase wrapped words) (content.rephrase wrapped words)
  | .optional item => .optional (item.rephrase wrapped words)
  | .success value => .success value
  | .fail message => .fail (words message)
  | .followedBy first second =>
    .followedBy (first.rephrase wrapped words) (second.rephrase wrapped words)
  | .skip first second => .skip (first.rephrase wrapped words) (second.rephrase wrapped words)
  | .skipLeft first second =>
    .skipLeft (first.rephrase wrapped words) (second.rephrase wrapped words)
  | .label item name =>
    if wrapped then .label (item.rephrase wrapped words) name else item.rephrase wrapped words
  | .map item transform => .map (item.rephrase wrapped words) transform
  | .chain item next =>
    .chain (item.rephrase wrapped words) fun value => (next value).rephrase wrapped words
  | .reword item message =>
    if wrapped then .reword (item.rephrase wrapped words) message else item.rephrase wrapped words
  | .delay item => .delay (item.rephrase wrapped words)
  | .rule name => .rule name

/-- The grammars of a list in other words. -/
def Grammar.rephraseAll (wrapped : Bool) (words : String → String) : List Grammar → List Grammar
  | [] => []
  | item :: rest => item.rephrase wrapped words :: Grammar.rephraseAll wrapped words rest

end

/-- The rules in other words. -/
def Rules.rephrase (wrapped : Bool) (words : String → String) (rules : Rules) : Rules :=
  rules.map fun (name, body) => (name, body.rephrase wrapped words)

/-- The grammar without its labels and rewordings. -/
def Grammar.erase (g : Grammar) : Grammar :=
  g.rephrase false id

/-- The rules without their labels and rewordings. -/
def Rules.erase (rules : Rules) : Rules :=
  rules.rephrase false id

/-- The grammars differ at most in the messages of their deliberate failures. -/
def Grammar.SameButMessages (g h : Grammar) : Prop :=
  g.rephrase true (fun _ => "") = h.rephrase true (fun _ => "")

/-- The rules differ at most in the messages of their deliberate failures. -/
def Rules.SameButMessages (rules others : Rules) : Prop :=
  rules.rephrase true (fun _ => "") = others.rephrase true (fun _ => "")

/-- The body of a rule in other words. -/
theorem Rules.lookup_rephrase (wrapped : Bool) (words : String → String) (rules : Rules)
    (name : String) : (rules.rephrase wrapped words).lookup name =
      (rules.lookup name).map (Grammar.rephrase wrapped words) := by
  induction rules with
  | nil => rfl
  | cons rule rest ih =>
    change List.lookup name ((rule.1, rule.2.rephrase wrapped words) :: rephrase wrapped words rest)
      = (List.lookup name ((rule.1, rule.2) :: rest)).map _
    rw [List.lookup_cons, List.lookup_cons]
    split
    · rfl
    · exact ih

/-- The same places, and failures that differ in their messages only. -/
def Correspondence.wordless : Correspondence where
  place pos pos' := pos = pos'
  failure _ e _ e' := e.kind = e'.kind ∧ e.index = e'.index
  faults := True
  moved := by
    rintro pos _ next _ rfl rfl
    rfl
  reached := by
    intro _ _ _ _ e e' f f' he hf
    rw [he.2, hf.2]
  noAlternative := by
    rintro pos _ rfl
    exact ⟨rfl, rfl⟩
  many1 := by
    rintro pos _ rfl
    exact ⟨rfl, rfl⟩
  sepBy1 := by
    rintro pos _ rfl
    exact ⟨rfl, rfl⟩
  custom message := by
    rintro rfl
    exact ⟨rfl, rfl⟩
  reworded message := by
    intro he
    exact he

/-- Looking at the text gives the same messages at the same places. -/
theorem wordless_readable : Correspondence.wordless.Readable fun _ => True where
  remainder := by
    rintro pos _ rfl
    rfl
  fault _ _ := trivial
  endOfInput := by
    rintro pos _ rfl _
    exact ⟨rfl, rfl⟩
  literalMismatch := by
    rintro pos _ text expected rfl _ _ _
    exact ⟨rfl, rfl⟩
  patternMismatch _ := by
    rintro rfl _ _
    exact ⟨rfl, rfl⟩
  read := by
    rintro pos _ text start rfl _ _
    rfl
  found := by
    rintro pos _ text matched search _ rfl _ _
    rfl
  anchored _ := trivial

variable {α : Type} {fuel : Nat}

/-- States that differ in the message of a failure only are equal without it. -/
theorem wordless_states {s t : State α} (h : Correspondence.wordless.States s t) :
    s.wordless = t.wordless := by
  cases h with
  | succeed value hplace =>
    cases hplace
    rfl
  | @fail pos _ e e' hplace he =>
    cases hplace
    have hfailure : e.withMessage "" = e'.withMessage "" := by
      simp only [Failure.withMessage, he.1, he.2]
    simp only [State.wordless, State.mapFailure, Position.fail, Except.mapError, hfailure]

/-- Every state corresponds to itself. -/
theorem wordless_refl (state : State α) : Correspondence.wordless.States state state := by
  cases state with
  | succeed pos value => exact .succeed value rfl
  | fail pos e => exact .fail rfl ⟨rfl, rfl⟩

/-- Rewording one of two parsers that run alike. A failure stays one, where it is and of its
kind. -/
theorem wordless_reword {p q : Parser α} (h : Correspondence.wordless.Agree fuel p q)
    (message : Failure → String) : Correspondence.wordless.Agree fuel p (q.reword message) := by
  intro pos pos' hplace
  have hrel := h pos pos' hplace
  simp only [Parser.reword]
  generalize p.transition fuel pos = r at hrel ⊢
  generalize q.transition fuel pos' = s at hrel ⊢
  cases hrel with
  | offBoundary hfaults => exact .offBoundary hfaults
  | exhausted => exact .exhausted
  | done hstates =>
    cases hstates with
    | succeed value hnext => exact .done (.succeed value hnext)
    | fail hnext he => exact .done (.fail hnext he)

section Agree

variable {wrapped : Bool} {words : String → String} {r s : String → Parser Value}

mutual

/-- A grammar in other words runs like the grammar when its rules do. -/
theorem Grammar.rephrase_agree (hrules : ∀ name, wordless.Agree fuel (r name) (s name)) :
    ∀ g : Grammar, wordless.Agree fuel ((g.rephrase wrapped words).denote r) (g.denote s)
  | .literal expected => (wordless_readable.literal expected).map Value.str
  | .pattern name _ => (wordless_readable.matching name trivial).map Value.str
  | .matcher named => (wordless_readable.matcher named).map Value.str
  | .sequence parts => (Agree.sequence (Grammar.rephraseAll_agree hrules parts)).map Value.arr
  | .choice alternatives => Agree.choice (Grammar.rephraseAll_agree hrules alternatives)
  | .many item => (Grammar.rephrase_agree hrules item).many.map Value.arr
  | .many1 item => (Grammar.rephrase_agree hrules item).many1.map Value.arr
  | .sepBy separator item => by
    have h := Grammar.rephrase_agree hrules separator
    exact (h.sepBy (Grammar.rephrase_agree hrules item)).map Value.arr
  | .sepBy1 separator item => by
    have h := Grammar.rephrase_agree hrules separator
    exact (h.sepBy1 (Grammar.rephrase_agree hrules item)).map Value.arr
  | .between left right content => Agree.between (Grammar.rephrase_agree hrules left)
      (Grammar.rephrase_agree hrules right) (Grammar.rephrase_agree hrules content)
  | .optional item => (Grammar.rephrase_agree hrules item).optional.map _
  | .success value => .success value
  | .fail _ => fun _ _ hplace => .done (.fail hplace ⟨rfl, congrArg Position.index hplace⟩)
  | .followedBy first second => by
    have h := Grammar.rephrase_agree hrules first
    exact (h.followedBy (Grammar.rephrase_agree hrules second)).map _
  | .skip first second =>
    (Grammar.rephrase_agree hrules first).skip (Grammar.rephrase_agree hrules second)
  | .skipLeft first second =>
    (Grammar.rephrase_agree hrules first).skipLeft (Grammar.rephrase_agree hrules second)
  | .label item name => by
    have h := Grammar.rephrase_agree hrules item
    cases wrapped with
    | true => exact h.reword _
    | false => exact wordless_reword h _
  | .map item transform => (Grammar.rephrase_agree hrules item).map transform
  | .chain item next =>
    (Grammar.rephrase_agree hrules item).chain fun value =>
      Grammar.rephrase_agree hrules (next value)
  | .reword item message => by
    have h := Grammar.rephrase_agree hrules item
    cases wrapped with
    | true => exact h.reword message
    | false => exact wordless_reword h message
  | .delay item => Grammar.rephrase_agree hrules item
  | .rule name => hrules name

/-- Grammars of a list in other words run like the grammars when their rules do. -/
theorem Grammar.rephraseAll_agree (hrules : ∀ name, wordless.Agree fuel (r name) (s name)) :
    ∀ gs : List Grammar, List.Forall₂ (wordless.Agree fuel)
      (Grammar.denoteAll r (Grammar.rephraseAll wrapped words gs)) (Grammar.denoteAll s gs)
  | [] => .nil
  | item :: rest =>
    .cons (Grammar.rephrase_agree hrules item) (Grammar.rephraseAll_agree hrules rest)

end

/-- Rules in other words run like the rules, however often they are unfolded. -/
theorem Rules.rephrase_agree (rules : Rules) (n : Nat) (name : String) :
    wordless.Agree fuel ((rules.rephrase wrapped words).unfold n name) (rules.unfold n name) := by
  induction n generalizing name with
  | zero => exact Agree.never
  | succ n ih =>
    unfold Rules.unfold
    rw [Rules.lookup_rephrase]
    cases rules.lookup name with
    | none => exact Agree.never
    | some body => exact Grammar.rephrase_agree ih body

end Agree

/-- A run of a grammar in other words differs in the message of a failure only. -/
theorem Grammar.apply_rephrase (wrapped : Bool) (words : String → String) (rules : Rules)
    (g : Grammar) (state : State α) (fuel : Nat) :
    (((g.rephrase wrapped words).parser (rules.rephrase wrapped words)).apply fuel state).map
        State.wordless = ((g.parser rules).apply fuel state).map State.wordless := by
  have hagree : wordless.Agree fuel
      ((g.rephrase wrapped words).parser (rules.rephrase wrapped words)) (g.parser rules) :=
    Grammar.rephrase_agree (r := (rules.rephrase wrapped words).parser) (s := rules.parser)
      (fun name => Rules.rephrase_agree rules fuel name) g
  have hrel := hagree.apply (wordless_refl state)
  exact (hrel.map fun _ _ hstates => wordless_states hstates).eq fun _ _ heq => heq

/-- From every state, with any fuel, a grammar without its labels and rewordings runs like the
grammar but for the message of a failure, and so does a grammar with other messages in its
deliberate failures. -/
theorem Grammar.apply_unworded (rules : Rules) (g : Grammar) (state : State α) (fuel : Nat) :
    ((g.erase.parser rules.erase).apply fuel state).map State.wordless =
        ((g.parser rules).apply fuel state).map State.wordless ∧
      ∀ (others : Rules) (h : Grammar), rules.SameButMessages others → g.SameButMessages h →
        ((h.parser others).apply fuel state).map State.wordless =
          ((g.parser rules).apply fuel state).map State.wordless := by
  refine ⟨Grammar.apply_rephrase false id rules g state fuel, ?_⟩
  intro others h hrules hgrammars
  rw [← Grammar.apply_rephrase true (fun _ => "") others h, ← hrules, ← hgrammars,
    Grammar.apply_rephrase true (fun _ => "") rules g]

/-- A number that an exclamation mark must follow, with words at every stage. -/
def Rules.numbers (refusal : String) : Rules :=
  [("number", .label (.chain (.matcher .digits) fun value =>
    .reword (.choice [.literal "!", .fail (refusal ++ value.text)]) fun e => e.message ++ "?")
      "a number")]

/-- Two refusals of a number differ in their words only. -/
theorem Grammar.apply_unworded_numbers :
    (Rules.numbers "not ").SameButMessages (Rules.numbers "never ") ∧
      (((Grammar.rule "number").parser (Rules.numbers "never ")).apply 3
          (State.initial "12a".toList)).map State.wordless =
        (((Grammar.rule "number").parser (Rules.numbers "not ")).apply 3
          (State.initial "12a".toList)).map State.wordless ∧
      ((Grammar.rule "number").erase.parser (Rules.numbers "never ").erase).apply 3
          (State.initial "12a".toList) =
        .done ((⟨"12a".toList, 2⟩ : Position).fail (Failure.custom 2 "never 12")) := by
  have hrules : (Rules.numbers "not ").SameButMessages (Rules.numbers "never ") := rfl
  have hwords := Grammar.apply_unworded (Rules.numbers "not ") (.rule "number")
    (State.initial "12a".toList) 3
  exact ⟨hrules, hwords.2 _ _ hrules rfl, by cbv⟩

end ParserCombinators
