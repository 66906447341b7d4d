import ParserCombinators.Grammar.Meaning
import ParserCombinators.Proofs.Parser.Reading

/-!
# Grammars whose parts are watched

A watch is put on the parser of every part of a grammar and of its rules, so it sees each place
where a part is entered and each state in which it is left, kept or given back. A watch that does
nothing leaves the meaning of a grammar as it is.

Under a readable correspondence a grammar agrees with itself, also when one of the two runs is
watched in a way that keeps the agreement of parsers.
-/

namespace ParserCombinators

open Correspondence

mutual

/-- Every pattern in the grammar has a property. -/
def Grammar.Patterns (good : Search → Prop) : Grammar → Prop
  | .literal _ => True
  | .pattern _ search => good search
  | .matcher _ => True
  | .sequence parts => Grammar.PatternsAll good parts
  | .choice alternatives => Grammar.PatternsAll good alternatives
  | .many item => item.Patterns good
  | .many1 item => item.Patterns good
  | .sepBy separator item => separator.Patterns good ∧ item.Patterns good
  | .sepBy1 separator item => separator.Patterns good ∧ item.Patterns good
  | .between left right content =>
    left.Patterns good ∧ right.Patterns good ∧ content.Patterns good
  | .optional item => item.Patterns good
  | .success _ => True
  | .fail _ => True
  | .followedBy first second => first.Patterns good ∧ second.Patterns good
  | .skip first second => first.Patterns good ∧ second.Patterns good
  | .skipLeft first second => first.Patterns good ∧ second.Patterns good
  | .label item _ => item.Patterns good
  | .map item _ => item.Patterns good
  | .chain item next => item.Patterns good ∧ ∀ value, (next value).Patterns good
  | .reword item _ => item.Patterns good
  | .delay item => item.Patterns good
  | .rule _ => True

/-- Every pattern in a list of grammars has a property. -/
def Grammar.PatternsAll (good : Search → Prop) : List Grammar → Prop
  | [] => True
  | item :: rest => item.Patterns good ∧ Grammar.PatternsAll good rest

end

/-- Every pattern in a rule has a property. -/
def Rules.Patterns (good : Search → Prop) (rules : Rules) : Prop :=
  ∀ name body, rules.lookup name = some body → body.Patterns good

/-- Words, and rows of words in parentheses, nested to any depth. -/
def Rules.nestedWords : Rules :=
  [("group", .choice [.between (.literal "(") (.literal ")") (.many (.rule "group")),
    .pattern "word" (Regex.runOf (.range 'a' 'z')).search])]

/-- The only rule is the one for groups. -/
theorem Rules.lookup_nestedWords {name : String} {body : Grammar}
    (h : Rules.nestedWords.lookup name = some body) :
    name = "group" ∧ body = .choice [.between (.literal "(") (.literal ")") (.many (.rule "group")),
      .pattern "word" (Regex.runOf (.range 'a' 'z')).search] := by
  simp only [nestedWords, List.lookup_cons, List.lookup_nil] at h
  split at h
  · next hname => exact ⟨by simpa using hname, (Option.some.inj h).symm⟩
  · cases h

/-- Words are matched only where they start. -/
theorem Rules.patterns_nestedWords : Rules.nestedWords.Patterns Search.FindsAtStart := by
  intro name body h
  rw [(Rules.lookup_nestedWords h).2]
  exact ⟨⟨trivial, trivial, trivial⟩, Regex.findsAtStart_of_isAnchored rfl, trivial⟩

mutual

/-- A property that all searches have is one of every pattern. -/
theorem Grammar.patterns_of_forall {good : Search → Prop} (h : ∀ search, good search) :
    ∀ g : Grammar, g.Patterns good
  | .literal _ | .matcher _ | .success _ | .fail _ | .rule _ => trivial
  | .pattern _ search => h search
  | .sequence parts => Grammar.patternsAll_of_forall h parts
  | .choice alternatives => Grammar.patternsAll_of_forall h alternatives
  | .many item | .many1 item | .optional item | .label item _ | .map item _ | .reword item _
  | .delay item => Grammar.patterns_of_forall h item
  | .sepBy first second | .sepBy1 first second | .followedBy first second | .skip first second
  | .skipLeft first second =>
    ⟨Grammar.patterns_of_forall h first, Grammar.patterns_of_forall h second⟩
  | .between left right content => ⟨Grammar.patterns_of_forall h left,
      Grammar.patterns_of_forall h right, Grammar.patterns_of_forall h content⟩
  | .chain item next =>
    ⟨Grammar.patterns_of_forall h item, fun value => Grammar.patterns_of_forall h (next value)⟩

/-- A property that all searches have is one of every pattern in a list. -/
theorem Grammar.patternsAll_of_forall {good : Search → Prop} (h : ∀ search, good search) :
    ∀ gs : List Grammar, Grammar.PatternsAll good gs
  | [] => trivial
  | item :: rest => ⟨Grammar.patterns_of_forall h item, Grammar.patternsAll_of_forall h rest⟩

end

mutual

/-- The parser of a grammar when each of its parts is watched. -/
def Grammar.watched (watch : Parser Value → Parser Value) (rules : String → Parser Value)
    (g : Grammar) : Parser Value :=
  watch <| match g with
  | .literal expected => (Parser.literal expected).map .str
  | .pattern name search => (Parser.matching name search).map .str
  | .matcher named => named.parser.map .str
  | .sequence parts => (Parser.sequence (Grammar.watchedAll watch rules parts)).map .arr
  | .choice alternatives => Parser.choice (Grammar.watchedAll watch rules alternatives)
  | .many item => (item.watched watch rules).many.map .arr
  | .many1 item => (item.watched watch rules).many1.map .arr
  | .sepBy separator item =>
    (Parser.sepBy (separator.watched watch rules) (item.watched watch rules)).map .arr
  | .sepBy1 separator item =>
    (Parser.sepBy1 (separator.watched watch rules) (item.watched watch rules)).map .arr
  | .between left right content => Parser.between (left.watched watch rules)
      (right.watched watch rules) (content.watched watch rules)
  | .optional item => (item.watched watch rules).optional.map fun value => value.getD .null
  | .success value => Parser.success value
  | .fail message => Parser.fail message
  | .followedBy first second =>
    ((first.watched watch rules).followedBy (second.watched watch rules)).map
      fun (a, b) => .arr [a, b]
  | .skip first second => (first.watched watch rules).skip (second.watched watch rules)
  | .skipLeft first second => (first.watched watch rules).skipLeft (second.watched watch rules)
  | .label item name => (item.watched watch rules).label name
  | .map item transform => (item.watched watch rules).map transform
  | .chain item next =>
    (item.watched watch rules).chain fun value => (next value).watched watch rules
  | .reword item message => (item.watched watch rules).reword message
  | .delay item => Parser.delay fun _ => item.watched watch rules
  | .rule name => rules name

/-- The parsers of a list of grammars when each of their parts is watched. -/
def Grammar.watchedAll (watch : Parser Value → Parser Value) (rules : String → Parser Value) :
    List Grammar → List (Parser Value)
  | [] => []
  | item :: rest => item.watched watch rules :: Grammar.watchedAll watch rules rest

end

/-- The parser of a rule when rules may be unfolded a number of times inside each other and each
of their parts is watched. -/
def Rules.watched (watch : Parser Value → Parser Value) (rules : Rules) :
    Nat → String → Parser Value
  | 0, _ => Parser.never
  | n + 1, name =>
    match rules.lookup name with
    | none => Parser.never
    | some body => Parser.delay fun _ => body.watched watch (Rules.watched watch rules n)

mutual

/-- A watch that does nothing leaves the meaning of a grammar as it is. -/
theorem Grammar.watched_id (rules : String → Parser Value) :
    ∀ g : Grammar, g.watched id rules = g.denote rules
  | .literal _ | .pattern _ _ | .matcher _ | .success _ | .fail _ | .rule _ => rfl
  | .sequence parts => by
    rw [Grammar.watched, Grammar.denote, Grammar.watchedAll_id rules parts, id]
  | .choice alternatives => by
    rw [Grammar.watched, Grammar.denote, Grammar.watchedAll_id rules alternatives, id]
  | .many item | .many1 item | .optional item | .label item _ | .map item _ | .reword item _
  | .delay item => by
    rw [Grammar.watched, Grammar.denote, Grammar.watched_id rules item, id]
  | .sepBy first second | .sepBy1 first second | .followedBy first second | .skip first second
  | .skipLeft first second => by
    rw [Grammar.watched, Grammar.denote, Grammar.watched_id rules first,
      Grammar.watched_id rules second, id]
  | .between left right content => by
    rw [Grammar.watched, Grammar.denote, Grammar.watched_id rules left,
      Grammar.watched_id rules right, Grammar.watched_id rules content, id]
  | .chain item next => by
    have hnext : (fun value => (next value).watched id rules) =
        fun value => (next value).denote rules := by
      funext value
      exact Grammar.watched_id rules (next value)
    rw [Grammar.watched, Grammar.denote, Grammar.watched_id rules item, hnext, id]

/-- A watch that does nothing leaves the meanings of a list of grammars as they are. -/
theorem Grammar.watchedAll_id (rules : String → Parser Value) :
    ∀ gs : List Grammar, Grammar.watchedAll id rules gs = Grammar.denoteAll rules gs
  | [] => rfl
  | item :: rest => by
    rw [Grammar.watchedAll, Grammar.denoteAll, Grammar.watched_id rules item,
      Grammar.watchedAll_id rules rest]

end

/-- A watch that does nothing leaves the unfoldings of rules as they are. -/
theorem Rules.watched_id (rules : Rules) (n : Nat) : rules.watched id n = rules.unfold n := by
  induction n with
  | zero => rfl
  | succ n ih =>
    funext name
    unfold Rules.watched Rules.unfold
    cases rules.lookup name with
    | none => rfl
    | some body =>
      have hbody : body.watched id (rules.watched id n) = body.denote (rules.unfold n) := by
        rw [ih, Grammar.watched_id]
      exact congrArg (fun p => Parser.delay fun _ => p) hbody

section Agree

variable {C : Correspondence} {good : Search → Prop} {fuel : Nat}
  {watch : Parser Value → Parser Value} {r s : String → Parser Value}

/-- Named matchers agree with themselves. -/
theorem Correspondence.Readable.matcher (hC : C.Readable good) (named : Matcher) :
    C.Agree fuel named.parser named.parser := by
  cases named with
  | letters => exact hC.matching _ (hC.anchored rfl)
  | digits => exact hC.matching _ (hC.anchored rfl)
  | lettersOrDigits => exact hC.matching _ (hC.anchored rfl)
  | floatingPoint => exact hC.matching _ (hC.anchored rfl)
  | whitespace => exact hC.matching _ (hC.anchored rfl)
  | optionalWhitespace => exact (hC.matching _ (hC.anchored rfl)).optional.map _

mutual

/-- A watched grammar agrees with the grammar when its rules do. -/
theorem Grammar.watched_agree (hC : C.Readable good)
    (hwatch : ∀ p q : Parser Value, C.Agree fuel p q → C.Agree fuel (watch p) q)
    (hrules : ∀ name, C.Agree fuel (r name) (s name)) :
    ∀ g : Grammar, g.Patterns good → C.Agree fuel (g.watched watch r) (g.denote s)
  | .literal expected, _ => hwatch _ _ ((hC.literal expected).map Value.str)
  | .pattern name _, hsearch => hwatch _ _ ((hC.matching name hsearch).map Value.str)
  | .matcher named, _ => hwatch _ _ ((hC.matcher named).map Value.str)
  | .sequence parts, hparts => by
    have h := Grammar.watchedAll_agree hC hwatch hrules parts hparts
    exact hwatch _ _ ((Agree.sequence h).map Value.arr)
  | .choice alternatives, halternatives => by
    have h := Grammar.watchedAll_agree hC hwatch hrules alternatives halternatives
    exact hwatch _ _ (Agree.choice h)
  | .many item, hitem => by
    have h := Grammar.watched_agree hC hwatch hrules item hitem
    exact hwatch _ _ (h.many.map Value.arr)
  | .many1 item, hitem => by
    have h := Grammar.watched_agree hC hwatch hrules item hitem
    exact hwatch _ _ (h.many1.map Value.arr)
  | .sepBy separator item, ⟨hseparator, hitem⟩ => by
    have h' := Grammar.watched_agree hC hwatch hrules separator hseparator
    have h := Grammar.watched_agree hC hwatch hrules item hitem
    exact hwatch _ _ ((h'.sepBy h).map Value.arr)
  | .sepBy1 separator item, ⟨hseparator, hitem⟩ => by
    have h' := Grammar.watched_agree hC hwatch hrules separator hseparator
    have h := Grammar.watched_agree hC hwatch hrules item hitem
    exact hwatch _ _ ((h'.sepBy1 h).map Value.arr)
  | .between left right content, ⟨hleft, hright, hcontent⟩ => by
    have hl := Grammar.watched_agree hC hwatch hrules left hleft
    have hr := Grammar.watched_agree hC hwatch hrules right hright
    have hc := Grammar.watched_agree hC hwatch hrules content hcontent
    exact hwatch _ _ (Agree.between hl hr hc)
  | .optional item, hitem => by
    have h := Grammar.watched_agree hC hwatch hrules item hitem
    exact hwatch _ _ (h.optional.map _)
  | .success value, _ => hwatch _ _ (.success value)
  | .fail message, _ => hwatch _ _ (.fail message)
  | .followedBy first second, ⟨hfirst, hsecond⟩ => by
    have h := Grammar.watched_agree hC hwatch hrules first hfirst
    have h' := Grammar.watched_agree hC hwatch hrules second hsecond
    exact hwatch _ _ ((h.followedBy h').map _)
  | .skip first second, ⟨hfirst, hsecond⟩ => by
    have h := Grammar.watched_agree hC hwatch hrules first hfirst
    have h' := Grammar.watched_agree hC hwatch hrules second hsecond
    exact hwatch _ _ (h.skip h')
  | .skipLeft first second, ⟨hfirst, hsecond⟩ => by
    have h := Grammar.watched_agree hC hwatch hrules first hfirst
    have h' := Grammar.watched_agree hC hwatch hrules second hsecond
    exact hwatch _ _ (h.skipLeft h')
  | .label item _, hitem => by
    have h := Grammar.watched_agree hC hwatch hrules item hitem
    exact hwatch _ _ (h.reword _)
  | .map item transform, hitem => by
    have h := Grammar.watched_agree hC hwatch hrules item hitem
    exact hwatch _ _ (h.map transform)
  | .chain item choose, ⟨hitem, hchosen⟩ => by
    have h := Grammar.watched_agree hC hwatch hrules item hitem
    have h' : ∀ value, C.Agree fuel ((choose value).watched watch r) ((choose value).denote s) := by
      intro value
      exact Grammar.watched_agree hC hwatch hrules (choose value) (hchosen value)
    exact hwatch _ _ (h.chain h')
  | .reword item message, hitem => by
    have h := Grammar.watched_agree hC hwatch hrules item hitem
    exact hwatch _ _ (h.reword message)
  | .delay item, hitem => hwatch _ _ (Grammar.watched_agree hC hwatch hrules item hitem)
  | .rule name, _ => hwatch _ _ (hrules name)

/-- Watched grammars in a list agree with the grammars when their rules do. -/
theorem Grammar.watchedAll_agree (hC : C.Readable good)
    (hwatch : ∀ p q : Parser Value, C.Agree fuel p q → C.Agree fuel (watch p) q)
    (hrules : ∀ name, C.Agree fuel (r name) (s name)) :
    ∀ gs : List Grammar, Grammar.PatternsAll good gs →
      List.Forall₂ (C.Agree fuel) (Grammar.watchedAll watch r gs) (Grammar.denoteAll s gs)
  | [], _ => .nil
  | item :: rest, h => .cons (Grammar.watched_agree hC hwatch hrules item h.1)
      (Grammar.watchedAll_agree hC hwatch hrules rest h.2)

end

/-- Watched rules agree with the rules, however often they are unfolded. -/
theorem Rules.watched_agree (hC : C.Readable good)
    (hwatch : ∀ p q : Parser Value, C.Agree fuel p q → C.Agree fuel (watch p) q)
    {rules : Rules} (hrules : rules.Patterns good) (n : Nat) (name : String) :
    C.Agree fuel (rules.watched watch n name) (rules.unfold n name) := by
  induction n generalizing name with
  | zero => exact Agree.never
  | succ n ih =>
    unfold Rules.watched Rules.unfold
    cases hbody : rules.lookup name with
    | none => exact Agree.never
    | some body => exact Grammar.watched_agree hC hwatch ih body (hrules name body hbody)

/-- A watched grammar with watched rules agrees with the parser of the grammar. -/
theorem Grammar.watched_agree_parser (hC : C.Readable good)
    (hwatch : ∀ p q : Parser Value, C.Agree fuel p q → C.Agree fuel (watch p) q)
    {rules : Rules} (hrules : rules.Patterns good) {g : Grammar} (hg : g.Patterns good) :
    C.Agree fuel (g.watched watch (rules.watched watch fuel)) (g.parser rules) :=
  Grammar.watched_agree (s := rules.parser) hC hwatch
    (fun name => Rules.watched_agree hC hwatch hrules fuel name) g hg

/-- Unfoldings of a rule agree with themselves. -/
theorem Rules.unfold_agree (hC : C.Readable good) {rules : Rules} (hrules : rules.Patterns good)
    (n : Nat) (name : String) : C.Agree fuel (rules.unfold n name) (rules.unfold n name) := by
  have h : C.Agree fuel (rules.watched id n name) (rules.unfold n name) :=
    Rules.watched_agree hC (fun _ _ h => h) hrules n name
  rwa [Rules.watched_id] at h

/-- A grammar agrees with itself when its rules do. -/
theorem Grammar.denote_agree (hC : C.Readable good)
    (hrules : ∀ name, C.Agree fuel (r name) (s name)) {g : Grammar} (hg : g.Patterns good) :
    C.Agree fuel (g.denote r) (g.denote s) := by
  have h : C.Agree fuel (g.watched id r) (g.denote s) :=
    Grammar.watched_agree hC (fun _ _ h => h) hrules g hg
  rwa [Grammar.watched_id] at h

/-- The parser of a grammar agrees with itself. -/
theorem Grammar.parser_agree (hC : C.Readable good) {rules : Rules} (hrules : rules.Patterns good)
    {g : Grammar} (hg : g.Patterns good) : C.Agree fuel (g.parser rules) (g.parser rules) :=
  Grammar.denote_agree (r := rules.parser) (s := rules.parser) hC
    (fun name => Rules.unfold_agree hC hrules fuel name) hg

end Agree

end ParserCombinators
