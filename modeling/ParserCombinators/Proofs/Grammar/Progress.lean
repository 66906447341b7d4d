import ParserCombinators.Proofs.Grammar.Watched
import ParserCombinators.Proofs.Parser.Progress

/-!
# Grammars that read something

Whether a grammar may succeed without reading is told by its form, rules and patterns being
taken to be able to. A grammar that may not be empty moves on whenever it succeeds, whatever its
rules are, as long as they are forward.
-/

namespace ParserCombinators

open ParserCombinators.Parser

/-- Whether the matcher may succeed without reading. -/
def Matcher.mayBeEmpty : Matcher → Bool
  | optionalWhitespace => true
  | _ => false

mutual

/-- Whether the grammar may succeed without reading, as far as its form tells. -/
def Grammar.mayBeEmpty : Grammar → Bool
  | .literal expected => expected == ""
  | .pattern _ _ => true
  | .matcher named => named.mayBeEmpty
  | .sequence parts => Grammar.allMayBeEmpty parts
  | .choice alternatives => Grammar.anyMayBeEmpty alternatives
  | .many _ => true
  | .many1 item => item.mayBeEmpty
  | .sepBy _ _ => true
  | .sepBy1 _ item => item.mayBeEmpty
  | .between left right content => left.mayBeEmpty && content.mayBeEmpty && right.mayBeEmpty
  | .optional _ => true
  | .success _ => true
  | .fail _ => false
  | .followedBy first second => first.mayBeEmpty && second.mayBeEmpty
  | .skip first second => first.mayBeEmpty && second.mayBeEmpty
  | .skipLeft first second => first.mayBeEmpty && second.mayBeEmpty
  | .label item _ => item.mayBeEmpty
  | .map item _ => item.mayBeEmpty
  | .chain item _ => item.mayBeEmpty
  | .reword item _ => item.mayBeEmpty
  | .delay item => item.mayBeEmpty
  | .rule _ => true

/-- Whether all grammars of a list may succeed without reading. -/
def Grammar.allMayBeEmpty : List Grammar → Bool
  | [] => true
  | item :: rest => item.mayBeEmpty && Grammar.allMayBeEmpty rest

/-- Whether some grammar of a list may succeed without reading. -/
def Grammar.anyMayBeEmpty : List Grammar → Bool
  | [] => false
  | item :: rest => item.mayBeEmpty || Grammar.anyMayBeEmpty rest

end

variable {fuel : Nat} {r : String → Parser Value}

/-- A grammar is forward when its rules are. -/
theorem Grammar.forward (hr : ∀ name, (r name).Forward fuel) (g : Grammar) :
    (g.denote r).Forward fuel :=
  fun start => Grammar.denote_agree (forwardFrom_readable start) (fun name => hr name start)
    (Grammar.patterns_of_forall (fun _ => trivial) g)

/-- A sequence of grammars is forward when their rules are. -/
theorem Grammar.sequence_forward (hr : ∀ name, (r name).Forward fuel) (gs : List Grammar) :
    (Parser.sequence (Grammar.denoteAll r gs)).Forward fuel := by
  induction gs with
  | nil => exact fun start => .success []
  | cons item rest ih =>
    intro start
    rw [Grammar.denoteAll, sequence_cons]
    exact (Grammar.forward hr item start).chain fun _ => (ih start).map _

/-- The rules themselves are forward. -/
theorem Rules.unfold_forward (rules : Rules) (n : Nat) (name : String) :
    (rules.unfold n name).Forward fuel :=
  fun start => Rules.unfold_agree (forwardFrom_readable start)
    (fun _ body _ => Grammar.patterns_of_forall (fun _ => trivial) body) n name

/-- A named matcher that may not be empty moves on. -/
theorem Matcher.moves {named : Matcher} (h : named.mayBeEmpty = false) :
    named.parser.Moves fuel := by
  cases named with
  | letters => exact matching_moves _ rfl
  | digits => exact matching_moves _ rfl
  | lettersOrDigits => exact matching_moves _ rfl
  | floatingPoint => exact matching_moves _ rfl
  | whitespace => exact matching_moves _ rfl
  | optionalWhitespace => cases h

/-- Two parsers in a row move on if one of them does. -/
theorem Parser.followedBy_moves {α β : Type} {p : Parser α} {q : Parser β}
    (hp : p.Forward fuel) (hq : q.Forward fuel) (h : p.Moves fuel ∨ q.Moves fuel) :
    (p.followedBy q).Moves fuel := by
  rw [followedBy_eq_chain]
  rcases h with hmoves | hmoves
  · exact hmoves.chain fun _ start => (hq start).map _
  · exact hp.chain_moves fun _ => hmoves.map _

/-- Two parsers in a row of which the second gives the value move on if one of them does. -/
theorem Parser.skipLeft_moves {α β : Type} {p : Parser α} {q : Parser β}
    (hp : p.Forward fuel) (hq : q.Forward fuel) (h : p.Moves fuel ∨ q.Moves fuel) :
    (p.skipLeft q).Moves fuel := by
  rw [skipLeft_eq_chain]
  rcases h with hmoves | hmoves
  · exact hmoves.chain fun _ => hq
  · exact hp.chain_moves fun _ => hmoves

mutual

/-- A grammar that may not be empty moves on. -/
theorem Grammar.moves (hr : ∀ name, (r name).Forward fuel) :
    ∀ g : Grammar, g.mayBeEmpty = false → (g.denote r).Moves fuel
  | .literal expected, h => by
    have hne : expected ≠ "" := by simpa [Grammar.mayBeEmpty] using h
    exact (literal_moves hne).map _
  | .matcher _, h => (Matcher.moves h).map _
  | .sequence parts, h => (Grammar.sequence_moves hr parts h).map _
  | .choice alternatives, h => choice_moves (Grammar.moves_of_any hr alternatives h)
  | .many1 item, h => (Grammar.moves hr item h).many1.map _
  | .sepBy1 separator item, h => by
    have hmoves := Grammar.moves hr item h
    exact (hmoves.sepBy1 (Grammar.forward hr separator) (Grammar.forward hr item)).map _
  | .between left right content, h => by
    simp only [Grammar.mayBeEmpty, Bool.and_eq_false_iff] at h
    have hleft := Grammar.forward hr left
    have hcontent := Grammar.forward hr content
    have hinner : ((left.denote r).skipLeft (content.denote r)).Forward fuel := by
      intro start
      exact (hleft start).skipLeft (hcontent start)
    apply Moves.map
    apply followedBy_moves hinner (Grammar.forward hr right)
    rcases h with (h | h) | h
    · exact .inl (skipLeft_moves hleft hcontent (.inl (Grammar.moves hr left h)))
    · exact .inl (skipLeft_moves hleft hcontent (.inr (Grammar.moves hr content h)))
    · exact .inr (Grammar.moves hr right h)
  | .fail message, _ => fail_moves message
  | .followedBy first second, h | .skip first second, h => by
    simp only [Grammar.mayBeEmpty, Bool.and_eq_false_iff] at h
    have hmoves := h.imp (Grammar.moves hr first) (Grammar.moves hr second)
    exact (followedBy_moves (Grammar.forward hr first) (Grammar.forward hr second) hmoves).map _
  | .skipLeft first second, h => by
    simp only [Grammar.mayBeEmpty, Bool.and_eq_false_iff] at h
    have hmoves := h.imp (Grammar.moves hr first) (Grammar.moves hr second)
    exact skipLeft_moves (Grammar.forward hr first) (Grammar.forward hr second) hmoves
  | .label item _, h | .reword item _, h => (Grammar.moves hr item h).reword _
  | .map item _, h => (Grammar.moves hr item h).map _
  | .chain item next, h =>
    (Grammar.moves hr item h).chain fun value => Grammar.forward hr (next value)
  | .delay item, h => Grammar.moves hr item h

/-- A sequence moves on if one of its parts may not be empty. -/
theorem Grammar.sequence_moves (hr : ∀ name, (r name).Forward fuel) :
    ∀ gs : List Grammar, Grammar.allMayBeEmpty gs = false →
      (Parser.sequence (Grammar.denoteAll r gs)).Moves fuel
  | item :: rest, h => by
    simp only [Grammar.allMayBeEmpty, Bool.and_eq_false_iff] at h
    have hforward := Grammar.sequence_forward hr rest
    rw [Grammar.denoteAll, sequence_cons]
    rcases h with hitem | hrest
    · have hmoves := Grammar.moves hr item hitem
      exact hmoves.chain fun _ start => (hforward start).map _
    · have hmoves := Grammar.sequence_moves hr rest hrest
      exact (Grammar.forward hr item).chain_moves fun _ => hmoves.map _

/-- Alternatives move on if none of them may be empty. -/
theorem Grammar.moves_of_any (hr : ∀ name, (r name).Forward fuel) :
    ∀ gs : List Grammar, Grammar.anyMayBeEmpty gs = false →
      ∀ p ∈ Grammar.denoteAll r gs, p.Moves fuel
  | [], _ => fun _ hp => by cases hp
  | item :: rest, h => by
    simp only [Grammar.anyMayBeEmpty, Bool.or_eq_false_iff] at h
    intro p hp
    rcases List.mem_cons.1 hp with rfl | hmem
    · exact Grammar.moves hr item h.1
    · exact Grammar.moves_of_any hr rest h.2 p hmem

end

end ParserCombinators
