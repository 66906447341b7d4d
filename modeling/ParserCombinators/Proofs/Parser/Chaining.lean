import ParserCombinators.Proofs.Parser.Transition

/-!
# Sequencing is chaining

Chaining is associative, and succeeding at once is neutral on both sides. All ways to run one parser
after another are chains: mapping is a chain that ends by succeeding, and pairs, skipping and
delimiting put chains together. An optional parser is a choice between a value and none. The parsers
on both sides of each law are equal, so they answer alike from every state, a failed one included.
-/

namespace ParserCombinators.Parser

variable {α β γ δ : Type}

section Laws

/-- Succeeding after a parser changes nothing. -/
theorem chain_success (p : Parser α) : p.chain success = p := by
  apply eq_of_transition
  intro fuel pos
  rw [chain_transition]
  cases p.transition fuel pos with
  | done state =>
    cases state with
    | succeed next value => rfl
    | fail next e => rfl
  | offBoundary => rfl
  | exhausted => rfl

/-- Succeeding with a value and going on is going on with the value. -/
theorem success_chain (value : α) (f : α → Parser β) : (success value).chain f = f value := rfl

/-- Of three parsers in a row the first two or the last two may be chained first. -/
theorem chain_assoc (p : Parser α) (f : α → Parser β) (g : β → Parser γ) :
    (p.chain f).chain g = p.chain fun value => (f value).chain g := by
  apply eq_of_transition
  intro fuel pos
  rw [chain_transition, chain_transition, chain_transition]
  cases p.transition fuel pos with
  | done state =>
    cases state with
    | succeed next value => rfl
    | fail next e => rfl
  | offBoundary => rfl
  | exhausted => rfl

/-- Mapping is a chain that ends by succeeding. -/
theorem map_eq_chain (p : Parser α) (f : α → β) :
    p.map f = p.chain fun value => success (f value) := by
  apply eq_of_transition
  intro fuel pos
  rw [map_transition, chain_transition]
  cases p.transition fuel pos with
  | done state =>
    cases state with
    | succeed next value => rfl
    | fail next e => rfl
  | offBoundary => rfl
  | exhausted => rfl

end Laws

section Rows

/-- Mapping to the same value changes nothing. -/
theorem map_same (p : Parser α) : (p.map fun value => value) = p := by
  rw [map_eq_chain]
  exact chain_success p

/-- A chain behind a mapped parser. -/
theorem chain_map (p : Parser α) (f : α → β) (g : β → Parser γ) :
    (p.map f).chain g = p.chain fun value => g (f value) := by
  rw [map_eq_chain, chain_assoc]
  rfl

/-- Mapping twice. -/
theorem map_map (p : Parser α) (f : α → β) (g : β → γ) :
    (p.map f).map g = p.map fun value => g (f value) := by
  rw [map_eq_chain (p.map f), chain_map, map_eq_chain]

/-- The values of a chain are those of its last parser. -/
theorem map_chain (p : Parser α) (f : α → Parser β) (g : β → γ) :
    (p.chain f).map g = p.chain fun value => (f value).map g := by
  rw [map_eq_chain, chain_assoc]
  congr 1
  funext value
  rw [map_eq_chain]

/-- Skipping what follows is a chain. -/
theorem skip_eq_chain (p : Parser α) (q : Parser β) :
    p.skip q = p.chain fun first => q.map fun _ => first := by
  rw [skip, followedBy_eq_chain, map_chain]
  congr 1
  funext first
  rw [map_map]

/-- Delimiting is a chain. -/
theorem between_eq_chain (left : Parser α) (right : Parser β) (content : Parser γ) :
    between left right content =
      left.chain fun _ => content.chain fun value => right.map fun _ => value := by
  rw [between, skip_eq_chain, skipLeft_eq_chain, chain_assoc]

/-- An optional parser is a choice between a value and none. -/
theorem optional_eq_choice (p : Parser α) : p.optional = choice [p.map some, success none] := by
  apply eq_of_transition
  intro fuel pos
  rw [optional_transition, choice, choice, orElse_transition, map_transition]
  cases p.transition fuel pos with
  | done state =>
    cases state with
    | succeed next value => rfl
    | fail next e => rfl
  | offBoundary => rfl
  | exhausted => rfl

end Rows

/-- From every state, failed or not, each way of running parsers in a row answers as the chain that
it stands for, chains answer alike however they are grouped, and an optional parser answers as a
choice. -/
theorem chain_laws (p : Parser α) (q : Parser β) (r : Parser γ) (f : α → Parser β)
    (g : β → Parser γ) (h : α → β) (value : α) (fuel : Nat) (start : State δ) :
    (p.chain success).apply fuel start = p.apply fuel start ∧
    ((success value).chain f).apply fuel start = (f value).apply fuel start ∧
    ((p.chain f).chain g).apply fuel start =
      (p.chain fun first => (f first).chain g).apply fuel start ∧
    (p.map h).apply fuel start = (p.chain fun first => success (h first)).apply fuel start ∧
    (p.followedBy q).apply fuel start =
      (p.chain fun first => q.map fun second => (first, second)).apply fuel start ∧
    (p.skip q).apply fuel start = (p.chain fun first => q.map fun _ => first).apply fuel start ∧
    (p.skipLeft q).apply fuel start = (p.chain fun _ => q).apply fuel start ∧
    (between p q r).apply fuel start =
      (p.chain fun _ => r.chain fun content => q.map fun _ => content).apply fuel start ∧
    p.optional.apply fuel start = (choice [p.map some, success none]).apply fuel start := by
  refine ⟨?_, ?_, ?_, ?_, ?_, ?_, ?_, ?_, ?_⟩
  · rw [chain_success]
  · rw [success_chain]
  · rw [chain_assoc]
  · rw [map_eq_chain]
  · rw [followedBy_eq_chain]
  · rw [skip_eq_chain]
  · rw [skipLeft_eq_chain]
  · rw [between_eq_chain]
  · rw [optional_eq_choice]

end ParserCombinators.Parser
