import Mathlib.Data.Finset.Card
import Mathlib.Data.List.Basic
import Mathlib.Logic.Relation
import ParserCombinators.Proofs.Grammar.Progress
import ParserCombinators.Proofs.Parser.Ending

/-!
# Guarded recursion ends

A rule is entered again without having read anything only through the head positions of rule
bodies. If no rule reaches itself that way, every run ends: inside a rule either the number of
bytes left has become smaller, or the rule in a head position has fewer rules that it reaches in
this way, and there are no more of those than there are rules. Repetitions end because a round
that reads nothing is their last.

The fuel that a run is given suffices for this, and more fuel gives the same answer.
-/

namespace ParserCombinators

open ParserCombinators.Parser

mutual

/-- The grammar refers to the rule. -/
def Grammar.RefersTo (name : String) : Grammar → Prop
  | .literal _ => False
  | .pattern _ _ => False
  | .matcher _ => False
  | .sequence parts => Grammar.AnyRefersTo name parts
  | .choice alternatives => Grammar.AnyRefersTo name alternatives
  | .many item => item.RefersTo name
  | .many1 item => item.RefersTo name
  | .sepBy separator item => separator.RefersTo name ∨ item.RefersTo name
  | .sepBy1 separator item => separator.RefersTo name ∨ item.RefersTo name
  | .between left right content =>
    left.RefersTo name ∨ content.RefersTo name ∨ right.RefersTo name
  | .optional item => item.RefersTo name
  | .success _ => False
  | .fail _ => False
  | .followedBy first second => first.RefersTo name ∨ second.RefersTo name
  | .skip first second => first.RefersTo name ∨ second.RefersTo name
  | .skipLeft first second => first.RefersTo name ∨ second.RefersTo name
  | .label item _ => item.RefersTo name
  | .map item _ => item.RefersTo name
  | .chain item next => item.RefersTo name ∨ ∃ value, (next value).RefersTo name
  | .reword item _ => item.RefersTo name
  | .delay item => item.RefersTo name
  | .rule other => other = name

/-- Some grammar of a list refers to the rule. -/
def Grammar.AnyRefersTo (name : String) : List Grammar → Prop
  | [] => False
  | item :: rest => item.RefersTo name ∨ Grammar.AnyRefersTo name rest

end

mutual

/-- The grammar refers to the rule in a head position, that is where it can be run before
anything was read. -/
def Grammar.RefersAtHead (name : String) : Grammar → Prop
  | .literal _ => False
  | .pattern _ _ => False
  | .matcher _ => False
  | .sequence parts => Grammar.RowRefersAtHead name parts
  | .choice alternatives => Grammar.AnyRefersAtHead name alternatives
  | .many item => item.RefersAtHead name
  | .many1 item => item.RefersAtHead name
  | .sepBy separator item =>
    item.RefersAtHead name ∨ item.mayBeEmpty = true ∧ separator.RefersAtHead name
  | .sepBy1 separator item =>
    item.RefersAtHead name ∨ item.mayBeEmpty = true ∧ separator.RefersAtHead name
  | .between left right content =>
    left.RefersAtHead name ∨ left.mayBeEmpty = true ∧
      (content.RefersAtHead name ∨ content.mayBeEmpty = true ∧ right.RefersAtHead name)
  | .optional item => item.RefersAtHead name
  | .success _ => False
  | .fail _ => False
  | .followedBy first second =>
    first.RefersAtHead name ∨ first.mayBeEmpty = true ∧ second.RefersAtHead name
  | .skip first second =>
    first.RefersAtHead name ∨ first.mayBeEmpty = true ∧ second.RefersAtHead name
  | .skipLeft first second =>
    first.RefersAtHead name ∨ first.mayBeEmpty = true ∧ second.RefersAtHead name
  | .label item _ => item.RefersAtHead name
  | .map item _ => item.RefersAtHead name
  | .chain item next =>
    item.RefersAtHead name ∨ item.mayBeEmpty = true ∧ ∃ value, (next value).RefersAtHead name
  | .reword item _ => item.RefersAtHead name
  | .delay item => item.RefersAtHead name
  | .rule other => other = name

/-- A sequence of grammars refers to the rule in a head position. -/
def Grammar.RowRefersAtHead (name : String) : List Grammar → Prop
  | [] => False
  | item :: rest =>
    item.RefersAtHead name ∨ item.mayBeEmpty = true ∧ Grammar.RowRefersAtHead name rest

/-- Some grammar of a list refers to the rule in a head position. -/
def Grammar.AnyRefersAtHead (name : String) : List Grammar → Prop
  | [] => False
  | item :: rest => item.RefersAtHead name ∨ Grammar.AnyRefersAtHead name rest

end

/-- The body of a rule refers to another rule in a head position. -/
def Rules.RefersAtHead (rules : Rules) (name other : String) : Prop :=
  ∃ body, rules.lookup name = some body ∧ body.RefersAtHead other

/-- All rules that are referred to exist, and no rule reaches itself through head positions. -/
structure Rules.Guarded (rules : Rules) : Prop where
  defined : ∀ name body other, rules.lookup name = some body → body.RefersTo other →
    (rules.lookup other).isSome
  acyclic : ∀ name, ¬ Relation.TransGen rules.RefersAtHead name name

/-- Sums of numbers and of sums in parentheses. -/
def Rules.sums : Rules :=
  [("sum", .sepBy1 (.literal "+") (.rule "term")),
    ("term", .choice [.between (.literal "(") (.literal ")") (.rule "sum"), .matcher .digits])]

/-- The rules of sums are the two for sums and terms. -/
theorem Rules.lookup_sums {name : String} {body : Grammar}
    (h : Rules.sums.lookup name = some body) :
    name = "sum" ∧ body = .sepBy1 (.literal "+") (.rule "term") ∨
      name = "term" ∧ body = .choice [.between (.literal "(") (.literal ")") (.rule "sum"),
        .matcher .digits] := by
  simp only [sums, List.lookup_cons, List.lookup_nil] at h
  split at h
  · next hname => exact .inl ⟨by simpa using hname, (Option.some.inj h).symm⟩
  · split at h
    · next hname => exact .inr ⟨by simpa using hname, (Option.some.inj h).symm⟩
    · cases h

/-- Only a sum refers to a rule in a head position, to the one for terms. -/
theorem Rules.refersAtHead_sums {name other : String} (h : Rules.sums.RefersAtHead name other) :
    name = "sum" ∧ other = "term" := by
  obtain ⟨body, hbody, hhead⟩ := h
  rcases Rules.lookup_sums hbody with ⟨rfl, rfl⟩ | ⟨_, rfl⟩
  · have hterm : "term" = other := by simpa [Grammar.RefersAtHead] using hhead
    exact ⟨rfl, hterm.symm⟩
  · simp [Grammar.RefersAtHead, Grammar.AnyRefersAtHead, Grammar.mayBeEmpty] at hhead

/-- Sums are guarded: a sum begins with a term, and a term reads a parenthesis before a sum. -/
theorem Rules.guarded_sums : Rules.sums.Guarded := by
  constructor
  · intro name body other hbody href
    rcases Rules.lookup_sums hbody with ⟨_, rfl⟩ | ⟨_, rfl⟩
    · have hother : "term" = other := by simpa [Grammar.RefersTo] using href
      subst hother
      rfl
    · have hother : "sum" = other := by simpa [Grammar.RefersTo, Grammar.AnyRefersTo] using href
      subst hother
      rfl
  · intro name hcycle
    obtain ⟨other, hhead, hrest⟩ := Relation.TransGen.head'_iff.1 hcycle
    obtain ⟨rfl, rfl⟩ := Rules.refersAtHead_sums hhead
    rcases Relation.ReflTransGen.cases_head hrest with heq | ⟨last, hterm, _⟩
    · exact absurd heq (by decide)
    · exact absurd (Rules.refersAtHead_sums hterm).1 (by decide)

variable {r : String → Parser Value} {fuel : Nat} {pos : Position}

/-- Named matchers end. -/
theorem Matcher.ends (named : Matcher) : named.parser.EndsAt fuel pos := by
  cases named with
  | letters => exact onRemainder_ends _
  | digits => exact onRemainder_ends _
  | lettersOrDigits => exact onRemainder_ends _
  | floatingPoint => exact onRemainder_ends _
  | whitespace => exact onRemainder_ends _
  | optionalWhitespace => exact (EndsAt.optional (onRemainder_ends _)).map _

/-- What a run from the place asks of the parsers of the rules that it may enter. -/
structure Grammar.Ready (r : String → Parser Value) (fuel : Nat) (referred head : String → Prop)
    (pos : Position) : Prop where
  rounds : byteLength pos.input < fuel
  /-- Only a rule in a head position has to end at the place itself. -/
  rule : ∀ name next, referred name → pos.Follows next → (next.index = pos.index → head name) →
    (r name).EndsAt fuel next

namespace Grammar

section Ready

variable {referred head referred' head' : String → Prop} {next : Position}

/-- What a run asks of the rules it also asks of them for its parts further on. -/
theorem Ready.later (h : Ready r fuel referred head pos) (hnext : pos.Follows next)
    (hreferred : ∀ name, referred' name → referred name)
    (hhead : next.index = pos.index → ∀ name, head' name → head name) :
    Ready r fuel referred' head' next := by
  refine ⟨hnext.input ▸ h.rounds, ?_⟩
  intro name last href hlast hstay
  apply h.rule name last (hreferred name href) (hnext.trans hlast)
  intro hindex
  -- nothing was read up to the last place, so nothing was read up to the next one either
  have hle := hnext.index_le
  have hle' := hlast.index_le
  have hnext : next.index = pos.index := by omega
  exact hhead hnext name (hstay (by omega))

/-- A run may be repeated further on. -/
theorem Ready.again (h : Ready r fuel referred head pos) (hnext : pos.Follows next) :
    Ready r fuel referred head next :=
  h.later hnext (fun _ href => href) fun _ _ hhead => hhead

/-- A run that enters fewer rules asks for less. -/
theorem Ready.narrow (h : Ready r fuel referred head pos)
    (hreferred : ∀ name, referred' name → referred name)
    (hhead : ∀ name, head' name → head name) : Ready r fuel referred' head' pos :=
  h.later (Position.Follows.refl pos) hreferred fun _ => hhead

variable {empty : Prop}

/-- The first of two parts starts where the whole does. -/
theorem Ready.first
    (h : Ready r fuel (fun name => referred name ∨ referred' name)
      (fun name => head name ∨ empty ∧ head' name) pos) : Ready r fuel referred head pos :=
  h.narrow (fun _ href => .inl href) fun _ hhead => .inl hhead

/-- The second of two parts starts there too only if the first may be empty. -/
theorem Ready.second
    (h : Ready r fuel (fun name => referred name ∨ referred' name)
      (fun name => head name ∨ empty ∧ head' name) pos) (hnext : pos.Follows next)
    (hstay : next.index = pos.index → empty) : Ready r fuel referred' head' next :=
  h.later hnext (fun _ href => .inr href) fun hindex _ hhead => .inr ⟨hstay hindex, hhead⟩

end Ready

/-- A grammar that succeeds where it started may be empty. -/
theorem mayBeEmpty_of_stay (hr : ∀ name, (r name).Forward fuel) {item : Grammar}
    {next : Position} {value : Value}
    (hrun : (item.denote r).transition fuel pos = .done (next.succeed value))
    (hstay : next.index = pos.index) : item.mayBeEmpty = true := by
  by_contra hempty
  have hfalse : item.mayBeEmpty = false := by simpa using hempty
  have hmoved : pos.index < next.index := Grammar.moves hr item hfalse pos _ hrun rfl
  omega

/-- A chain ends if its second parsers end at places further on and, if the first grammar may be
empty, where it started. -/
theorem chain_ends (hr : ∀ name, (r name).Forward fuel) {item : Grammar} {β : Type}
    {f : Value → Parser β} (hitem : (item.denote r).EndsAt fuel pos)
    (hf : ∀ value next, pos.Follows next → (next.index = pos.index → item.mayBeEmpty = true) →
      (f value).EndsAt fuel next) : ((item.denote r).chain f).EndsAt fuel pos := by
  apply hitem.chain
  intro value next hrun
  have hnext : pos.Follows next := (Grammar.forward hr item).follows pos _ hrun
  exact hf value next hnext (mayBeEmpty_of_stay hr hrun)

/-- Two parsers in a row end under the same conditions. -/
theorem followedBy_ends (hr : ∀ name, (r name).Forward fuel) {item : Grammar} {β : Type}
    {q : Parser β} (hitem : (item.denote r).EndsAt fuel pos)
    (hq : ∀ next, pos.Follows next → (next.index = pos.index → item.mayBeEmpty = true) →
      q.EndsAt fuel next) : ((item.denote r).followedBy q).EndsAt fuel pos := by
  rw [followedBy_eq_chain]
  apply chain_ends hr hitem
  intro value next hnext hstay
  exact (hq next hnext hstay).map _

/-- A separated list ends if its separators and values do. Only separators behind a first value
that may be empty are in a head position. -/
theorem separated_ends (hr : ∀ name, (r name).Forward fuel) {separator item : Grammar}
    (hseparator : ∀ {next : Position}, Ready r fuel (fun name => separator.RefersTo name)
      (fun name => separator.RefersAtHead name) next → (separator.denote r).EndsAt fuel next)
    (hitem : ∀ {next : Position}, Ready r fuel (fun name => item.RefersTo name)
      (fun name => item.RefersAtHead name) next → (item.denote r).EndsAt fuel next)
    (h : Ready r fuel (fun name => (Grammar.sepBy separator item).RefersTo name)
      (fun name => (Grammar.sepBy separator item).RefersAtHead name) pos) :
    separated (separator.denote r) (item.denote r) fuel pos ≠ .exhausted := by
  have hvalue : ∀ next, pos.Follows next → (item.denote r).EndsAt fuel next := by
    intro next hnext
    exact hitem (h.later hnext (fun _ href => .inr href) fun _ _ hhead => .inl hhead)
  have hfirst := hvalue pos (Position.Follows.refl pos)
  apply Parser.separated_ends (Grammar.forward hr separator) (Grammar.forward hr item) hfirst
  · intro value first next hrun hnext
    have hpos : pos.Follows first := (Grammar.forward hr item).follows pos _ hrun
    have hle := hpos.index_le
    have hle' := hnext.index_le
    refine ⟨hseparator (h.later (hpos.trans hnext) (fun _ href => .inl href) ?_),
      hvalue next (hpos.trans hnext)⟩
    intro hindex name hhead
    have hempty := mayBeEmpty_of_stay hr hrun (by omega)
    exact .inr ⟨hempty, hhead⟩
  · exact h.rounds

mutual

/-- A grammar ends at a place where its rules do as far as it may enter them. -/
theorem ends (hr : ∀ name, (r name).Forward fuel) : ∀ (g : Grammar) {pos : Position},
    Ready r fuel (fun name => g.RefersTo name) (fun name => g.RefersAtHead name) pos →
      (g.denote r).EndsAt fuel pos
  | .literal _, _, _ => (onRemainder_ends _).map _
  | .pattern _ _, _, _ => (onRemainder_ends _).map _
  | .matcher named, _, _ => (Matcher.ends named).map _
  | .sequence parts, _, h => (sequence_ends hr parts h).map _
  | .choice alternatives, _, h => choice_ends (alternatives_end hr alternatives h)
  | .many item, _, h => by
    have hforward := Grammar.forward hr item
    exact (many_ends hforward (fun _ hnext => ends hr item (h.again hnext)) h.rounds).map _
  | .many1 item, _, h => by
    have hforward := Grammar.forward hr item
    exact (many1_ends hforward (fun _ hnext => ends hr item (h.again hnext)) h.rounds).map _
  | .sepBy separator item, _, h => by
    have hends := separated_ends hr (ends hr separator) (ends hr item) h
    exact (sepBy_ends hends).map _
  | .sepBy1 separator item, _, h => by
    have hends := separated_ends hr (ends hr separator) (ends hr item) h
    exact (sepBy1_ends hends).map _
  | .between left right content, pos, h => by
    have hinner : ((Grammar.skipLeft left content).denote r).EndsAt fuel pos := by
      apply chain_ends hr (ends hr left h.first)
      intro _ next hnext hstay
      exact ends hr content (h.second hnext hstay).first
    apply EndsAt.map
    apply followedBy_ends hr hinner
    intro next hnext hstay
    apply ends hr right
    apply h.later hnext (fun _ href => .inr (.inr href))
    intro hindex name hhead
    have hempty : left.mayBeEmpty = true ∧ content.mayBeEmpty = true := by
      simpa [mayBeEmpty] using hstay hindex
    exact .inr ⟨hempty.1, .inr ⟨hempty.2, hhead⟩⟩
  | .optional item, _, h => (ends hr item h).optional.map _
  | .success _, _, _ => ofFunction_ends _
  | .fail _, _, _ => ofFunction_ends _
  | .followedBy first second, _, h | .skip first second, _, h => by
    apply EndsAt.map
    apply followedBy_ends hr (ends hr first h.first)
    intro next hnext hstay
    exact ends hr second (h.second hnext hstay)
  | .skipLeft first second, _, h => by
    apply chain_ends hr (ends hr first h.first)
    intro _ next hnext hstay
    exact ends hr second (h.second hnext hstay)
  | .label item _, _, h | .reword item _, _, h => (ends hr item h).reword _
  | .map item _, _, h => (ends hr item h).map _
  | .chain item choose, _, h => by
    apply chain_ends hr (ends hr item h.first)
    intro value next hnext hstay
    have hchosen := (h.second hnext hstay).narrow (fun _ href => ⟨value, href⟩)
      fun _ hhead => ⟨value, hhead⟩
    exact ends hr (choose value) hchosen
  | .delay item, _, h => ends hr item h
  | .rule name, pos, h => h.rule name pos rfl (Position.Follows.refl pos) fun _ => rfl

/-- A sequence of grammars ends likewise. -/
theorem sequence_ends (hr : ∀ name, (r name).Forward fuel) :
    ∀ (gs : List Grammar) {pos : Position},
      Ready r fuel (fun name => AnyRefersTo name gs) (fun name => RowRefersAtHead name gs) pos →
        (Parser.sequence (denoteAll r gs)).EndsAt fuel pos
  | [], _, _ => ofFunction_ends _
  | item :: rest, _, h => by
    rw [denoteAll, sequence_cons]
    apply chain_ends hr (ends hr item h.first)
    intro value next hnext hstay
    exact (sequence_ends hr rest (h.second hnext hstay)).map _

/-- All grammars of a list end likewise. -/
theorem alternatives_end (hr : ∀ name, (r name).Forward fuel) :
    ∀ (gs : List Grammar) {pos : Position},
      Ready r fuel (fun name => AnyRefersTo name gs) (fun name => AnyRefersAtHead name gs) pos →
        ∀ p ∈ denoteAll r gs, p.EndsAt fuel pos
  | [], _, _ => fun _ hp => by cases hp
  | item :: rest, _, h => by
    intro p hp
    rcases List.mem_cons.1 hp with rfl | hmem
    · exact ends hr item (h.narrow (fun _ href => .inl href) fun _ hhead => .inl hhead)
    · have hrest := h.narrow (fun _ href => .inr href) fun _ hhead => .inr hhead
      exact alternatives_end hr rest hrest p hmem

end

end Grammar

namespace Rules

variable {rules : Rules} {name other : String}

/-- The names of the rules. -/
def names (rules : Rules) : Finset String :=
  (rules.map Prod.fst).toFinset

/-- A name is one of a rule if a rule is found under it. -/
theorem mem_names : name ∈ rules.names ↔ (rules.lookup name).isSome := by
  rw [names, List.mem_toFinset, List.mem_map, List.lookup_isSome_iff]
  simp only [beq_iff_eq, eq_comm (a := name)]

open Classical in
/-- The rules that a rule reaches through head positions, itself included. -/
noncomputable def reached (rules : Rules) (name : String) : Finset String :=
  rules.names.filter (Relation.ReflTransGen rules.RefersAtHead name)

/-- The number of rules that a rule reaches through head positions. -/
noncomputable def rank (rules : Rules) (name : String) : Nat :=
  (rules.reached name).card

/-- What it means to be reached. -/
theorem mem_reached : other ∈ rules.reached name ↔
    (rules.lookup other).isSome ∧ Relation.ReflTransGen rules.RefersAtHead name other := by
  classical
  rw [reached, Finset.mem_filter, mem_names]

/-- Every rule reaches itself. -/
theorem mem_reached_self (h : (rules.lookup name).isSome) : name ∈ rules.reached name :=
  mem_reached.2 ⟨h, .refl⟩

/-- A rule reaches at least one rule. -/
theorem rank_pos (h : (rules.lookup name).isSome) : 0 < rules.rank name :=
  Finset.card_pos.2 ⟨name, mem_reached_self h⟩

/-- A rule reaches no more rules than there are. -/
theorem rank_le (rules : Rules) (name : String) : rules.rank name ≤ rules.length :=
  calc rules.rank name
    _ ≤ rules.names.card :=
      Finset.card_le_card fun _ hother => mem_names.2 (mem_reached.1 hother).1
    _ ≤ (rules.map Prod.fst).length := List.toFinset_card_le _
    _ = rules.length := List.length_map _

/-- A rule in a head position of another reaches fewer rules, unless the other reaches itself. -/
theorem rank_lt (hacyclic : ¬ Relation.TransGen rules.RefersAtHead name name)
    (h : rules.RefersAtHead name other) : rules.rank other < rules.rank name := by
  have hname : (rules.lookup name).isSome := by
    obtain ⟨body, hbody, _⟩ := h
    simp [hbody]
  refine Finset.card_lt_card (Finset.ssubset_iff_subset_ne.2 ⟨?_, fun heq => ?_⟩)
  · intro last hlast
    obtain ⟨hlookup, hreach⟩ := mem_reached.1 hlast
    exact mem_reached.2 ⟨hlookup, .head h hreach⟩
  · have hmem : name ∈ rules.reached other := heq ▸ mem_reached_self hname
    exact hacyclic (.head' h (mem_reached.1 hmem).2)

/-- Unfolding a rule often enough ends: each unfolding inside another one is either further on or
of a rule that reaches fewer rules. -/
theorem unfold_ends (h : rules.Guarded) (n : Nat) (hname : (rules.lookup name).isSome)
    (hrounds : byteLength pos.input < fuel)
    (hn : (byteLength pos.input - pos.index) * rules.length + rules.rank name ≤ n) :
    (rules.unfold n name).EndsAt fuel pos := by
  have hpos := rank_pos hname
  induction n generalizing name pos with
  | zero => omega
  | succ n ih =>
    obtain ⟨body, hbody⟩ := Option.isSome_iff_exists.1 hname
    simp only [unfold, hbody]
    refine Grammar.ends (rules.unfold_forward n) body ⟨hrounds, ?_⟩
    intro other next href hnext hstay
    have hother := h.defined name body other hbody href
    refine ih hother (hnext.input ▸ hrounds) ?_ (rank_pos hother)
    by_cases hindex : next.index = pos.index
    · have hrank := rank_lt (h.acyclic name) ⟨body, hbody, hstay hindex⟩
      rw [hnext.input, hindex]
      omega
    · have hrank := rules.rank_le other
      have hless := Nat.mul_le_mul_right rules.length (hnext.remaining_lt hindex)
      rw [Nat.succ_mul] at hless
      omega

/-- The fuel of a text covers its unfoldings. -/
theorem unfoldings_le_fuel (rules : Rules) (name : String) (input : Text) (index : Nat) :
    (byteLength input - index) * rules.length + rules.rank name ≤ rules.fuel input := by
  have hrank := rules.rank_le name
  have hmul : (byteLength input - index) * rules.length ≤ byteLength input * rules.length :=
    Nat.mul_le_mul_right _ (Nat.sub_le _ _)
  calc (byteLength input - index) * rules.length + rules.rank name
    _ ≤ byteLength input * rules.length + rules.length := Nat.add_le_add hmul hrank
    _ = rules.length * (byteLength input + 1) := by rw [Nat.mul_succ, Nat.mul_comm]
    _ ≤ rules.fuel input := Nat.mul_le_mul (Nat.le_succ _) (Nat.le_succ _)

/-- The fuel of a text covers the rounds of a repetition. -/
theorem length_lt_fuel (rules : Rules) (input : Text) : byteLength input < rules.fuel input :=
  calc byteLength input
    _ < byteLength input + 2 := Nat.lt_add_of_pos_right (Nat.succ_pos 1)
    _ ≤ rules.fuel input := Nat.le_mul_of_pos_left _ (Nat.succ_pos _)

/-- A rule ends with the fuel of the text. -/
theorem parser_ends (rules : Rules) (h : rules.Guarded) (hname : (rules.lookup name).isSome)
    (pos : Position) : (rules.parser name).EndsAt (rules.fuel pos.input) pos :=
  unfold_ends h _ hname (rules.length_lt_fuel pos.input)
    (rules.unfoldings_le_fuel name pos.input pos.index)

end Rules

/-- A run of a grammar whose rules exist and are guarded ends, from every state, and its answer is
the one that any more fuel gives. -/
theorem Grammar.apply_ends {rules : Rules} (hrules : rules.Guarded) {g : Grammar}
    (hg : ∀ name, g.RefersTo name → (rules.lookup name).isSome) {α : Type} (state : State α) :
    g.apply rules state ≠ .exhausted ∧
      ∀ fuel, rules.fuel state.input ≤ fuel →
        (g.parser rules).apply fuel state = g.apply rules state := by
  have hends : g.apply rules state ≠ .exhausted := by
    cases state with
    | fail pos e => simp [Grammar.apply, Parser.apply, State.andThen, Position.fail]
    | succeed pos value =>
      refine Grammar.ends (r := rules.parser) (rules.unfold_forward _) g
        ⟨rules.length_lt_fuel pos.input, ?_⟩
      intro name next href hnext _
      have hinput : next.input = pos.input := hnext.input
      exact hinput ▸ rules.parser_ends hrules (hg name href) next
  refine ⟨hends, fun fuel hfuel => Run.Le.eq (andThen_le fun _ pos => ?_) hends⟩
  exact (g.parser rules).stable _ _ pos hfuel

/-- A sum with a sum in parentheses in front ends. -/
theorem Grammar.apply_ends_sums :
    Rules.sums.Guarded ∧
      (Grammar.rule "sum").apply Rules.sums (State.initial "(1+23)+4".toList) ≠ .exhausted :=
  ⟨Rules.guarded_sums, (Grammar.apply_ends Rules.guarded_sums (g := .rule "sum")
    (fun name h => by cases h; rfl) (State.initial "(1+23)+4".toList)).1⟩

end ParserCombinators
