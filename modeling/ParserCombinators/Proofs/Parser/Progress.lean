import ParserCombinators.Proofs.Parser.Reading

/-!
# Moving on

A parser is forward if it never goes back and never beyond the end of the text; looking at the
text is forward whatever is looked for. A parser moves if it goes on whenever it succeeds; a
sequence moves if one part of it does and the others are forward.
-/

namespace ParserCombinators

/-- Places of the same text that are not behind the start and, unless the start already is, not
beyond the end. -/
structure Position.Follows (start pos : Position) : Prop where
  input : pos.input = start.input
  index_le : start.index ≤ pos.index
  le_max : pos.index ≤ max start.index (byteLength start.input)

namespace Position.Follows

/-- Every place follows itself. -/
theorem refl (pos : Position) : pos.Follows pos :=
  ⟨rfl, Nat.le_refl _, Nat.le_max_left _ _⟩

/-- What follows a place that follows the start follows the start. -/
theorem trans {start pos next : Position} (h : start.Follows pos) (h' : pos.Follows next) :
    start.Follows next := by
  have hmax := h'.le_max
  have hle := h.le_max
  rw [h.input] at hmax
  exact ⟨h'.input.trans h.input, Nat.le_trans h.index_le h'.index_le, by omega⟩

/-- A place that was left lies inside the text, so fewer bytes remain behind it. -/
theorem remaining_lt {start pos : Position} (h : start.Follows pos)
    (hmoved : pos.index ≠ start.index) :
    byteLength pos.input - pos.index < byteLength start.input - start.index := by
  have hle := h.index_le
  have hmax := h.le_max
  rw [h.input]
  omega

/-- Moving on by the length of a part of what follows. -/
theorem ahead {start pos : Position} {text part : Text} (h : start.Follows pos)
    (hrest : pos.remainder? = some text) (hpart : part <:+: text) :
    start.Follows (pos.ahead (byteLength part)) := by
  obtain ⟨before, hinput, hindex⟩ := dropBytes?_eq_some_iff.1 hrest
  obtain ⟨left, right, htext⟩ := hpart
  have hle := h.index_le
  have hlength := congrArg byteLength hinput
  rw [h.input, ← htext, byteLength_append, byteLength_append, byteLength_append] at hlength
  refine ⟨h.input, ?_, ?_⟩
  · rw [Position.ahead_index]
    omega
  · rw [Position.ahead_index]
    omega

end Position.Follows

/-- Places that follow the start correspond to themselves, and runs may fault. -/
def Correspondence.forwardFrom (start : Position) : Correspondence :=
  keeping start.Follows True

/-- Looking at the text never leads back or beyond its end. -/
theorem forwardFrom_readable (start : Position) :
    (Correspondence.forwardFrom start).Readable fun _ => True := by
  apply Correspondence.keeping_readable
  · intro _ _ _
    trivial
  · intro pos text part hfollows hrest hpart
    exact hfollows.ahead hrest hpart.isInfix
  · intro pos text matched search _ hfollows hrest hfind
    exact hfollows.ahead hrest (search.isInfix hfind)
  · intro _ _
    trivial

/-- The value of a computation that ends has a property. -/
def Run.Ensures {α : Type} (property : α → Prop) (run : Run α) : Prop :=
  ∀ value, run = .done value → property value

namespace Run.Ensures

variable {α β : Type} {property : α → Prop} {result : β → Prop} {run : Run α}

/-- A computation that ends at once has the property if its value has it. -/
theorem done {value : α} (h : property value) : (Run.done value).Ensures property := by
  intro other heq
  cases heq
  exact h

/-- Going on from a value with the property. -/
theorem bind {next : α → Run β} (h : run.Ensures property)
    (hnext : ∀ value, property value → (next value).Ensures result) :
    (run.bind next).Ensures result := by
  cases run with
  | done value => exact hnext value (h value rfl)
  | offBoundary => exact fun _ heq => by cases heq
  | exhausted => exact fun _ heq => by cases heq

/-- Applying a function to a value with the property. -/
theorem map {f : α → β} (h : run.Ensures property)
    (hf : ∀ value, property value → result (f value)) : (run.map f).Ensures result := by
  cases run with
  | done value => exact done (hf value (h value rfl))
  | offBoundary => exact fun _ heq => by cases heq
  | exhausted => exact fun _ heq => by cases heq

end Run.Ensures

/-- The state is a failure or further on than the place. -/
def State.Past {α : Type} (pos : Position) (state : State α) : Prop :=
  state.isError = false → pos.index < state.index

/-- A failure counts as further on. -/
theorem State.past_fail {α : Type} {pos next : Position} {e : Failure} :
    (next.fail e : State α).Past pos :=
  fun herror => by cases herror

namespace Parser

variable {α β : Type} {fuel : Nat}

/-- From every place on, the parser leads only to places that follow it. -/
def Forward (fuel : Nat) (p : Parser α) : Prop :=
  ∀ start, (Correspondence.forwardFrom start).Agree fuel p p

/-- From every place on, the parser fails or leads to a place further on. -/
def Moves (fuel : Nat) (p : Parser α) : Prop :=
  ∀ pos, (p.transition fuel pos).Ensures (State.Past pos)

/-- Every state that a forward parser ends in follows its start. -/
theorem Forward.follows {p : Parser α} (hp : p.Forward fuel) (pos : Position) :
    (p.transition fuel pos).Ensures fun state => pos.Follows state.toPosition := by
  intro state hrun
  have hrel := hp pos pos pos ⟨rfl, Position.Follows.refl pos⟩
  rw [hrun] at hrel
  obtain ⟨_, _, hstates⟩ := hrel.exists_done
  exact hstates.of_keeping.2.1

/-- Looking at the text moves on if every step from there does. -/
theorem onRemainder_moves {step : Position → Text → State α}
    (hstep : ∀ pos text, (step pos text).Past pos) : (onRemainder step).Moves fuel := by
  intro pos
  simp only [onRemainder, direct]
  cases pos.remainder? with
  | none => exact fun _ heq => by cases heq
  | some text =>
    refine Run.Ensures.done ?_
    dsimp only
    split
    · exact State.past_fail
    · exact hstep pos text

/-- A literal that is not empty moves on. -/
theorem literal_moves {expected : String} (h : expected ≠ "") : (literal expected).Moves fuel := by
  refine onRemainder_moves fun pos text => ?_
  split
  · intro _
    have hsize : byteLength expected.toList ≠ 0 := by simpa using h
    rw [byteLength_toList] at hsize
    simp only [Position.advance]
    omega
  · exact State.past_fail

/-- A pattern that cannot match the empty text moves on. -/
theorem matching_moves (name : String) {r : Regex Unit} (h : r.isNullable = false) :
    (matching name r.search).Moves fuel := by
  refine onRemainder_moves fun pos text => ?_
  rw [Regex.search_find]
  cases hfind : r.find text with
  | none => exact State.past_fail
  | some matched =>
    intro _
    have hsize : byteLength matched ≠ 0 := by simpa using Regex.ne_nil_of_find h hfind
    simp only [Position.advance]
    omega

/-- A parser that always fails moves on when it succeeds. -/
theorem fail_moves (message : String) : (fail message : Parser α).Moves fuel := by
  intro pos
  exact Run.Ensures.done State.past_fail

/-- Mapping keeps moving on. -/
theorem Moves.map {p : Parser α} (hp : p.Moves fuel) (f : α → β) : (p.map f).Moves fuel := by
  intro pos
  refine (hp pos).map fun state hstate => ?_
  cases state with
  | succeed next value => exact hstate
  | fail next e => exact State.past_fail

/-- Rewording keeps moving on. -/
theorem Moves.reword {p : Parser α} (hp : p.Moves fuel) (message : Failure → String) :
    (p.reword message).Moves fuel := by
  intro pos
  refine (hp pos).map fun state hstate => ?_
  cases state with
  | succeed next value => exact hstate
  | fail next e => exact State.past_fail

/-- A chain moves on if its first parser does. -/
theorem Moves.chain {p : Parser α} (hp : p.Moves fuel) {f : α → Parser β}
    (hf : ∀ value, (f value).Forward fuel) : (p.chain f).Moves fuel := by
  intro pos
  refine (hp pos).bind fun state hstate => ?_
  cases state with
  | succeed next value =>
    intro final hrun _
    exact Nat.lt_of_lt_of_le (hstate rfl) ((hf value).follows next final hrun).index_le
  | fail next e => exact Run.Ensures.done State.past_fail

/-- A chain moves on if all its second parsers do. -/
theorem Forward.chain_moves {p : Parser α} (hp : p.Forward fuel) {f : α → Parser β}
    (hf : ∀ value, (f value).Moves fuel) : (p.chain f).Moves fuel := by
  intro pos
  refine (hp.follows pos).bind fun state hstate => ?_
  cases state with
  | succeed next value =>
    intro final hrun herror
    exact Nat.lt_of_le_of_lt hstate.index_le (hf value next final hrun herror)
  | fail next e => exact Run.Ensures.done State.past_fail

/-- Two alternatives move on if both do. -/
theorem Moves.orElse {p q : Parser α} (hp : p.Moves fuel) (hq : q.Moves fuel) :
    (p.orElse q).Moves fuel := by
  intro pos
  refine (hp pos).bind fun first hfirst => ?_
  cases first with
  | succeed next value => exact Run.Ensures.done hfirst
  | fail next e =>
    refine (hq pos).map fun second hsecond => ?_
    cases second with
    | succeed next value => exact hsecond
    | fail last f =>
      change State.Past pos (if e.index ≤ f.index then last.fail f else next.fail e)
      split
      · exact State.past_fail
      · exact State.past_fail

/-- A choice moves on if all its alternatives do. -/
theorem choice_moves {ps : List (Parser α)} (h : ∀ p ∈ ps, p.Moves fuel) :
    (choice ps).Moves fuel :=
  choice_induction (fun _ => Run.Ensures.done State.past_fail) Moves.orElse h

/-- The values of a repetition whose parser moves on end further on, if there are any. -/
theorem repeatFrom_moves {p : Parser α} (hp : p.Moves fuel) (rounds : Nat) (pos : Position) :
    (p.repeatFrom fuel rounds pos).Ensures fun collected =>
      pos.index ≤ collected.2.index ∧ (collected.1 ≠ [] → pos.index < collected.2.index) := by
  induction rounds generalizing pos with
  | zero => exact fun _ heq => by cases heq
  | succ rounds ih =>
    refine (hp pos).bind fun state hstate => ?_
    cases state with
    | fail next e => exact Run.Ensures.done ⟨Nat.le_refl _, fun hne => absurd rfl hne⟩
    | succeed next value =>
      have hlt : pos.index < next.index := hstate rfl
      change Run.Ensures _ (if next.index = pos.index then _ else _)
      rw [if_neg (Nat.ne_of_gt hlt)]
      refine (ih next).map fun collected hcollected => ?_
      exact ⟨Nat.le_trans (Nat.le_of_lt hlt) hcollected.1,
        fun _ => Nat.lt_of_lt_of_le hlt hcollected.1⟩

/-- A list with at least one value ends further on if lists with values do. -/
theorem atLeastOne_past {combinator : String} {values : List α} {pos last : Position}
    (h : values ≠ [] → pos.index < last.index) :
    (atLeastOne combinator values last).Past pos := by
  unfold atLeastOne
  split
  · exact State.past_fail
  · next hvalues => exact fun _ => h (by simpa using hvalues)

/-- A nonempty repetition moves on if its parser does. -/
theorem Moves.many1 {p : Parser α} (hp : p.Moves fuel) : p.many1.Moves fuel := by
  intro pos
  exact (repeatFrom_moves hp fuel pos).map fun collected hcollected =>
    atLeastOne_past hcollected.2

/-- The values of a separated list whose parser moves on end further on, if there are any. -/
theorem separated_moves {separator : Parser β} {p : Parser α} (hseparator : separator.Forward fuel)
    (hforward : p.Forward fuel) (hp : p.Moves fuel) (pos : Position) :
    (separated separator p fuel pos).Ensures fun collected =>
      collected.1 ≠ [] → pos.index < collected.2.index := by
  refine (hp pos).bind fun state hstate => ?_
  cases state with
  | fail next e => exact Run.Ensures.done fun hne => absurd rfl hne
  | succeed next value =>
    have hlt : pos.index < next.index := hstate rfl
    have hrest : (separatedFrom separator p fuel fuel next).Ensures fun collected =>
        next.Follows collected.2 := by
      intro collected hrun
      have hrel := (hseparator next).separatedFrom (hforward next) fuel
        ⟨rfl, Position.Follows.refl next⟩
      rw [hrun] at hrel
      obtain ⟨_, _, hcollected⟩ := hrel.exists_done
      obtain ⟨heq, hfollows⟩ := hcollected.2
      exact heq ▸ hfollows
    exact hrest.map fun collected hfollows _ => Nat.lt_of_lt_of_le hlt hfollows.index_le

/-- A nonempty separated list moves on if its values do. -/
theorem Moves.sepBy1 {separator : Parser β} {p : Parser α} (hp : p.Moves fuel)
    (hseparator : separator.Forward fuel) (hforward : p.Forward fuel) :
    (Parser.sepBy1 separator p).Moves fuel := by
  intro pos
  exact (separated_moves hseparator hforward hp pos).map fun collected hcollected =>
    atLeastOne_past hcollected

end Parser

end ParserCombinators
