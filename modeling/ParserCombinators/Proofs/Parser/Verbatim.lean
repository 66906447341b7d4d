import ParserCombinators.Proofs.Grammar.Soundness
import ParserCombinators.Proofs.Parser.Progress

/-!
# Values that are what was read

A parser is verbatim if every value that it gives is, taken as text, the part of its input between
its start and its end. The text of a list is the texts of its items one after another, and
nothing has no text, so combinators that keep the values of all their parts are verbatim if their
parts are.
-/

namespace ParserCombinators

variable {α β γ : Type}

namespace Position

/-- From the first place to the second one the text says just the part. -/
def Reads (pos : Position) (part : Text) (next : Position) : Prop :=
  ∃ before after, pos = ⟨before ++ part ++ after, byteLength before⟩ ∧
    next = pos.ahead (byteLength part)

variable {pos next last : Position} {text part rest : Text}

/-- Nothing stands between a place and itself. -/
theorem reads_nil (h : pos.WellFormed) : pos.Reads [] pos := by
  obtain ⟨before, after, hinput, hindex⟩ := h
  refine ⟨before, after, ?_, rfl⟩
  rw [List.append_nil, ← hinput, ← hindex]

/-- A beginning of what follows stands between a place and the place behind it. -/
theorem reads_of_prefix (hrest : pos.remainder? = some text) (hpart : part <+: text) :
    pos.Reads part (pos.ahead (byteLength part)) := by
  obtain ⟨before, hinput, hindex⟩ := dropBytes?_eq_some_iff.1 hrest
  obtain ⟨after, rfl⟩ := hpart
  refine ⟨before, after, ?_, rfl⟩
  rw [List.append_assoc, ← hinput, hindex]

/-- Parts that follow each other stand between the outer places. -/
theorem Reads.trans (h : pos.Reads part next) (h' : next.Reads rest last) :
    pos.Reads (part ++ rest) last := by
  obtain ⟨before, after, hpos, hnext⟩ := h
  obtain ⟨before', after', hnext', hlast⟩ := h'
  obtain ⟨hinput, hindex⟩ : before ++ part ++ after = before' ++ rest ++ after' ∧
      byteLength before + byteLength part = byteLength before' := by
    rw [hnext, hpos, ahead] at hnext'
    exact ⟨congrArg Position.input hnext', congrArg Position.index hnext'⟩
  -- both splits drop the same bytes from the input, so the same text is left
  have hafter : after = rest ++ after' := by
    have hdrop := dropBytes?_append (before ++ part) after
    rw [byteLength_append, hindex, hinput, List.append_assoc, dropBytes?_append] at hdrop
    exact (Option.some.inj hdrop).symm
  refine ⟨before, after', ?_, ?_⟩
  · rw [hpos, hafter]
    simp only [List.append_assoc]
  · rw [hlast, hnext, byteLength_append, ahead, ahead, ahead, Nat.add_assoc]

/-- Reading leads to a well-formed place. -/
theorem Reads.wellFormed (h : pos.Reads part next) : next.WellFormed := by
  obtain ⟨before, after, rfl, rfl⟩ := h
  exact ⟨before ++ part, after, rfl, (byteLength_append before part).symm⟩

end Position

/-- The state is a failure, or the text of its value was read from the place on. -/
def State.Copied (text : α → Text) (pos : Position) (state : State α) : Prop :=
  ∀ value, state.result = .ok value → pos.Reads (text value) state.toPosition

/-- A failure copies nothing. -/
theorem State.copied_fail {text : α → Text} {pos next : Position} {e : Failure} :
    (next.fail e : State α).Copied text pos :=
  fun _ herror => by cases herror

/-- A value copies the part that was read for it. -/
theorem State.copied_succeed {text : α → Text} {pos next : Position} {value : α}
    (h : pos.Reads (text value) next) : (next.succeed value).Copied text pos :=
  fun _ hvalue => by cases hvalue; exact h

namespace Parser

variable {fuel : Nat} {text : α → Text} {text' : β → Text} {whole : γ → Text}

/-- From every well-formed place, the parser fails or gives a value whose text it read. -/
def Verbatim (fuel : Nat) (p : Parser α) (text : α → Text) : Prop :=
  ∀ pos, pos.WellFormed → (p.transition fuel pos).Ensures (State.Copied text pos)

/-- A parser that never answers gives no value. -/
theorem never_verbatim : (never : Parser α).Verbatim fuel text :=
  fun _ _ _ heq => by cases heq

/-- Looking at the text is verbatim if every step from there is. -/
theorem onRemainder_verbatim {step : Position → Text → State α}
    (hstep : ∀ pos rest, pos.remainder? = some rest → (step pos rest).Copied text pos) :
    (onRemainder step).Verbatim fuel text := by
  intro pos _
  simp only [onRemainder, direct]
  cases hrest : pos.remainder? with
  | none => exact fun _ heq => by cases heq
  | some rest =>
    refine Run.Ensures.done ?_
    dsimp only
    split
    · exact State.copied_fail
    · exact hstep pos rest hrest

/-- A literal gives what it read. -/
theorem literal_verbatim (expected : String) :
    (literal expected).Verbatim fuel String.toList := by
  refine onRemainder_verbatim fun pos rest hrest => ?_
  by_cases hstart : expected.toList <+: rest
  · rw [if_pos (List.isPrefixOf_iff_prefix.2 hstart)]
    have hreads := Position.reads_of_prefix hrest hstart
    rw [byteLength_toList] at hreads
    exact State.copied_succeed hreads
  · rw [if_neg (mt List.isPrefixOf_iff_prefix.1 hstart)]
    exact State.copied_fail

/-- A pattern that matches only where it starts gives what it read. -/
theorem matching_verbatim (name : String) {search : Search} (hsearch : search.FindsAtStart) :
    (matching name search).Verbatim fuel String.toList := by
  refine onRemainder_verbatim fun pos rest hrest => ?_
  cases hfind : search.find rest with
  | none => exact State.copied_fail
  | some matched =>
    refine State.copied_succeed ?_
    rw [String.toList_ofList]
    exact Position.reads_of_prefix hrest (hsearch rest matched hfind)

/-- A function that keeps the text keeps a parser verbatim. -/
theorem Verbatim.map {p : Parser α} (hp : p.Verbatim fuel text) {f : α → β}
    (hf : ∀ value, text' (f value) = text value) : (p.map f).Verbatim fuel text' := by
  intro pos hpos
  refine (hp pos hpos).map fun state hstate => ?_
  cases state with
  | fail next e => exact State.copied_fail
  | succeed next value =>
    refine State.copied_succeed ?_
    rw [hf]
    exact hstate value rfl

/-- Rewording keeps a parser verbatim. -/
theorem Verbatim.reword {p : Parser α} (hp : p.Verbatim fuel text) (message : Failure → String) :
    (p.reword message).Verbatim fuel text := by
  intro pos hpos
  refine (hp pos hpos).map fun state hstate => ?_
  cases state with
  | fail next e => exact State.copied_fail
  | succeed next value => exact hstate

/-- One parser and then another, both values kept. -/
theorem Verbatim.pair {p : Parser α} {q : Parser β} {pair : α → β → γ} (hp : p.Verbatim fuel text)
    (hq : q.Verbatim fuel text') (hpair : ∀ a b, whole (pair a b) = text a ++ text' b) :
    (p.chain fun a => q.map (pair a)).Verbatim fuel whole := by
  intro pos hpos
  refine (hp pos hpos).bind fun state hstate => ?_
  cases state with
  | fail next e => exact Run.Ensures.done State.copied_fail
  | succeed next a =>
    have hreads : pos.Reads (text a) next := hstate a rfl
    refine (hq next hreads.wellFormed).map fun final hfinal => ?_
    cases final with
    | fail last e => exact State.copied_fail
    | succeed last b =>
      refine State.copied_succeed ?_
      rw [hpair]
      exact hreads.trans (hfinal b rfl)

/-- Pairs. -/
theorem Verbatim.followedBy {p : Parser α} {q : Parser β} (hp : p.Verbatim fuel text)
    (hq : q.Verbatim fuel text') :
    (p.followedBy q).Verbatim fuel fun (a, b) => text a ++ text' b := by
  rw [followedBy_eq_chain]
  exact hp.pair hq fun _ _ => rfl

/-- Sequences. -/
theorem sequence_verbatim {ps : List (Parser α)} (h : ∀ p ∈ ps, p.Verbatim fuel text) :
    (sequence ps).Verbatim fuel (List.flatMap text) := by
  induction ps with
  | nil =>
    intro pos hpos
    exact Run.Ensures.done (State.copied_succeed (Position.reads_nil hpos))
  | cons p rest ih =>
    have hp := h p List.mem_cons_self
    have hrest := ih fun q hq => h q (List.mem_cons_of_mem p hq)
    rw [sequence_cons]
    exact hp.pair hrest fun _ _ => List.flatMap_cons

/-- Two alternatives. -/
theorem Verbatim.orElse {p q : Parser α} (hp : p.Verbatim fuel text) (hq : q.Verbatim fuel text) :
    (p.orElse q).Verbatim fuel text := by
  intro pos hpos
  refine (hp pos hpos).bind fun first hfirst => ?_
  cases first with
  | succeed next value => exact Run.Ensures.done hfirst
  | fail next e =>
    refine (hq pos hpos).map fun second hsecond => ?_
    cases second with
    | succeed last value => exact hsecond
    | fail last f =>
      change State.Copied text pos (if e.index ≤ f.index then last.fail f else next.fail e)
      split
      · exact State.copied_fail
      · exact State.copied_fail

/-- Choices. -/
theorem choice_verbatim {ps : List (Parser α)} (h : ∀ p ∈ ps, p.Verbatim fuel text) :
    (choice ps).Verbatim fuel text :=
  choice_induction (motive := fun p => p.Verbatim fuel text)
    (fun _ _ => Run.Ensures.done State.copied_fail) Verbatim.orElse h

/-- Optional parsers, where nothing has no text. -/
theorem Verbatim.optional {p : Parser α} (hp : p.Verbatim fuel text) :
    p.optional.Verbatim fuel fun value => value.elim [] text := by
  intro pos hpos
  refine (hp pos hpos).map fun state hstate => ?_
  cases state with
  | succeed next value => exact State.copied_succeed (hstate value rfl)
  | fail next e => exact State.copied_succeed (Position.reads_nil hpos)

/-- The values of a repetition are what was read up to the place behind the last of them. -/
theorem repeatFrom_verbatim {p : Parser α} (hp : p.Verbatim fuel text) (rounds : Nat)
    {pos : Position} (hpos : pos.WellFormed) :
    (p.repeatFrom fuel rounds pos).Ensures fun collected =>
      pos.Reads (collected.1.flatMap text) collected.2 := by
  induction rounds generalizing pos with
  | zero => exact fun _ heq => by cases heq
  | succ rounds ih =>
    refine (hp pos hpos).bind fun state hstate => ?_
    cases state with
    | fail next e => exact Run.Ensures.done (Position.reads_nil hpos)
    | succeed next value =>
      have hreads : pos.Reads (text value) next := hstate value rfl
      change Run.Ensures _ (if next.index = pos.index then _ else _)
      split
      · refine Run.Ensures.done ?_
        rw [List.flatMap_singleton]
        exact hreads
      · refine (ih hreads.wellFormed).map fun collected hcollected => ?_
        rw [List.flatMap_cons]
        exact hreads.trans hcollected

/-- Repetitions. -/
theorem Verbatim.many {p : Parser α} (hp : p.Verbatim fuel text) :
    p.many.Verbatim fuel (List.flatMap text) := by
  intro pos hpos
  exact (repeatFrom_verbatim hp fuel hpos).map fun _ hcollected => State.copied_succeed hcollected

/-- Closing a list that must not be empty. -/
theorem atLeastOne_copied {combinator : String} {values : List α} {pos last : Position}
    (h : pos.Reads (values.flatMap text) last) :
    (atLeastOne combinator values last).Copied (List.flatMap text) pos := by
  unfold atLeastOne
  split
  · exact State.copied_fail
  · exact State.copied_succeed h

/-- Nonempty repetitions. -/
theorem Verbatim.many1 {p : Parser α} (hp : p.Verbatim fuel text) :
    p.many1.Verbatim fuel (List.flatMap text) := by
  intro pos hpos
  exact (repeatFrom_verbatim hp fuel hpos).map fun _ hcollected => atLeastOne_copied hcollected

end Parser

end ParserCombinators
