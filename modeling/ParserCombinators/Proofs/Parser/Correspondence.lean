import Mathlib.Data.List.Forall2
import ParserCombinators.Proofs.Parser.Transition

/-!
# Parsers that run alike

A correspondence says which places and which failures count as the same in two runs. Two
parsers agree under it when runs from corresponding places fault together, run out of fuel
together, or end in corresponding states with the same value. Every combinator keeps the
agreement of its parts, because it looks at a place only to see whether it was left, and at a
failure only to see whether it lies further on than another one.

A correspondence that relates a place to itself only where a condition holds makes agreement
of a parser with itself an invariant: from a place with the condition the run does not leave it.
-/

namespace ParserCombinators

variable {α β γ : Type}

/-- Two runs that both give related values, both fault where that may happen, or both need more
fuel. -/
inductive Run.Rel (faults : Prop) (related : α → β → Prop) : Run α → Run β → Prop
  | done {a : α} {b : β} : related a b → Rel faults related (.done a) (.done b)
  | offBoundary : faults → Rel faults related .offBoundary .offBoundary
  | exhausted : Rel faults related .exhausted .exhausted

/-- Going on in related ways from related runs. -/
theorem Run.Rel.bind {δ : Type} {faults : Prop} {related : α → β → Prop} {result : γ → δ → Prop}
    {r : Run α} {s : Run β} {f : α → Run γ} {g : β → Run δ} (h : Run.Rel faults related r s)
    (hfg : ∀ a b, related a b → Run.Rel faults result (f a) (g b)) :
    Run.Rel faults result (r.bind f) (s.bind g) := by
  cases h with
  | done hab => exact hfg _ _ hab
  | offBoundary hfaults => exact .offBoundary hfaults
  | exhausted => exact .exhausted

/-- Applying functions that keep the relation. -/
theorem Run.Rel.map {δ : Type} {faults : Prop} {related : α → β → Prop} {result : γ → δ → Prop}
    {r : Run α} {s : Run β} {f : α → γ} {g : β → δ} (h : Run.Rel faults related r s)
    (hfg : ∀ a b, related a b → result (f a) (g b)) :
    Run.Rel faults result (r.map f) (s.map g) := by
  cases h with
  | done hab => exact .done (hfg _ _ hab)
  | offBoundary hfaults => exact .offBoundary hfaults
  | exhausted => exact .exhausted

/-- Runs related by a relation between equal values are equal. -/
theorem Run.Rel.eq {faults : Prop} {related : α → α → Prop} {r s : Run α}
    (h : Run.Rel faults related r s) (heq : ∀ a b, related a b → a = b) : r = s := by
  cases h with
  | done hab => rw [heq _ _ hab]
  | offBoundary _ => rfl
  | exhausted => rfl

/-- Related runs that may not fault do not fault. -/
theorem Run.Rel.ne_offBoundary {related : α → β → Prop} {r : Run α} {s : Run β}
    (h : Run.Rel False related r s) : s ≠ .offBoundary := by
  cases h with
  | done _ => simp
  | offBoundary hfaults => exact hfaults.elim
  | exhausted => simp

/-- A run related to one that ends gives a related value. -/
theorem Run.Rel.exists_done {faults : Prop} {related : α → β → Prop} {r : Run α} {b : β}
    (h : Run.Rel faults related r (.done b)) : ∃ a, r = .done a ∧ related a b := by
  cases h with
  | done hab => exact ⟨_, rfl, hab⟩

/-- Choosing between related runs by conditions that hold together. -/
theorem Run.Rel.ite {faults : Prop} {related : α → β → Prop} {c d : Prop} [Decidable c]
    [Decidable d] {r r' : Run α} {s s' : Run β} (hcd : c ↔ d) (h : Run.Rel faults related r s)
    (h' : ¬ c → Run.Rel faults related r' s') :
    Run.Rel faults related (if c then r else r') (if d then s else s') := by
  by_cases hc : c
  · rwa [if_pos hc, if_pos (hcd.1 hc)]
  · rw [if_neg hc, if_neg fun hd => hc (hcd.2 hd)]
    exact h' hc

/-- A check that related values pass changes nothing. -/
theorem Run.Rel.guard {faults : Prop} {related : α → β → Prop} {r : Run α} {s : Run β}
    {check : α → Bool} (h : Run.Rel faults related r s)
    (hcheck : ∀ a b, related a b → check a = true) :
    Run.Rel faults related (r.bind fun a => if check a then .done a else .offBoundary) s := by
  cases h with
  | @done a b hab =>
    simp only [Run.bind, hcheck a b hab, if_true]
    exact .done hab
  | offBoundary hfaults => exact .offBoundary hfaults
  | exhausted => exact .exhausted

/-- What counts as the same in two runs. -/
structure Correspondence where
  /-- The places that correspond. -/
  place : Position → Position → Prop
  /-- The failures that correspond, each with the place where it is kept. -/
  failure : Position → Failure → Position → Failure → Prop
  /-- Whether the runs may fault. -/
  faults : Prop
  /-- Both runs see a place left, or none does. -/
  moved {pos pos' next next' : Position} : place pos pos' → place next next' →
    (next.index = pos.index ↔ next'.index = pos'.index)
  /-- Both runs see the second failure at least as far on, or none does. -/
  reached {pos pos' next next' : Position} {e e' f f' : Failure} : failure pos e pos' e' →
    failure next f next' f' → (e.index ≤ f.index ↔ e'.index ≤ f'.index)
  /-- The failures that combinators report by themselves correspond. -/
  noAlternative {pos pos' : Position} : place pos pos' →
    failure pos (.noAlternative pos.index) pos' (.noAlternative pos'.index)
  many1 {pos pos' : Position} : place pos pos' →
    failure pos (.noMatches pos.index "many1") pos' (.noMatches pos'.index "many1")
  sepBy1 {pos pos' : Position} : place pos pos' →
    failure pos (.noMatches pos.index "sepBy1") pos' (.noMatches pos'.index "sepBy1")
  custom {pos pos' : Position} (message : String) : place pos pos' →
    failure pos (.custom pos.index message) pos' (.custom pos'.index message)
  /-- Corresponding failures still correspond when they are reworded. -/
  reworded {pos pos' : Position} {e e' : Failure} (message : Failure → String) :
    failure pos e pos' e' →
      failure pos (e.withMessage (message e)) pos' (e'.withMessage (message e'))

namespace Correspondence

/-- States with the same value or with corresponding failures, at corresponding places. -/
inductive States (C : Correspondence) : State α → State α → Prop
  | succeed {pos pos' : Position} (value : α) : C.place pos pos' →
    States C (pos.succeed value) (pos'.succeed value)
  | fail {pos pos' : Position} {e e' : Failure} : C.place pos pos' → C.failure pos e pos' e' →
    States C (pos.fail e) (pos'.fail e')

/-- Parsers whose runs with the same fuel from corresponding places correspond. -/
def Agree (C : Correspondence) (fuel : Nat) (p q : Parser α) : Prop :=
  ∀ pos pos', C.place pos pos' →
    Run.Rel C.faults C.States (p.transition fuel pos) (q.transition fuel pos')

/-- The same values, and corresponding places after the last of them. -/
def Collected (C : Correspondence) (r s : List α × Position) : Prop :=
  r.1 = s.1 ∧ C.place r.2 s.2

variable {C : Correspondence} {fuel : Nat}

/-- Corresponding states are at corresponding places. -/
theorem States.place {s t : State α} (h : C.States s t) : C.place s.toPosition t.toPosition := by
  cases h with
  | succeed value hplace => exact hplace
  | fail hplace _ => exact hplace

/-- Going on from corresponding states. -/
theorem States.andThen {s t : State α} {f g : α → Position → Run (State β)} (h : C.States s t)
    (hfg : ∀ value pos pos', C.place pos pos' →
      Run.Rel C.faults C.States (f value pos) (g value pos')) :
    Run.Rel C.faults C.States (s.andThen f) (t.andThen g) := by
  cases h with
  | succeed value hplace => exact hfg value _ _ hplace
  | fail hplace hfailure => exact .done (.fail hplace hfailure)

/-- Corresponding states have corresponding images under a function on values. -/
theorem States.map {s t : State α} (h : C.States s t) (f : α → β) :
    C.States (s.map f) (t.map f) := by
  cases h with
  | succeed value hplace => exact .succeed (f value) hplace
  | fail hplace hfailure => exact .fail hplace hfailure

/-- Corresponding states still correspond when their failures are reworded. -/
theorem States.reword {s t : State α} (h : C.States s t) (message : Failure → String) :
    C.States (s.mapFailure fun e => e.withMessage (message e))
      (t.mapFailure fun e => e.withMessage (message e)) := by
  cases h with
  | succeed value hplace => exact .succeed value hplace
  | fail hplace hfailure => exact .fail hplace (C.reworded message hfailure)

/-- Of two pairs of corresponding failed states the same side is kept. -/
theorem States.further {s s' t t' : State α} (hs : C.States s s') (ht : C.States t t') :
    C.States (s.further t) (s'.further t') := by
  cases hs with
  | succeed _ _ => exact ht
  | @fail pos pos' e e' hplace he =>
    cases ht with
    | succeed value hnext => exact .succeed value hnext
    | @fail next next' f f' hnext hf =>
      have hreached := C.reached he hf
      simp only [State.further, Position.fail]
      by_cases hle : e.index ≤ f.index
      · rw [if_pos hle, if_pos (hreached.1 hle)]
        exact .fail hnext hf
      · rw [if_neg hle, if_neg fun h => hle (hreached.2 h)]
        exact .fail hplace he

/-- Running from corresponding states. -/
theorem Agree.apply {p q : Parser α} (h : C.Agree fuel p q) {s t : State β} (hst : C.States s t) :
    Run.Rel C.faults C.States (p.apply fuel s) (q.apply fuel t) := by
  cases hst with
  | succeed _ hplace => exact h _ _ hplace
  | fail hplace hfailure => exact .done (.fail hplace hfailure)

/-- Succeeding. -/
theorem Agree.success (value : α) : C.Agree fuel (Parser.success value) (Parser.success value) :=
  fun _ _ hplace => .done (.succeed value hplace)

/-- Failing deliberately. -/
theorem Agree.fail (message : String) :
    C.Agree fuel (Parser.fail message : Parser α) (Parser.fail message) :=
  fun _ _ hplace => .done (.fail hplace (C.custom message hplace))

/-- Never answering. -/
theorem Agree.never : C.Agree fuel (Parser.never : Parser α) Parser.never :=
  fun _ _ _ => .exhausted

/-- Mapping. -/
theorem Agree.map {p q : Parser α} (h : C.Agree fuel p q) (f : α → β) :
    C.Agree fuel (p.map f) (q.map f) := by
  intro pos pos' hplace
  exact (h pos pos' hplace).map fun _ _ hst => hst.map f

/-- Rewording. -/
theorem Agree.reword {p q : Parser α} (h : C.Agree fuel p q) (message : Failure → String) :
    C.Agree fuel (p.reword message) (q.reword message) := by
  intro pos pos' hplace
  exact (h pos pos' hplace).map fun _ _ hst => hst.reword message

/-- Chaining. -/
theorem Agree.chain {p q : Parser α} {f g : α → Parser β} (h : C.Agree fuel p q)
    (hfg : ∀ value, C.Agree fuel (f value) (g value)) :
    C.Agree fuel (p.chain f) (q.chain g) := by
  intro pos pos' hplace
  exact (h pos pos' hplace).bind fun _ _ hst => hst.andThen fun value => hfg value

/-- Pairing. -/
theorem Agree.followedBy {p q : Parser α} {p' q' : Parser β} (h : C.Agree fuel p q)
    (h' : C.Agree fuel p' q') : C.Agree fuel (p.followedBy p') (q.followedBy q') := by
  rw [Parser.followedBy_eq_chain, Parser.followedBy_eq_chain]
  exact h.chain fun _ => h'.map _

/-- Skipping what follows. -/
theorem Agree.skip {p q : Parser α} {p' q' : Parser β} (h : C.Agree fuel p q)
    (h' : C.Agree fuel p' q') : C.Agree fuel (p.skip p') (q.skip q') :=
  (h.followedBy h').map Prod.fst

/-- Skipping what comes before. -/
theorem Agree.skipLeft {p q : Parser α} {p' q' : Parser β} (h : C.Agree fuel p q)
    (h' : C.Agree fuel p' q') : C.Agree fuel (p.skipLeft p') (q.skipLeft q') := by
  rw [Parser.skipLeft_eq_chain, Parser.skipLeft_eq_chain]
  exact h.chain fun _ => h'

/-- Delimiting. -/
theorem Agree.between {l l' : Parser α} {r r' : Parser β} {c c' : Parser γ}
    (hl : C.Agree fuel l l') (hr : C.Agree fuel r r') (hc : C.Agree fuel c c') :
    C.Agree fuel (Parser.between l r c) (Parser.between l' r' c') :=
  (hl.skipLeft hc).skip hr

/-- Sequences. -/
theorem Agree.sequence {ps qs : List (Parser α)} (h : List.Forall₂ (C.Agree fuel) ps qs) :
    C.Agree fuel (Parser.sequence ps) (Parser.sequence qs) := by
  induction h with
  | nil => exact Agree.success []
  | cons hpq _ ih =>
    rw [Parser.sequence_cons, Parser.sequence_cons]
    exact hpq.chain fun _ => ih.map _

/-- Two alternatives. -/
theorem Agree.orElse {p p' q q' : Parser α} (hp : C.Agree fuel p p') (hq : C.Agree fuel q q') :
    C.Agree fuel (p.orElse q) (p'.orElse q') := by
  intro pos pos' hplace
  refine (hp pos pos' hplace).bind fun first first' hfirst => ?_
  cases hfirst with
  | succeed value hnext => exact .done (.succeed value hnext)
  | fail hnext hfailure =>
    refine (hq pos pos' hplace).map fun second second' hsecond => ?_
    have hfirst := States.fail (α := α) hnext hfailure
    cases hsecond with
    | succeed value hlast => exact .succeed value hlast
    | fail hlast hlater => exact hfirst.further (.fail hlast hlater)

/-- Choices. -/
theorem Agree.choice {ps qs : List (Parser α)} (h : List.Forall₂ (C.Agree fuel) ps qs) :
    C.Agree fuel (Parser.choice ps) (Parser.choice qs) := by
  induction h with
  | nil => exact fun _ _ hplace => .done (.fail hplace (C.noAlternative hplace))
  | cons hpq hrest ih =>
    cases hrest with
    | nil => exact hpq
    | cons _ _ => exact hpq.orElse ih

/-- Optional parsers. -/
theorem Agree.optional {p q : Parser α} (h : C.Agree fuel p q) :
    C.Agree fuel p.optional q.optional := by
  intro pos pos' hplace
  refine (h pos pos' hplace).map fun s t hst => ?_
  cases hst with
  | succeed value hnext => exact .succeed (some value) hnext
  | fail _ _ => exact .succeed none hplace

/-- Rounds of a repetition. -/
theorem Agree.repeatFrom {p q : Parser α} (h : C.Agree fuel p q) (rounds : Nat)
    {pos pos' : Position} (hplace : C.place pos pos') :
    Run.Rel C.faults C.Collected (p.repeatFrom fuel rounds pos)
      (q.repeatFrom fuel rounds pos') := by
  induction rounds generalizing pos pos' with
  | zero => exact .exhausted
  | succ rounds ih =>
    refine (h pos pos' hplace).bind fun s t hst => ?_
    cases hst with
    | fail _ _ => exact .done ⟨rfl, hplace⟩
    | succeed value hnext =>
      refine .ite (C.moved hplace hnext) (.done ⟨rfl, hnext⟩) fun _ => ?_
      exact (ih hnext).map fun r s hrs => ⟨congrArg (value :: ·) hrs.1, hrs.2⟩

/-- Rounds of a separated repetition. -/
theorem Agree.separatedFrom {p q : Parser α} {p' q' : Parser β} (h' : C.Agree fuel p' q')
    (h : C.Agree fuel p q) (rounds : Nat) {pos pos' : Position} (hplace : C.place pos pos') :
    Run.Rel C.faults C.Collected (Parser.separatedFrom p' p fuel rounds pos)
      (Parser.separatedFrom q' q fuel rounds pos') := by
  rw [Parser.separatedFrom_eq_repeatFrom, Parser.separatedFrom_eq_repeatFrom]
  exact (h'.skipLeft h).repeatFrom rounds hplace

/-- Separated lists, before they are closed. -/
theorem Agree.separated {p q : Parser α} {p' q' : Parser β} (h' : C.Agree fuel p' q')
    (h : C.Agree fuel p q) {pos pos' : Position} (hplace : C.place pos pos') :
    Run.Rel C.faults C.Collected (Parser.separated p' p fuel pos)
      (Parser.separated q' q fuel pos') := by
  refine (h pos pos' hplace).bind fun s t hst => ?_
  cases hst with
  | fail _ _ => exact .done ⟨rfl, hplace⟩
  | succeed value hnext =>
    exact (h'.separatedFrom h fuel hnext).map fun r s hrs => ⟨congrArg (value :: ·) hrs.1, hrs.2⟩

/-- Closing a list that may be empty. -/
theorem Collected.succeed {r s : List α × Position} (h : C.Collected r s) :
    C.States (r.2.succeed r.1) (s.2.succeed s.1) := by
  rw [h.1]
  exact .succeed s.1 h.2

/-- Closing a list that must not be empty. -/
theorem Collected.atLeastOne {r s : List α × Position} (h : C.Collected r s)
    {combinator : String}
    (hnone : ∀ {pos pos' : Position}, C.place pos pos' →
      C.failure pos (.noMatches pos.index combinator) pos' (.noMatches pos'.index combinator)) :
    C.States (Parser.atLeastOne combinator r.1 r.2) (Parser.atLeastOne combinator s.1 s.2) := by
  unfold Parser.atLeastOne
  rw [h.1]
  split
  · exact .fail h.2 (hnone h.2)
  · exact .succeed s.1 h.2

/-- Repetitions. -/
theorem Agree.many {p q : Parser α} (h : C.Agree fuel p q) : C.Agree fuel p.many q.many := by
  intro pos pos' hplace
  exact (h.repeatFrom fuel hplace).map fun _ _ hrs => hrs.succeed

/-- Nonempty repetitions. -/
theorem Agree.many1 {p q : Parser α} (h : C.Agree fuel p q) : C.Agree fuel p.many1 q.many1 := by
  intro pos pos' hplace
  exact (h.repeatFrom fuel hplace).map fun _ _ hrs => hrs.atLeastOne C.many1

/-- Separated lists. -/
theorem Agree.sepBy {p q : Parser α} {p' q' : Parser β} (h' : C.Agree fuel p' q')
    (h : C.Agree fuel p q) : C.Agree fuel (Parser.sepBy p' p) (Parser.sepBy q' q) := by
  intro pos pos' hplace
  exact (h'.separated h hplace).map fun _ _ hrs => hrs.succeed

/-- Nonempty separated lists. -/
theorem Agree.sepBy1 {p q : Parser α} {p' q' : Parser β} (h' : C.Agree fuel p' q')
    (h : C.Agree fuel p q) : C.Agree fuel (Parser.sepBy1 p' p) (Parser.sepBy1 q' q) := by
  intro pos pos' hplace
  exact (h'.separated h hplace).map fun _ _ hrs => hrs.atLeastOne C.sepBy1

end Correspondence

end ParserCombinators
