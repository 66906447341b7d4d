import ParserCombinators.Parser.Match
import ParserCombinators.Proofs.Parser.Transition

/-!
# Separated lists are repetitions

A separated list is its first value and then a repetition of a separator with a value behind it. Its
loop makes the same rounds as that repetition: it gives a separator back when no value follows it,
and ends after a round in which neither of the two has moved. Without a first value one kind of list
is empty and the other one fails, both where they stand.
-/

namespace ParserCombinators.Parser

variable {α β γ : Type}

variable {separator : Parser β} {p : Parser α} {fuel : Nat} {pos : Position}

/-- Where no first value is read, there are none, and nothing is read. -/
theorem separated_of_fails (separator : Parser β) (hp : p.FailsAt fuel pos) :
    separated separator p fuel pos = .done ([], pos) := by
  obtain ⟨next, e, hrun⟩ := hp
  rw [separated, hrun]
  rfl

/-- Where the first value does not fail, a separated list that is closed by succeeding with its
values is that value and a repetition. -/
theorem separated_of_not_fails (hp : ¬p.FailsAt fuel pos)
    (close : List α → Position → State (List α))
    (hclose : ∀ value values last, close (value :: values) last = last.succeed (value :: values)) :
    ((separated separator p fuel pos).map fun (values, last) => close values last) =
      ((p.followedBy (separator.skipLeft p).many).map fun pair =>
        pair.1 :: pair.2).transition fuel pos := by
  rw [separated, map_transition, followedBy_eq_chain, chain_transition]
  cases hrun : p.transition fuel pos with
  | done state =>
    cases state with
    | succeed next value =>
      change ((separatedFrom separator p fuel fuel next).map _).map _ =
        (((separator.skipLeft p).many.transition fuel next).map _).map _
      rw [many_transition, separatedFrom_eq_repeatFrom]
      cases (separator.skipLeft p).repeatFrom fuel fuel next with
      | done collected => exact congrArg Run.done (hclose value collected.1 collected.2)
      | offBoundary => rfl
      | exhausted => rfl
    | fail next e => exact absurd ⟨next, e, hrun⟩ hp
  | offBoundary => rfl
  | exhausted => rfl

/-- Where no first value is read, a separated list is empty, or fails if it must not be. Otherwise
both are the first value with those of a repetition of the separator and a value behind it. -/
theorem sepBy_eq_many (separator : Parser β) (p : Parser α) (fuel : Nat) (pos : Position)
    (value : γ) :
    (p.FailsAt fuel pos ∧
      (sepBy separator p).apply fuel (pos.succeed value) = .done (pos.succeed []) ∧
      (sepBy1 separator p).apply fuel (pos.succeed value) =
        .done (pos.fail (Failure.noMatches pos.index "sepBy1"))) ∨
    (¬p.FailsAt fuel pos ∧
      (sepBy separator p).apply fuel (pos.succeed value) =
        ((p.followedBy (separator.skipLeft p).many).map fun pair =>
          pair.1 :: pair.2).apply fuel (pos.succeed value) ∧
      (sepBy1 separator p).apply fuel (pos.succeed value) =
        ((p.followedBy (separator.skipLeft p).many).map fun pair =>
          pair.1 :: pair.2).apply fuel (pos.succeed value)) := by
  by_cases hp : p.FailsAt fuel pos
  · have hnone := separated_of_fails separator hp
    refine .inl ⟨hp, ?_, ?_⟩
    · exact congrArg (Run.map _) hnone
    · exact congrArg (Run.map _) hnone
  · refine .inr ⟨hp, ?_, ?_⟩
    · exact separated_of_not_fails hp (fun values last => last.succeed values) fun _ _ _ => rfl
    · exact separated_of_not_fails hp (atLeastOne "sepBy1") fun _ _ _ => rfl

/-- A separator at the end of the text is given back. -/
example : (sepBy1 (literal ",") (literal "é")).apply 9 (State.initial "é,é,".toList) =
    .done ((⟨"é,é,".toList, 5⟩ : Position).succeed ["é", "é"]) := rfl

end ParserCombinators.Parser
