import ParserCombinators.Proofs.Grammar.Watched

/-!
# A run does not see what stands before its start

Putting a text before the text of a run moves all its places and failures by the length of that
text and changes nothing else: the run ends, faults or runs out of fuel as before, with the same
value or the same kind of failure. Only messages may differ, since they may name an index.
-/

namespace ParserCombinators

/-- The same place when a text is put before its own. -/
def Position.behind (before : Text) (pos : Position) : Position :=
  ⟨before ++ pos.input, byteLength before + pos.index⟩

/-- The same failure when a text is put before the one it is about. -/
def Failure.behind (before : Text) (e : Failure) : Failure :=
  { e with index := byteLength before + e.index }

/-- The same state when a text is put before its own. -/
def State.behind {α : Type} (before : Text) (state : State α) : State α :=
  { state.toPosition.behind before with result := state.result.mapError (Failure.behind before) }

/-- The state without the message of its failure. -/
def State.wordless {α : Type} (state : State α) : State α :=
  state.mapFailure fun e => e.withMessage ""

/-- Dropping a beginning and more bytes is dropping those bytes from the rest. -/
theorem dropBytes?_append_add (before after : Text) (n : Nat) :
    dropBytes? (byteLength before + n) (before ++ after) = dropBytes? n after := by
  induction before with
  | nil => simp
  | cons c rest ih =>
    have hpos := c.utf8Size_pos
    obtain ⟨m, hm⟩ : ∃ m, byteLength (c :: rest) + n = m + 1 :=
      ⟨c.utf8Size - 1 + byteLength rest + n, by rw [byteLength_cons]; omega⟩
    have hle : c.utf8Size ≤ m + 1 := by
      rw [← hm, byteLength_cons]
      omega
    rw [hm, List.cons_append, dropBytes?, if_pos hle, ← hm, byteLength_cons, Nat.add_assoc,
      Nat.add_sub_cancel_left, ih]

variable {before : Text}

/-- The same text follows. -/
theorem Position.behind_remainder? (pos : Position) :
    (pos.behind before).remainder? = pos.remainder? :=
  dropBytes?_append_add before pos.input pos.index

/-- Moving on leads to the same place. -/
theorem Position.behind_ahead (pos : Position) (bytes : Nat) :
    (pos.behind before).ahead bytes = (pos.ahead bytes).behind before := by
  simp only [ahead, behind, Nat.add_assoc]

/-- A place corresponds to itself before a text was put before its own, and a failure to one of the
same kind. -/
def Correspondence.shifted (before : Text) : Correspondence where
  place pos pos' := pos = pos'.behind before
  failure _ e _ e' := e.kind = e'.kind ∧ e.index = byteLength before + e'.index
  faults := True
  moved := by
    intro pos pos' next next' hpos hnext
    rw [hpos, hnext]
    exact Nat.add_left_cancel_iff
  reached := by
    intro pos pos' next next' e e' f f' he hf
    rw [he.2, hf.2]
    exact Nat.add_le_add_iff_left
  noAlternative := by
    intro pos pos' hpos
    exact ⟨rfl, congrArg Position.index hpos⟩
  many1 := by
    intro pos pos' hpos
    exact ⟨rfl, congrArg Position.index hpos⟩
  sepBy1 := by
    intro pos pos' hpos
    exact ⟨rfl, congrArg Position.index hpos⟩
  custom message := by
    intro hpos
    exact ⟨rfl, congrArg Position.index hpos⟩
  reworded message := by
    intro he
    exact he

/-- Looking at the text does not see what was put before it. -/
theorem shifted_readable (before : Text) :
    (Correspondence.shifted before).Readable fun _ => True where
  remainder := by
    intro pos pos' hplace
    rw [show pos = pos'.behind before from hplace, Position.behind_remainder?]
  fault _ _ := trivial
  endOfInput hplace _ := ⟨rfl, congrArg Position.index hplace⟩
  literalMismatch hplace _ _ _ := ⟨rfl, congrArg Position.index hplace⟩
  patternMismatch _ hplace _ _ := ⟨rfl, congrArg Position.index hplace⟩
  read := by
    intro pos pos' text start hplace _ _
    rw [show pos = pos'.behind before from hplace, Position.behind_ahead]
    rfl
  found := by
    intro pos pos' text matched search _ hplace _ _
    rw [show pos = pos'.behind before from hplace, Position.behind_ahead]
    rfl
  anchored _ := trivial

/-- Corresponding states are the same but for the text before and the message. -/
theorem shifted_states {α : Type} {s t : State α} (h : (Correspondence.shifted before).States s t) :
    s.wordless = (t.behind before).wordless := by
  cases h with
  | succeed value hplace =>
    rw [show _ = Position.behind before _ from hplace]
    rfl
  | @fail pos pos' e e' hplace he =>
    have hfailure : e.withMessage "" = (e'.behind before).withMessage "" := by
      simp only [Failure.withMessage, Failure.behind, he.1, he.2]
    simp only [State.wordless, State.mapFailure, State.behind, Position.fail, Except.mapError,
      hfailure, show pos = pos'.behind before from hplace]

/-- Every state corresponds to itself before a text was put before its own. -/
theorem shifted_behind {α : Type} (state : State α) :
    (Correspondence.shifted before).States (state.behind before) state := by
  cases state with
  | succeed pos value => exact .succeed value rfl
  | fail pos e => exact .fail rfl ⟨rfl, rfl⟩

/-- Putting a text before the one of a state moves the state that a run from there ends in, and may
change the message of its failure. -/
theorem Grammar.apply_behind (rules : Rules) (g : Grammar) {α : Type} (state : State α)
    (fuel : Nat) :
    ((g.parser rules).apply fuel (state.behind before)).map State.wordless =
      ((g.parser rules).apply fuel state).map fun final => (final.behind before).wordless := by
  have hagree : (Correspondence.shifted before).Agree fuel (g.parser rules) (g.parser rules) :=
    Grammar.parser_agree (shifted_readable before)
      (fun _ body _ => Grammar.patterns_of_forall (fun _ => trivial) body)
      (Grammar.patterns_of_forall (fun _ => trivial) g)
  have hrel := hagree.apply (shifted_behind state)
  exact (hrel.map fun _ _ hstates => shifted_states hstates).eq fun _ _ heq => heq

/-- A run that starts behind a text is the run on the rest of the text alone, moved by the length of
the text before, but for the message of a failure. -/
theorem Grammar.run_behind (rules : Rules) (g : Grammar) (before after : Text) (fuel : Nat) :
    ((g.parser rules).apply fuel
        ((⟨before ++ after, byteLength before⟩ : Position).succeed ())).map State.wordless =
      ((g.parser rules).run fuel after).map fun final => (final.behind before).wordless :=
  Grammar.apply_behind rules g (State.initial after) fuel

end ParserCombinators
