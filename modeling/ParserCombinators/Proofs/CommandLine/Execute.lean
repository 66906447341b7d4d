import ParserCombinators.CommandLine.Execute
import ParserCombinators.Proofs.Grammar.Soundness
import ParserCombinators.Proofs.Parser.Ending

/-!
# Reports tell the final state

Every command ends in a final state at a place of its input where text may be asked for, and a
failure of it was noticed at that place. So the state has an outcome and its failure a diagnosis,
and a report of both is what executing the request gives, whatever the form of the report is.
-/

namespace ParserCombinators

variable {α β : Type} {fuel : Nat} {good : Search → Prop} {C : Correspondence}

/-- With any fuel for more than the bytes of the input the parser ends in the state. -/
def Parser.EndsIn (p : Parser α) (input : String) (state : State α) : Prop :=
  ∀ fuel, input.utf8ByteSize < fuel → p.run fuel input.toList = .done state

/-- The parser that reads the items of a kind. -/
inductive ItemKind.ReadBy : ItemKind → Parser String → Prop
  | letters : ReadBy .letters .letters
  | digits : ReadBy .digits .digits
  | alnum : ReadBy .alnum .lettersOrDigits
  | float : ReadBy .float .floatingPoint

/-- The final state of a command. The parser that the command asks for leaves the input in it, with
the texts that were read as JSON. -/
inductive Command.EndsIn : Command → State Value → Prop
  | literal {expected input : String} {state : State String} :
    (Parser.literal expected).EndsIn input state →
    EndsIn (.literal expected input) (state.map .str)
  | pattern {kind : ItemKind} {input : String} {item : Parser String} {state : State String} :
    kind.ReadBy item → item.EndsIn input state →
    EndsIn (.pattern kind input) (state.map .str)
  | list {kind : ItemKind} {input separator : String} {item : Parser String}
    {state : State (List String)} :
    kind.ReadBy item → (Parser.sepBy1 (Parser.literal separator) item).EndsIn input state →
    EndsIn (.list kind input separator) (state.map fun items => .arr (items.map .str))

namespace Parser

variable {p : Parser α} {input : String}

/-- Where no fuel for more than the bytes is too little, a state reached with such fuel is final. -/
theorem endsIn_of_run {state : State α}
    (hends : ∀ fuel, input.utf8ByteSize < fuel → p.run fuel input.toList ≠ .exhausted)
    (hfuel : input.utf8ByteSize < fuel) (hrun : p.run fuel input.toList = .done state) :
    p.EndsIn input state := by
  intro other hother
  rw [← hrun]
  rcases Nat.le_total fuel other with hle | hle
  · exact (p.stable fuel other _ hle).eq (hends fuel hfuel)
  · exact ((p.stable other fuel _ hle).eq (hends other hother)).symm

/-- The final state of a parser with a function of its value comes from the final state of the
parser. -/
theorem EndsIn.of_map {f : α → β} {state : State β} (h : (p.map f).EndsIn input state) :
    ∃ before, p.EndsIn input before ∧ before.map f = state := by
  have hdone : ∀ fuel, input.utf8ByteSize < fuel →
      ∃ before, p.run fuel input.toList = .done before ∧ before.map f = state :=
    fun fuel hfuel => Run.map_eq_done_iff.1 (h fuel hfuel)
  obtain ⟨before, hrun, hmap⟩ := hdone _ (Nat.lt_succ_self _)
  refine ⟨before, endsIn_of_run (fun fuel hfuel => ?_) (Nat.lt_succ_self _) hrun, hmap⟩
  obtain ⟨_, hother, _⟩ := hdone fuel hfuel
  simp [hother]

end Parser

/-- The parser of a kind reads its items. -/
theorem ItemKind.parser_readBy (kind : ItemKind) : kind.ReadBy kind.parser := by
  cases kind with
  | letters => exact .letters
  | digits => exact .digits
  | alnum => exact .alnum
  | float => exact .float

/-- Kinds of items are good patterns. -/
theorem ItemKind.parser_agree (hC : C.Readable good) (kind : ItemKind) :
    C.Agree fuel kind.parser kind.parser := by
  cases kind with
  | letters => exact hC.matching _ (hC.anchored rfl)
  | digits => exact hC.matching _ (hC.anchored rfl)
  | alnum => exact hC.matching _ (hC.anchored rfl)
  | float => exact hC.matching _ (hC.anchored rfl)

/-- Items end. -/
theorem ItemKind.parser_ends (kind : ItemKind) (pos : Position) :
    kind.parser.EndsAt fuel pos := by
  cases kind with
  | letters => exact Parser.onRemainder_ends _
  | digits => exact Parser.onRemainder_ends _
  | alnum => exact Parser.onRemainder_ends _
  | float => exact Parser.onRemainder_ends _

namespace Command

/-- Parsers of commands run alike where looking at the text tells no difference. -/
theorem parser_agree (hC : C.Readable good) (command : Command) :
    C.Agree fuel command.parser command.parser := by
  cases command with
  | literal expected input => exact (hC.literal expected).map _
  | pattern kind input => exact (kind.parser_agree hC).map _
  | list kind input separator => exact ((hC.literal separator).sepBy1 (kind.parser_agree hC)).map _

/-- The parser of a command ends if there is fuel for each byte of the text. -/
theorem parser_ends (command : Command) {pos : Position} (hfuel : byteLength pos.input < fuel) :
    command.parser.EndsAt fuel pos := by
  cases command with
  | literal expected input => exact (Parser.onRemainder_ends _).map _
  | pattern kind input => exact (kind.parser_ends pos).map _
  | list kind input separator =>
    have hseparator : (Parser.literal separator).Forward fuel :=
      fun start => (forwardFrom_readable start).literal separator
    have hitem : kind.parser.Forward fuel :=
      fun start => kind.parser_agree (forwardFrom_readable start)
    refine (Parser.sepBy1_ends ?_).map _
    exact Parser.separated_ends hseparator hitem (kind.parser_ends pos)
      (fun _ _ next _ _ => ⟨Parser.onRemainder_ends _, kind.parser_ends next⟩) hfuel

/-- The final state of the parser of a command is the final state of the command. -/
theorem of_parser_endsIn {command : Command} {state : State Value}
    (h : command.parser.EndsIn command.input state) : command.EndsIn state := by
  cases command with
  | literal expected input =>
    obtain ⟨before, hbefore, rfl⟩ := h.of_map
    exact .literal hbefore
  | pattern kind input =>
    obtain ⟨before, hbefore, rfl⟩ := h.of_map
    exact .pattern kind.parser_readBy hbefore
  | list kind input separator =>
    obtain ⟨before, hbefore, rfl⟩ := h.of_map
    exact .list kind.parser_readBy hbefore

/-- Every command ends in a final state. The state is at a place of the input where text may be
asked for, and its failure is true of that place. -/
theorem run_done (command : Command) :
    ∃ state, command.run = .done state ∧ command.EndsIn state ∧
      (Position.start command.input.toList).Reaches state.toPosition ∧
      ∀ failure, state.result = .error failure → failure.TrueOf state.toPosition := by
  have hstart : (Position.start command.input.toList).WellFormed :=
    ⟨[], command.input.toList, rfl, rfl⟩
  have hends : ∀ fuel, command.input.utf8ByteSize < fuel →
      command.parser.run fuel command.input.toList ≠ .exhausted := by
    intro fuel hfuel
    refine command.parser_ends ?_
    change byteLength command.input.toList < fuel
    rwa [byteLength_toList]
  have hfuel : command.input.utf8ByteSize < command.input.utf8ByteSize + 2 := by omega
  have hrel : Run.Rel False (Correspondence.soundFrom (Position.start command.input.toList)).States
      command.run command.run :=
    (command.parser_agree (soundFrom_readable _)).apply
      (.succeed () ⟨rfl, rfl, hstart, Nat.le_refl _⟩)
  cases hrun : command.run with
  | done state =>
    rw [hrun] at hrel
    obtain ⟨_, _, hstates⟩ := hrel.exists_done
    have hfinal : command.EndsIn state :=
      of_parser_endsIn (Parser.endsIn_of_run hends hfuel hrun)
    exact ⟨state, rfl, hfinal, hstates.of_keeping.2⟩
  | offBoundary => exact absurd hrun hrel.ne_offBoundary
  | exhausted => exact absurd hrun (hends _ hfuel)

end Command

/-- A failure that is true of a place where text may be asked for has a diagnosis. -/
theorem Failure.TrueOf.exists_diagnosis {failure : Failure} {pos : Position}
    (h : failure.TrueOf pos) (hpos : pos.WellFormed) (name : String) :
    ∃ diagnosis, failure.diagnose? ⟨name, pos.input⟩ = some diagnosis ∧
      diagnosis.failure = failure ∧ diagnosis.source = ⟨name, pos.input⟩ := by
  obtain ⟨rest, hrest⟩ := Position.wellFormed_iff.1 hpos
  have hlength : (charLengthAt? pos.input failure.index).isSome := by
    rw [charLengthAt?, h.1, Nat.min_eq_left hpos.index_le, Option.isSome_map]
    exact Option.isSome_of_eq_some hrest
  obtain ⟨length, hlength⟩ := Option.isSome_iff_exists.1 hlength
  exact ⟨_, by rw [Failure.diagnose?, hlength, Option.map_some], rfl, rfl⟩

namespace Outcome

/-- The line that says what the rest of the text is. -/
def remainingLine (outcome : Outcome) : Text :=
  "remaining: ".toList ++ Quoted.quote outcome.remainder

/-- The rest of the text has a line if there is any. -/
theorem describe_eq (outcome : Outcome) :
    outcome.describe = outcome.matchedLine ::
      if outcome.remainder = [] then [] else [outcome.remainingLine] := by
  unfold describe
  by_cases hend : outcome.remainder = []
  · rw [if_pos (List.isEmpty_iff.2 hend), if_pos hend]
  · rw [if_neg (mt List.isEmpty_iff.1 hend), if_neg hend]
    rfl

/-- The outcome of a state has a rest exactly if the state is not at the end. -/
theorem remainder_eq_nil_iff {state : State Value} {outcome : Outcome}
    (h : ofState? state = some outcome) :
    outcome.remainder = [] ↔ ¬ state.index < byteLength state.input := by
  obtain ⟨rest, hrest, rfl⟩ := Option.map_eq_some_iff.1 h
  obtain ⟨before, hinput, hindex⟩ := dropBytes?_eq_some_iff.1 hrest
  rw [hinput, byteLength_append, hindex, ← byteLength_eq_zero]
  change byteLength rest = 0 ↔ _
  omega

end Outcome

/-- What a report tells of the final state of the command of a request. -/
structure Report.Tells (report : Report) (request : Request) (state : State Value) : Prop where
  /-- In JSON the outcome is put out whatever it is. In text only a value is described, with a line
  for the rest of the input if there is any. -/
  texts : ∃ outcome, Outcome.ofState? state = some outcome ∧
    (report.texts =
      if request.json then [outcome.toJson] else if state.isError then [] else outcome.describe) ∧
    outcome.describe = outcome.matchedLine ::
      if state.index < request.command.input.utf8ByteSize then [outcome.remainingLine] else []
  /-- A value has no diagnosis. -/
  value : ∀ value, state.result = .ok value → report.diagnosis? = none
  /-- A failure has one that carries it and the input. -/
  failure : ∀ failure, state.result = .error failure → ∃ diagnosis,
    report.diagnosis? = some diagnosis ∧ diagnosis.failure = failure ∧
      diagnosis.source = ⟨"input", request.command.input.toList⟩

namespace Request

/-- A request is executed by running its command and telling the final state. The diagnosis is the
same in either form of the report. -/
theorem execute_tells (command : Command) : ∃ state diagnosis?, command.EndsIn state ∧
    ∀ json, ∃ texts, (Request.mk json command).execute = .done ⟨texts, diagnosis?⟩ ∧
      (Report.mk texts diagnosis?).Tells ⟨json, command⟩ state := by
  obtain ⟨state, hrun, hfinal, hreach, htrue⟩ := command.run_done
  obtain ⟨rest, hrest⟩ := Position.wellFormed_iff.1 hreach.wellFormed
  have hinput : state.input = command.input.toList := hreach.input
  obtain ⟨outcome, houtcome⟩ : ∃ outcome, Outcome.ofState? state = some outcome :=
    ⟨_, Option.map_eq_some_iff.2 ⟨rest, hrest, rfl⟩⟩
  have hdescribe : outcome.describe = outcome.matchedLine ::
      if state.index < command.input.utf8ByteSize then [outcome.remainingLine] else [] := by
    have hend := Outcome.remainder_eq_nil_iff houtcome
    rw [hinput, byteLength_toList] at hend
    simp only [outcome.describe_eq, hend, ite_not]
  have hvalue : outcome.failure? = none → ∀ json, (Request.mk json command).execute =
      .done ⟨(Request.mk json command).texts outcome, none⟩ := by
    intro hfailure json
    simp only [Request.execute, hrun, Run.bind, houtcome, Run.ofOption, hfailure]
  have hrefused : ∀ failure, outcome.failure? = some failure → ∀ json,
      (Request.mk json command).execute =
        (Run.ofOption (failure.diagnose? ⟨"input", command.input.toList⟩)).map
          fun diagnosis => ⟨(Request.mk json command).texts outcome, some diagnosis⟩ := by
    intro failure hfailure json
    simp only [Request.execute, hrun, Run.bind, houtcome, Run.ofOption, hfailure]
  have hresult : outcome.result = state.result := by
    obtain ⟨_, _, rfl⟩ := Option.map_eq_some_iff.1 houtcome
    rfl
  cases state with
  | succeed pos value =>
    have hfailure : outcome.failure? = none := by
      rw [Outcome.failure?, hresult]
      rfl
    refine ⟨_, none, hfinal, fun json => ⟨(Request.mk json command).texts outcome, ?_, ?_⟩⟩
    · exact hvalue hfailure json
    · refine ⟨⟨outcome, houtcome, ?_, hdescribe⟩, fun _ _ => rfl, fun _ h => (by cases h)⟩
      rw [Request.texts, Outcome.isSuccess, hfailure]
      rfl
  | fail pos failure =>
    have hfailure : outcome.failure? = some failure := by
      rw [Outcome.failure?, hresult]
      rfl
    obtain ⟨diagnosis, hdiagnosis, hcarried, hsource⟩ :=
      (htrue failure rfl).exists_diagnosis hreach.wellFormed "input"
    rw [show (pos.fail failure : State Value).toPosition.input = command.input.toList from hinput]
      at hdiagnosis hsource
    refine ⟨_, some diagnosis, hfinal, fun json => ⟨(Request.mk json command).texts outcome, ?_, ?_⟩⟩
    · rw [hrefused failure hfailure, hdiagnosis]
      rfl
    · refine ⟨⟨outcome, houtcome, ?_, hdescribe⟩, fun _ h => (by cases h), ?_⟩
      · rw [Request.texts, Outcome.isSuccess, hfailure]
        rfl
      · intro other hother
        cases hother
        exact ⟨diagnosis, rfl, hcarried, hsource⟩

end Request

end ParserCombinators
