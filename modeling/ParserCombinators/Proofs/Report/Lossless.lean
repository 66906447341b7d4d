import ParserCombinators.Proofs.Json.Reading
import ParserCombinators.Report.Reader

/-!
# Outcomes are read back from their JSON text

The JSON text of an outcome is a JSON text of one object. It holds the text, the index, the rest of
the text, and either the value or the failure. The outcome is found again from the fields, so no
two final states have a common JSON text.
-/

namespace ParserCombinators

/-- The fields tell what a final state is. A value has its field even if it is null. -/
structure State.ReportedBy (state : State Value) (fields : List (String × Value)) : Prop where
  /-- No field is there twice. -/
  nodup : (fields.map Prod.fst).Nodup
  input : fields.lookup "input" = some (.str (String.ofList state.input))
  index : fields.lookup "index" = some (.int state.index)
  remainder : ∃ rest, state.remainder? = some rest ∧
    fields.lookup "remainder" = some (.str (String.ofList rest))
  result : ∀ value, fields.lookup "result" = some value ↔ state.result = .ok value
  error : ∀ json, fields.lookup "error" = some json ↔
    ∃ failure, state.result = .error failure ∧ json = failure.toJson

/-- The fields of a kind of failure tell which it is. -/
theorem Failure.Kind.ofJson?_toJson (failure : Failure) :
    Failure.Kind.ofJson? failure.toJson = some failure.kind := by
  obtain ⟨kind, index, message⟩ := failure
  cases kind <;> rfl

/-- A failure is found again from its JSON. -/
theorem Failure.ofJson?_toJson (failure : Failure) :
    Failure.ofJson? failure.toJson = some failure := by
  have hindex : failure.toJson.natField? "index" = some failure.index := by
    obtain ⟨kind, index, message⟩ := failure
    cases kind <;> rfl
  have hmessage : failure.toJson.stringField? "message" = some failure.message := by
    obtain ⟨kind, index, message⟩ := failure
    cases kind <;> rfl
  simp only [Failure.ofJson?, Failure.Kind.ofJson?_toJson, hindex, hmessage, bind,
    Option.bind_some, pure]

namespace Outcome

variable {state : State Value} {outcome : Outcome}

/-- The JSON of an outcome is an object whose fields tell what the state is. -/
theorem toValue_reportedBy (h : ofState? state = some outcome) :
    ∃ fields, outcome.toValue = .obj fields ∧ state.ReportedBy fields := by
  obtain ⟨rest, hrest, rfl⟩ := Option.map_eq_some_iff.1 h
  refine ⟨_, rfl, ?_⟩
  cases state with
  | succeed pos value =>
    exact {
      nodup := by simp [Position.succeed]
      input := rfl
      index := rfl
      remainder := ⟨rest, hrest, rfl⟩
      result := fun other => by simp [Position.succeed, List.lookup_cons]
      error := fun json => by simp [Position.succeed, List.lookup_cons] }
  | fail pos failure =>
    exact {
      nodup := by simp [Position.fail]
      input := rfl
      index := rfl
      remainder := ⟨rest, hrest, rfl⟩
      result := fun other => by simp [Position.fail, List.lookup_cons]
      error := fun json => by simp [Position.fail, List.lookup_cons, eq_comm] }

/-- An outcome is found again from its JSON. -/
theorem ofJson?_toValue (outcome : Outcome) : Outcome.ofJson? outcome.toValue = some outcome := by
  obtain ⟨state, remainder⟩ := outcome
  have hremainder : (toValue ⟨state, remainder⟩).stringField? "remainder" =
      some (String.ofList remainder) := rfl
  cases state with
  | succeed pos value =>
    have hinput : (toValue ⟨pos.succeed value, remainder⟩).stringField? "input" =
        some (String.ofList pos.input) := rfl
    have hindex : (toValue ⟨pos.succeed value, remainder⟩).natField? "index" =
        some pos.index := rfl
    have hresult : (toValue ⟨pos.succeed value, remainder⟩).field? "result" = some value := rfl
    have herror : (toValue ⟨pos.succeed value, remainder⟩).field? "error" = none := rfl
    simp only [ofJson?, hinput, hindex, hremainder, hresult, herror, bind, Option.bind_some, pure,
      String.toList_ofList]
    rfl
  | fail pos failure =>
    have hinput : (toValue ⟨pos.fail failure, remainder⟩).stringField? "input" =
        some (String.ofList pos.input) := rfl
    have hindex : (toValue ⟨pos.fail failure, remainder⟩).natField? "index" = some pos.index := rfl
    have hresult : (toValue ⟨pos.fail failure, remainder⟩).field? "result" = none := rfl
    have herror : (toValue ⟨pos.fail failure, remainder⟩).field? "error" =
        some failure.toJson := rfl
    simp only [ofJson?, hinput, hindex, hremainder, hresult, herror, Failure.ofJson?_toJson, bind,
      Option.bind_some, Option.map_some, pure, String.toList_ofList]
    rfl

/-- Outcomes with the same JSON text are the same. -/
theorem toJson_injective : Function.Injective toJson := by
  intro first second h
  have hvalues : some first.toValue = some second.toValue := by
    rw [← Value.read?_pretty first.toValue 0, ← Value.read?_pretty second.toValue 0]
    exact congrArg Value.read? h
  have houtcomes : some first = some second := by
    rw [← ofJson?_toValue first, ← ofJson?_toValue second, Option.some.inj hvalues]
  exact Option.some.inj houtcomes

/-- An outcome is one of a single state. -/
theorem toState_eq_of_ofState? (h : ofState? state = some outcome) : outcome.toState = state := by
  obtain ⟨remainder, _, rfl⟩ := Option.map_eq_some_iff.1 h
  rfl

/-- The JSON text of the outcome of a final state is read as an object whose fields tell what the
state is: its text and its index, the rest of the text, and either its value or its failure. The
outcome is found again from the object, and no other final state has an outcome with this text. -/
theorem toJson_lossless (h : ofState? state = some outcome) :
    (∃ fields, Value.read? outcome.toJson = some (.obj fields) ∧ state.ReportedBy fields ∧
      ofJson? (.obj fields) = some outcome) ∧
      ∀ (other : State Value) (outcome' : Outcome), ofState? other = some outcome' →
        outcome'.toJson = outcome.toJson → other = state ∧ outcome' = outcome := by
  constructor
  · obtain ⟨fields, hfields, hreported⟩ := toValue_reportedBy h
    refine ⟨fields, ?_, hreported, ?_⟩
    · rw [← hfields]
      exact Value.read?_pretty outcome.toValue 0
    · rw [← hfields]
      exact ofJson?_toValue outcome
  · intro other outcome' hother htext
    have heq := toJson_injective htext
    rw [← toState_eq_of_ofState? hother, heq]
    exact ⟨toState_eq_of_ofState? h, rfl⟩

/-- A success whose value is an object with a string that looks like JSON. -/
def quotedSuccess : Outcome where
  toState := (⟨"é\"\n".toList, 2⟩ : Position).succeed (.obj [("k", .arr [.null, .str "\"]\n"])])
  remainder := "\"\n".toList

/-- The JSON text of that success tells it apart from every other state. -/
theorem toJson_lossless_quotedSuccess :
    ofState? quotedSuccess.toState = some quotedSuccess ∧
      (∃ fields, Value.read? quotedSuccess.toJson = some (.obj fields) ∧
        quotedSuccess.ReportedBy fields ∧ ofJson? (.obj fields) = some quotedSuccess) ∧
      ∀ (other : State Value) (outcome' : Outcome), ofState? other = some outcome' →
        outcome'.toJson = quotedSuccess.toJson →
          other = quotedSuccess.toState ∧ outcome' = quotedSuccess := by
  have h : ofState? quotedSuccess.toState = some quotedSuccess := rfl
  exact ⟨h, toJson_lossless h⟩

end Outcome

end ParserCombinators
