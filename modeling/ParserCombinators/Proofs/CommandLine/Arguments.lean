import ParserCombinators.CommandLine.Arguments

/-!
# Every request can be written

A command is written as its name, its settings, two hyphens and its operands. The settings cannot
be mistaken: the name of a kind is a plain word, and the separator is attached to its option. Behind
the two hyphens nothing is a flag, an option or a command any more, so the operands are read as they
stand, whatever they look like. The flag for JSON may stand in front of the command or behind its
name.
-/

namespace ParserCombinators

namespace Command

/-- The form of a command. -/
def form : Command → CommandLine.Form
  | literal _ _ => .literal
  | pattern _ _ => .pattern
  | list _ _ _ => .list

/-- What is written of a command in front of the two hyphens. -/
def settings : Command → List String
  | literal _ _ => []
  | pattern kind _ => [kind.name]
  | list kind _ separator => ["--separator=" ++ separator, kind.name]

/-- What is written of a command behind the two hyphens. -/
def operands : Command → List String
  | literal expected input => [expected, input]
  | pattern _ input => [input]
  | list _ input _ => [input]

/-- A command as arguments, with flags behind its name. -/
def written (flags : List String) (command : Command) : List String :=
  command.name :: (flags ++ (command.settings ++ "--" :: command.operands))

end Command

/-- The name of a kind is a plain word. -/
theorem ItemKind.head?_name (kind : ItemKind) : kind.name.toList.head? ≠ some '-' := by
  cases kind <;> decide

namespace CommandLine

/-- The name of a command tells its form. -/
theorem Form.ofName?_name (command : Command) : ofName? command.name = some command.form := by
  cases command <;> rfl

namespace Reading

variable {reading next : Reading} {argument : String} {values : List String}

/-- Nothing waits for a value, and if there is a first operand, the form allows it. -/
structure Settles (reading : Reading) : Prop where
  pending : reading.pending = .nothing ∨ reading.pending = .operand
  first : ∀ operand ∈ reading.operands.head?,
    (reading.form.takesText 0 || (ItemKind.ofName? operand).isSome) = true

/-- The reading of a whole command. -/
def complete (json : Bool) : Command → Reading
  | .literal expected input =>
    { form := .literal, json, operands := [expected, input], operandsOnly := true }
  | .pattern kind input =>
    { form := .pattern, json, operands := [kind.name, input], operandsOnly := true }
  | .list kind input separator =>
    { form := .list, json, operands := [kind.name, input], separator? := some separator,
      operandsOnly := true }

/-- A name without an equals sign is split from the value that is attached to it. -/
theorem splitAttached_equals (name value : Text) (hname : '=' ∉ name) :
    splitAttached (name ++ '=' :: value) = (String.ofList name, some (String.ofList value)) := by
  have hall : ∀ c ∈ name, (c != '=') = true := by
    intro c hc
    exact bne_iff_ne.2 fun heq => hname (heq ▸ hc)
  have hdrop : (name ++ '=' :: value).dropWhile (· != '=') = '=' :: value := by
    rw [List.dropWhile_append_of_pos hall, List.dropWhile_cons_of_neg (by decide)]
  have htake : (name ++ '=' :: value).takeWhile (· != '=') = name := by
    rw [List.takeWhile_append_of_pos hall, List.takeWhile_cons_of_neg (by decide), List.append_nil]
  rw [splitAttached, hdrop, htake]

/-- Two hyphens end the options. -/
theorem take_hyphens (hoptions : reading.operandsOnly = false) :
    reading.take "--" = .ok { reading with operandsOnly := true } := by
  rw [take, hoptions]
  rfl

/-- Among the options a text behind two hyphens is a flag or an option, split from the value that is
attached to it. -/
theorem take_long (hoptions : reading.operandsOnly = false) {long : Text}
    (htext : argument.toList = '-' :: '-' :: long) (hlong : long ≠ []) :
    reading.take argument =
      reading.takeLong argument (splitAttached long).1 (splitAttached long).2 := by
  rw [take, hoptions, htext]
  cases long with
  | nil => exact absurd rfl hlong
  | cons c rest => rfl

/-- Among the options the flag for JSON is a flag. -/
theorem take_json (hoptions : reading.operandsOnly = false) :
    reading.take "--json" = reading.takeJson := by
  have htext : "--json".toList = '-' :: '-' :: "json".toList := rfl
  rw [take_long hoptions htext (List.cons_ne_nil _ _)]
  rfl

/-- Among the options a separator is one, whatever text is attached. -/
theorem take_separator (hoptions : reading.operandsOnly = false)
    (hform : reading.form.hasSeparator = true) (value : String) :
    reading.take ("--separator=" ++ value) = reading.takeSeparator (some value) := by
  have htext : ("--separator=" ++ value).toList =
      '-' :: '-' :: ("separator".toList ++ '=' :: value.toList) := by
    rw [String.toList_append]
    rfl
  have hsplit := splitAttached_equals "separator".toList value.toList (by decide)
  rw [String.ofList_toList, String.ofList_toList] at hsplit
  rw [take_long hoptions htext (List.cons_ne_nil _ _), hsplit]
  simp [takeLong, hform]

/-- Among the options a word without a hyphen in front is a value. -/
theorem take_word (hoptions : reading.operandsOnly = false)
    (hword : argument.toList.head? ≠ some '-') :
    reading.take argument = reading.takeValue argument := by
  rw [take, hoptions]
  cases htext : argument.toList with
  | nil => rfl
  | cons c rest =>
    have hc : c ≠ '-' := by simpa [htext] using hword
    simp [hc]

/-- Behind the options every argument is an operand as it stands. -/
theorem take_operand (honly : reading.operandsOnly = true) (argument : String) :
    reading.take argument = reading.takeOperand argument := by
  rw [take, honly]
  rfl

/-- Settling such a reading leaves nothing pending and changes nothing else. -/
theorem Settles.settle (h : reading.Settles) :
    reading.settle = .ok { reading with pending := .nothing } := by
  obtain ⟨form, json, operands, separator?, pending, operandsOnly⟩ := reading
  rcases h.pending with rfl | rfl
  · rfl
  · rcases operands with _ | ⟨first, _ | ⟨second, others⟩⟩
    · rfl
    · exact if_pos (h.first first rfl)
    · rfl

/-- A further operand is taken if there is a place for it. -/
theorem Settles.takeOperand (h : reading.Settles) (hplace : reading.operands.length < 2)
    (argument : String) : reading.takeOperand argument =
      .ok { reading with operands := reading.operands ++ [argument], pending := .operand } := by
  rw [Reading.takeOperand, if_pos hplace, h.settle]
  rfl

/-- Arguments are read one after another. -/
theorem takeAll_cons (h : reading.take argument = .ok next) (rest : List String) :
    reading.takeAll (argument :: rest) = next.takeAll rest := by
  rw [takeAll, h]
  rfl

/-- Behind the options all arguments are operands as they stand, if there are places for them and
the form allows the first operand. -/
theorem takeAll_operands (honly : reading.operandsOnly = true)
    (hsettles : Settles { reading with operands := reading.operands ++ values })
    (hplaces : reading.operands.length + values.length ≤ 2) : reading.takeAll values =
      .ok { reading with operands := reading.operands ++ values, pending := .nothing } := by
  induction values generalizing reading with
  | nil =>
    rw [List.append_nil] at hsettles ⊢
    exact hsettles.settle
  | cons value values ih =>
    have hnow : reading.Settles := by
      refine ⟨hsettles.pending, fun operand hoperand => hsettles.first operand ?_⟩
      simp only [List.head?_append, Option.mem_def] at hoperand ⊢
      rw [hoperand]
      rfl
    have hplace : reading.operands.length < 2 := by
      rw [List.length_cons] at hplaces
      omega
    have hstep := (take_operand honly value).trans (hnow.takeOperand hplace value)
    have hshift : reading.operands ++ value :: values = reading.operands ++ [value] ++ values := by
      simp
    rw [takeAll_cons hstep, hshift]
    refine ih honly ⟨.inr rfl, hshift ▸ hsettles.first⟩ ?_
    simp only [List.length_append, List.length_cons, List.length_nil] at hplaces ⊢
    omega

/-- Behind two hyphens all arguments are operands as they stand. -/
theorem takeAll_hyphens (hoptions : reading.operandsOnly = false)
    (hsettles : Settles { reading with operands := reading.operands ++ values })
    (hplaces : reading.operands.length + values.length ≤ 2) :
    reading.takeAll ("--" :: values) = .ok { reading with
      operands := reading.operands ++ values, pending := .nothing, operandsOnly := true } := by
  rw [takeAll_cons (take_hyphens hoptions)]
  exact takeAll_operands rfl ⟨hsettles.pending, hsettles.first⟩ hplaces

/-- The name of a kind and one further operand behind two hyphens are the operands. -/
theorem takeAll_kind (hoptions : reading.operandsOnly = false)
    (hsettled : reading.pending = .nothing) (hfirst : reading.operands = []) (kind : ItemKind)
    (input : String) : reading.takeAll [kind.name, "--", input] = .ok { reading with
      operands := [kind.name, input], pending := .nothing, operandsOnly := true } := by
  obtain ⟨form, json, operands, separator?, pending, operandsOnly⟩ := reading
  obtain rfl : operandsOnly = false := hoptions
  obtain rfl : pending = .nothing := hsettled
  obtain rfl : operands = [] := hfirst
  have hkind : Reading.take { form, json, separator? } kind.name =
      .ok { form, json, separator?, operands := [kind.name], pending := .operand } :=
    take_word rfl kind.head?_name
  have hallowed : ∀ operand ∈ [kind.name, input].head?,
      (form.takesText 0 || (ItemKind.ofName? operand).isSome) = true := by
    intro operand hoperand
    obtain rfl : kind.name = operand := Option.some.inj hoperand
    rw [ItemKind.ofName?_name, Option.isSome_some, Bool.or_true]
  rw [takeAll_cons hkind]
  exact takeAll_hyphens rfl ⟨.inr rfl, hallowed⟩ (Nat.le_refl 2)

/-- Behind the name and the flags of a command, its arguments are read as a whole. -/
theorem takeAll_settings (json : Bool) (command : Command) :
    Reading.takeAll { form := command.form, json } (command.settings ++ "--" :: command.operands) =
      .ok (complete json command) := by
  cases command with
  | literal expected input =>
    exact takeAll_hyphens rfl ⟨.inl rfl, fun _ _ => rfl⟩ (Nat.le_refl 2)
  | pattern kind input => exact takeAll_kind rfl rfl rfl kind input
  | list kind input separator =>
    have hseparator : Reading.take { form := .list, json } ("--separator=" ++ separator) =
        .ok { form := .list, json, separator? := some separator } :=
      take_separator rfl rfl separator
    exact (takeAll_cons hseparator _).trans (takeAll_kind rfl rfl rfl kind input)

/-- A whole reading keeps the flag for JSON. -/
theorem json_complete (json : Bool) (command : Command) :
    (complete json command).json = json := by
  cases command <;> rfl

/-- A whole reading makes the command. -/
theorem command_complete (json : Bool) (command : Command) :
    (complete json command).command = .ok command := by
  cases command with
  | literal expected input => rfl
  | pattern kind input => simp [complete, Reading.command, ItemKind.ofName?_name]
  | list kind input separator => simp [complete, Reading.command, ItemKind.ofName?_name]

end Reading

/-- Behind the name of a command its arguments are read. -/
theorem readFrom_name (json : Bool) (command : Command) (arguments : List String) :
    readFrom json (command.name :: arguments) = readCommand command.form json arguments := by
  rw [readFrom, Form.ofName?_name]

/-- A whole reading makes the request. -/
theorem readCommand_complete {command : Command} {arguments : List String} {flagged : Bool}
    (h : Reading.takeAll { form := command.form } arguments = .ok (.complete flagged command))
    (json : Bool) :
    readCommand command.form json arguments = .ok ⟨json || flagged, command⟩ := by
  simp only [readCommand, h, bind, Except.bind, Reading.command_complete, Reading.json_complete]
  rfl

/-- Every command is read back from its name, its settings, two hyphens and its operands, whatever
the operands and the separator are. So is a request for JSON, with the flag in front of the command
or behind its name. -/
theorem readArguments_written (command : Command) :
    readArguments (command.written []) = .ok ⟨false, command⟩ ∧
      readArguments ("--json" :: command.written []) = .ok ⟨true, command⟩ ∧
      readArguments (command.written ["--json"]) = .ok ⟨true, command⟩ := by
  have hplain : ∀ json, readFrom json (command.written []) = .ok ⟨json, command⟩ := by
    intro json
    rw [Command.written, List.nil_append, readFrom_name,
      readCommand_complete (Reading.takeAll_settings false command), Bool.or_false]
  have hjson : Reading.take { form := command.form } "--json" =
      .ok { form := command.form, json := true } :=
    Reading.take_json rfl
  have hflag := (Reading.takeAll_cons hjson _).trans (Reading.takeAll_settings true command)
  refine ⟨hplain false, hplain true, ?_⟩
  rw [Command.written, List.singleton_append, readArguments, readFrom_name,
    readCommand_complete hflag, Bool.false_or]

/-- Operands and a separator that look like flags and commands. -/
example : readArguments ["list", "--separator=--json", "digits", "--", "-h"] =
    .ok ⟨false, .list .digits "-h" "--json"⟩ := by
  cbv

end CommandLine

end ParserCombinators
