import ParserCombinators.CommandLine.Response
import ParserCombinators.Proofs.CommandLine.Execute
import ParserCombinators.Proofs.Report.Sink

/-!
# What is printed for a request

The standard output shows the texts of the report, each on a line of its own. Colour is put on the
first word of the report of a match and on nothing else. The error output and the exit code follow
the diagnosis.
-/

namespace ParserCombinators

namespace Outcome

/-- The JSON text begins with a brace. -/
theorem head_toJson (outcome : Outcome) : outcome.toJson.head? = some '\x7b' := rfl

/-- The line for the rest begins with its own word. -/
theorem head_remainingLine (outcome : Outcome) : outcome.remainingLine.head? = some 'r' := rfl

/-- The line for a match begins with the word that reports it. -/
theorem exists_matchedLine (outcome : Outcome) :
    ∃ rest, outcome.matchedLine = matchedWord ++ ' ' :: rest := by
  have hword : "matched ".toList = matchedWord ++ [' '] := rfl
  unfold matchedLine
  simp only [List.append_assoc]
  rw [hword, List.append_assoc]
  exact ⟨_, rfl⟩

end Outcome

/-- A text that begins with another letter is printed as it stands. -/
theorem terminalLine_of_head {text : Text} {c : Char} (h : text.head? = some c) (hc : c ≠ 'm')
    (colour : Bool) : terminalLine colour text = text ++ ['\n'] := by
  apply terminalLine_other
  rintro ⟨rest, rfl⟩
  exact hc (Option.some.inj h).symm

/-- Colour is put on the first word of a description. -/
theorem Outcome.exists_terminalAll (outcome : Outcome) :
    ∃ rest, ∀ colour, terminalAll colour outcome.describe =
      (if colour then colouredMatchedWord else matchedWord) ++ ' ' :: rest := by
  obtain ⟨first, hmatched⟩ := outcome.exists_matchedLine
  rw [describe_eq, hmatched]
  split_ifs with hrest
  · refine ⟨first ++ ['\n'], fun colour => ?_⟩
    simp only [terminalAll, List.flatMap_cons, List.flatMap_nil, terminalLine_matched,
      List.append_nil, List.append_assoc, List.cons_append]
  · refine ⟨first ++ ['\n'] ++ (outcome.remainingLine ++ ['\n']), fun colour => ?_⟩
    have hremaining := terminalLine_of_head outcome.head_remainingLine (by decide) colour
    simp only [terminalAll, List.flatMap_cons, List.flatMap_nil, terminalLine_matched,
      hremaining, List.append_nil, List.append_assoc, List.cons_append]

/-- A text with a first character is not empty. -/
theorem ne_nil_of_head {text : Text} {c : Char} (h : text.head? = some c) : text ≠ [] := by
  rintro rfl
  cases h

namespace CommandLine

/-- A diagnosis is shown as some text. -/
theorem diagnosisText_ne_nil (diagnosis : Diagnosis) : diagnosisText diagnosis ≠ [] := by
  simp [diagnosisText, Diagnosis.code]

/-- What the program answers with a report, with and without colour. -/
structure Answers (json : Bool) (report : Report) (plain coloured : Response) : Prop where
  /-- The output is what a buffer holds, and a line feed if there was anything to put out. -/
  output : plain.output = if report.texts = [] then [] else bufferAll report.texts ++ ['\n']
  /-- Colour is on the first word of the first line of text, and nowhere else. -/
  colour : if json ∨ report.texts = [] then coloured.output = plain.output
    else ∃ rest, plain.output = matchedWord ++ ' ' :: rest ∧
      coloured.output = colouredMatchedWord ++ ' ' :: rest
  errors : ∀ response ∈ [plain, coloured],
    (response.errors = [] ↔ report.diagnosis? = none ∨ json = true)
  exitCode : ∀ response ∈ [plain, coloured],
    response.exitCode = if report.diagnosis?.isSome then 1 else 0

variable {report : Report} {request : Request} {state : State Value}

/-- The error output is empty for a value and in JSON. -/
theorem response_errors (colour json : Bool) (report : Report) :
    (Report.response colour json report).errors = [] ↔ report.diagnosis? = none ∨ json = true := by
  obtain ⟨texts, diagnosis?⟩ := report
  cases json with
  | true => simp [Report.response]
  | false =>
    cases diagnosis? with
    | none => simp [Report.response]
    | some diagnosis => simpa [Report.response] using diagnosisText_ne_nil diagnosis

/-- A report that tells a final state puts out texts that are not empty. -/
theorem nil_not_mem_texts (h : report.Tells request state) : [] ∉ report.texts := by
  obtain ⟨outcome, _, htexts, hdescribe⟩ := h.texts
  obtain ⟨rest, hmatched⟩ := outcome.exists_matchedLine
  have hjson := ne_nil_of_head outcome.head_toJson
  have hremaining := ne_nil_of_head outcome.head_remainingLine
  have hword : outcome.matchedLine ≠ [] := by simp [hmatched]
  rw [htexts, hdescribe]
  split_ifs <;> simp [hjson.symm, hremaining.symm, hword.symm]

/-- Colour does not change what is printed for JSON. -/
theorem terminalAll_json (h : report.Tells request state) (hjson : request.json = true)
    (colour : Bool) : terminalAll colour report.texts = terminalAll false report.texts := by
  obtain ⟨outcome, _, htexts, _⟩ := h.texts
  rw [if_pos hjson] at htexts
  simp only [htexts, terminalAll, List.flatMap_singleton,
    terminalLine_of_head outcome.head_toJson (by decide)]

/-- In text, colour is put on the first word of what is printed. -/
theorem terminalAll_text (h : report.Tells request state) (hjson : request.json = false)
    (htexts : report.texts ≠ []) :
    ∃ rest, ∀ colour, terminalAll colour report.texts =
      (if colour then colouredMatchedWord else matchedWord) ++ ' ' :: rest := by
  obtain ⟨outcome, _, heq, _⟩ := h.texts
  simp only [hjson, Bool.false_eq_true, if_false] at heq
  split_ifs at heq with hfailed
  · exact absurd heq htexts
  · rw [heq]
    exact outcome.exists_terminalAll

/-- The program answers with a report that tells a final state. -/
theorem answers_of_tells (h : report.Tells request state) :
    Answers request.json report (Report.response false request.json report)
      (Report.response true request.json report) where
  output := by
    change terminalAll false report.texts = _
    split
    · next hnone => rw [hnone]; rfl
    · next hsome => exact terminalAll_plain hsome (nil_not_mem_texts h)
  colour := by
    change if _ then terminalAll true report.texts = terminalAll false report.texts
      else ∃ rest, terminalAll false report.texts = _ ∧ terminalAll true report.texts = _
    split
    · next hsame =>
      rcases hsame with hjson | hnone
      · exact terminalAll_json h hjson true
      · rw [hnone]
        rfl
    · next hother =>
      obtain ⟨hjson, hsome⟩ := not_or.1 hother
      obtain ⟨rest, hrest⟩ := terminalAll_text h (Bool.not_eq_true _ ▸ hjson) hsome
      exact ⟨rest, hrest false, hrest true⟩
  errors := by
    simp only [List.forall_mem_cons, List.not_mem_nil, false_implies, implies_true, and_true]
    exact ⟨response_errors false _ report, response_errors true _ report⟩
  exitCode := by
    simp only [List.forall_mem_cons, List.not_mem_nil, false_implies, implies_true, and_true]
    exact ⟨rfl, rfl⟩

end CommandLine

/-- Every command ends in a final state, and executing it reports that state: the report tells it
in either form, with the same diagnosis. The program answers arguments that make the request with
the report. -/
theorem Command.execute_faithful (command : Command) :
    ∃ state diagnosis?, command.EndsIn state ∧
      ∀ json, ∃ texts, (Request.mk json command).execute = .done ⟨texts, diagnosis?⟩ ∧
        (Report.mk texts diagnosis?).Tells ⟨json, command⟩ state ∧
        ∀ arguments, CommandLine.readArguments arguments = .ok ⟨json, command⟩ →
          CommandLine.Answers json ⟨texts, diagnosis?⟩ (CommandLine.respond false arguments)
            (CommandLine.respond true arguments) := by
  obtain ⟨state, diagnosis?, hfinal, hexecute⟩ := Request.execute_tells command
  refine ⟨state, diagnosis?, hfinal, fun json => ?_⟩
  obtain ⟨texts, hdone, htells⟩ := hexecute json
  refine ⟨texts, hdone, htells, fun arguments hread => ?_⟩
  have hrespond : ∀ colour, CommandLine.respond colour arguments =
      CommandLine.Report.response colour json ⟨texts, diagnosis?⟩ := by
    intro colour
    simp only [CommandLine.respond, hread, hdone]
  rw [hrespond, hrespond]
  exact CommandLine.answers_of_tells htells

/-- Two numbers in front of a character of two bytes are reported as a list, with a line for that
character and no diagnosis. -/
theorem Request.execute_numbers : (Request.mk false (.list .digits "1;2é" ";")).execute =
    .done ⟨["matched [\"1\",\"2\"] (consumed 3 of 5 bytes)".toList,
      "remaining: \"é\"".toList], none⟩ := by
  let state : State Value := (⟨"1;2é".toList, 3⟩ : Position).succeed (.arr [.str "1", .str "2"])
  have hrun : (Command.list .digits "1;2é" ";").run = .done state := by cbv
  have houtcome : Outcome.ofState? state = some ⟨state, ['é']⟩ := rfl
  have hdescribe : Outcome.describe ⟨state, ['é']⟩ =
      ["matched [\"1\",\"2\"] (consumed 3 of 5 bytes)".toList, "remaining: \"é\"".toList] := by
    decide +kernel
  rw [execute, hrun, Run.bind, houtcome, ← hdescribe]
  rfl

/-- The list of two numbers ends in its state, the program prints both lines with and without
colour, and its exit code is that of a success. -/
theorem Command.execute_faithful_list :
    (list .digits "1;2é" ";").EndsIn
        ((⟨"1;2é".toList, 3⟩ : Position).succeed (.arr [.str "1", .str "2"])) ∧
      (Request.mk false (list .digits "1;2é" ";")).execute =
        .done ⟨["matched [\"1\",\"2\"] (consumed 3 of 5 bytes)".toList,
          "remaining: \"é\"".toList], none⟩ ∧
      CommandLine.respond false ["list", "-s", ";", "digits", "1;2é"] =
        ⟨"matched [\"1\",\"2\"] (consumed 3 of 5 bytes)\nremaining: \"é\"\n".toList, [], 0⟩ ∧
      CommandLine.respond true ["list", "-s", ";", "digits", "1;2é"] =
        ⟨colouredMatchedWord ++
          " [\"1\",\"2\"] (consumed 3 of 5 bytes)\nremaining: \"é\"\n".toList, [], 0⟩ := by
  have hread : CommandLine.readArguments ["list", "-s", ";", "digits", "1;2é"] =
      .ok ⟨false, list .digits "1;2é" ";"⟩ := by
    cbv
  obtain ⟨state, diagnosis?, hfinal, hexecute⟩ := execute_faithful (list .digits "1;2é" ";")
  obtain ⟨texts, hdone, _, hanswers⟩ := hexecute false
  have hstate : state = (⟨"1;2é".toList, 3⟩ : Position).succeed (.arr [.str "1", .str "2"]) := by
    cases hfinal with
    | list hkind hends =>
      cases hkind
      have hrun : (Parser.sepBy1 (Parser.literal ";") Parser.digits).run 6 "1;2é".toList =
          .done ((⟨"1;2é".toList, 3⟩ : Position).succeed ["1", "2"]) := by
        cbv
      rw [← Run.done.inj (hrun.symm.trans (hends 6 (by decide)))]
      rfl
  have hreport := hdone.symm.trans Request.execute_numbers
  simp only [Run.done.injEq, Report.mk.injEq] at hreport
  obtain ⟨rfl, rfl⟩ := hreport
  obtain ⟨houtput, hcolour, herrors, hcode⟩ := hanswers _ hread
  simp only [List.forall_mem_cons, List.not_mem_nil, false_implies, implies_true, and_true]
    at herrors hcode
  have hprinted : bufferAll ["matched [\"1\",\"2\"] (consumed 3 of 5 bytes)".toList,
      "remaining: \"é\"".toList] ++ ['\n'] = matchedWord ++
        " [\"1\",\"2\"] (consumed 3 of 5 bytes)\nremaining: \"é\"\n".toList := by
    decide +kernel
  rw [if_neg (by simp)] at houtput hcolour
  rw [hprinted] at houtput
  obtain ⟨rest, hplain, hcoloured⟩ := hcolour
  have hrest : ' ' :: rest =
      " [\"1\",\"2\"] (consumed 3 of 5 bytes)\nremaining: \"é\"\n".toList :=
    List.append_cancel_left (hplain.symm.trans houtput)
  have hword : matchedWord ++
      " [\"1\",\"2\"] (consumed 3 of 5 bytes)\nremaining: \"é\"\n".toList =
        "matched [\"1\",\"2\"] (consumed 3 of 5 bytes)\nremaining: \"é\"\n".toList := by
    decide +kernel
  rw [hrest] at hcoloured
  refine ⟨hstate ▸ hfinal, Request.execute_numbers, ?_, ?_⟩
  · exact CommandLine.Response.ext (houtput.trans hword) (herrors.1.2 (.inl trivial)) hcode.1
  · exact CommandLine.Response.ext hcoloured (herrors.2.2 (.inl trivial)) hcode.2

/-- A literal that does not match is diagnosed on the error output. -/
example : CommandLine.respond false ["literal", "b", "é"] =
    ⟨[], ("strand::mismatch::literal_mismatch\nParse error: Tried to match b but got é\n" ++
      "0: expected \x60b\x60\n").toList, 1⟩ := by cbv

end ParserCombinators
