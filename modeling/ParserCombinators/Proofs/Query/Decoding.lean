import ParserCombinators.Proofs.Parser.Longest
import ParserCombinators.Query.Sentence

/-!
# Every written query is decoded

The parser of queries takes each part of a sentence and no more, whatever stands behind it. A
condition is told from one of the other form by its comparison, since the two begin alike with the
key. Numbers end at the next word, texts at their quotation mark, and lists where no joint follows.
-/

namespace ParserCombinators.Query

open ParserCombinators.Parser

variable {fuel : Nat} {kind : String} {rest : Text}

/-- No kind begins another one. -/
theorem kinds_prefixFree : PrefixFree kinds := by
  simp [PrefixFree, kinds]

/-- No key of a kind begins another one. -/
theorem keysFor_prefixFree (kind : String) : PrefixFree (keysFor kind) := by
  unfold keysFor
  split
  · simp [PrefixFree]
  · simp [PrefixFree]

/-- No comparison with a number begins another one. -/
theorem numericOps_prefixFree : PrefixFree numericOps := by
  simp [PrefixFree, numericOps]

/-- No comparison with a text begins another one. -/
theorem textOps_prefixFree : PrefixFree textOps := by
  simp [PrefixFree, textOps]

/-- No joint begins another one. -/
theorem joints_prefixFree : PrefixFree joints := by
  simp [PrefixFree, joints]

/-- A key of the kind is taken. -/
theorem key_takes (k : Key kind) : (key kind).Takes fuel k.1.toList rest k.1 :=
  (choice_literals_takes (keysFor_prefixFree kind) k.2).reword _

/-- A name of letters and digits is taken up to the comma. -/
theorem name_takes {name : String} (hne : name.toList ≠ [])
    (hname : ∀ c ∈ name.toList, c.isAlphanum) :
    lettersOrDigits.Takes fuel name.toList (", ".toList ++ rest) name :=
  lettersOrDigits_readsLongest.run_takes ⟨hne, hname⟩ rfl (by decide)

/-- A data set is taken. -/
theorem dataSet_takes {name : String} (hkind : kind ∈ kinds) (hne : name.toList ≠ [])
    (hname : ∀ c ∈ name.toList, c.isAlphanum) :
    dataSet.Takes fuel
      ("In ".toList ++ kind.toList ++ " dataset ".toList ++ name.toList ++ ", ".toList) rest
        { kind, name } := by
  have hkinds : (choice (kinds.map literal)).Takes fuel kind.toList
      (" dataset ".toList ++ (name.toList ++ (", ".toList ++ rest))) kind :=
    choice_literals_takes kinds_prefixFree hkind
  exact (((((literal_takes (by simp)).skipLeft hkinds).skip (literal_takes (by simp))).followedBy
    (name_takes hne hname)).skip (literal_takes (by simp))).map _

/-- A key and a comparison are taken. -/
theorem subject_takes {ops : List String} (hfree : PrefixFree ops) (k : Key kind) {op : String}
    (hop : op ∈ ops) :
    (subject kind ops).Takes fuel (k.1.toList ++ " ".toList ++ op.toList ++ " ".toList) rest
      (k.1, op) :=
  (((key_takes k).skip (literal_takes (by simp))).followedBy
    (choice_literals_takes hfree hop)).skip (literal_takes (by simp))

/-- A key in front of none of the comparisons is refused. -/
theorem subject_refuses {ops : List String} (k : Key kind)
    (h : ∀ op ∈ ops, ¬ op.toList <+: rest) :
    (subject kind ops).Refuses fuel (k.1.toList ++ " ".toList ++ rest) := by
  have hspace : (literal " ").Takes fuel " ".toList rest " " := literal_takes (by simp)
  exact (((key_takes k).skip hspace).followedBy_refuses (choice_literals_refuses h)).skip _

/-- A comparison with a number is taken where the number ends. -/
theorem numericFilter_takes (k : Key kind) {op number : String} (hop : op ∈ numericOps)
    (hnumber : IsDecimal number.toList) (hrest : EndsDecimal rest) :
    (numericFilter kind).Takes fuel
      (k.1.toList ++ " ".toList ++ op.toList ++ " ".toList ++ number.toList) rest
        { key := k.1, op, value := .number number } := by
  have hsubject : (subject kind numericOps).Takes fuel
      (k.1.toList ++ " ".toList ++ op.toList ++ " ".toList) (number.toList ++ rest) (k.1, op) :=
    subject_takes numericOps_prefixFree k hop
  have hfloat : floatingPoint.Takes fuel number.toList rest number :=
    floatingPoint_readsLongest.takes (Regex.longest_decimal hnumber hrest)
  exact (hsubject.followedBy hfloat).chain_success (if_pos hnumber.isFloat)

/-- The pattern of quoted text takes all characters up to a quotation mark. -/
theorem quotedText_eq : quotedText = matching "text"
    (Regex.seq (.look .start) (.loop () (.set (.compl (.single '"'))) true)).search := by
  have hread : Regex.Engine.standard.readPattern? "[^\"]*".toList =
      some (.seq (.look .start) (.counted (.set (.compl (.single '"'))) 0 none true)) := by
    decide +kernel
  simp only [quotedText, pattern?_of_readPattern? hread, Option.get_some]
  rfl

/-- A text without a quotation mark is taken up to one. -/
theorem quotedText_takes {content : String} (h : '"' ∉ content.toList) :
    quotedText.Takes fuel content.toList ("\"".toList ++ rest) content := by
  have htake : (content.toList ++ ("\"".toList ++ rest)).takeWhile (· != '"') = content.toList := by
    have hinside : ∀ c ∈ content.toList, (c != '"') = true := by
      intro c hc
      rw [bne_iff_ne]
      exact fun heq => h (heq ▸ hc)
    simp [List.takeWhile_append_of_pos hinside]
  rw [quotedText_eq]
  apply matching_takes _ (by simp)
  rw [Regex.search_find, Regex.find_until, htake]

/-- A comparison with a text is taken. -/
theorem textFilter_takes (k : Key kind) {op content : String} (hop : op ∈ textOps)
    (hcontent : '"' ∉ content.toList) :
    (textFilter kind).Takes fuel
      (k.1.toList ++ " ".toList ++ op.toList ++ " ".toList ++
        ("\"".toList ++ content.toList ++ "\"".toList)) rest
        { key := k.1, op, value := .text content } := by
  have hsubject : (subject kind textOps).Takes fuel
      (k.1.toList ++ " ".toList ++ op.toList ++ " ".toList)
        ("\"".toList ++ content.toList ++ "\"".toList ++ rest) (k.1, op) :=
    subject_takes textOps_prefixFree k hop
  have hquoted : (between (literal "\"") (literal "\"") quotedText).Takes fuel
      ("\"".toList ++ content.toList ++ "\"".toList) rest content :=
    Takes.between (literal_takes (by simp)) (quotedText_takes hcontent) (literal_takes (by simp))
  exact (hsubject.followedBy hquoted).map _

/-- A comparison with a text is not one with a number. -/
theorem numericFilter_refuses (k : Key kind) {op : String} (hop : op ∈ textOps) (content : Text) :
    (numericFilter kind).Refuses fuel
      (k.1.toList ++ " ".toList ++ op.toList ++ " ".toList ++
        ("\"".toList ++ content ++ "\"".toList) ++ rest) := by
  have hops : ∀ number ∈ numericOps, ¬ number.toList <+:
      op.toList ++ " ".toList ++ "\"".toList ++ (content ++ "\"".toList ++ rest) := by
    -- Both forms have a word "is", so the quotation mark behind it is part of what decides.
    simp only [textOps, List.mem_cons, List.not_mem_nil, or_false] at hop
    rcases hop with rfl | rfl
    · simp [numericOps]
    · simp [numericOps]
  have hsubject : (subject kind numericOps).Refuses fuel (k.1.toList ++ " ".toList ++
      (op.toList ++ " ".toList ++ "\"".toList ++ (content ++ "\"".toList ++ rest))) :=
    subject_refuses k hops
  simp only [List.append_assoc] at hsubject ⊢
  exact (hsubject.followedBy _).chain _

/-- A condition is taken where a number in it ends. -/
theorem clause_takes (clause : Clause kind) (hrest : EndsDecimal rest) :
    (choice [numericFilter kind, textFilter kind]).Takes fuel clause.written rest
      clause.meaning := by
  obtain ⟨k, comparison⟩ := clause
  cases comparison with
  | number op number hop hnumber => exact (numericFilter_takes k hop hnumber hrest).orElse _
  | text op content hop hcontent =>
    exact (numericFilter_refuses k hop content.toList).orElse_takes
      (textFilter_takes k hop hcontent)

/-- Conditions are not empty. -/
theorem Clause.written_ne_nil (clause : Clause kind) : clause.written ≠ [] := by
  simp [Clause.written]

/-- Behind a condition no number goes on. -/
theorem endsDecimal_clauses (h : EndsDecimal rest) (later : List (Clause kind)) :
    EndsDecimal (turns (fun _ => " and ".toList) Clause.written later ++ rest) := by
  cases later with
  | nil => exact h
  | cons clause later => exact stopsAt_cons (by decide) _

/-- The conditions are taken. -/
theorem filters_takes {clauses : List (Clause kind)}
    (hnumber : EndsDecimal rest) (hjoint : ¬ " and ".toList <+: rest)
    (hfuel : clauses.length < fuel) :
    (filters kind).Takes fuel (writtenClauses clauses) rest (clauses.map Clause.meaning) := by
  cases clauses with
  | nil => exact ((literal_takes (by simp)).map _).orElse _
  | cons first more =>
    have hstart : ¬ "find all entries".toList <+: writtenClauses (first :: more) ++ rest := by
      simp [writtenClauses_cons]
    have hall : ((literal "find all entries").map fun _ => ([] : List Filter)).Refuses fuel
        (writtenClauses (first :: more) ++ rest) := (literal_refuses hstart).map _
    refine hall.orElse_takes ?_
    refine Takes.skipLeft (literal_takes (by simp)) ?_
    -- A number ends at the joint behind its condition, or where the whole list does.
    apply sepBy1_takes fun _ => " and "
    · exact clause_takes first (endsDecimal_clauses hnumber more)
    · intro before clause after _
      exact ⟨literal_takes (by simp), clause_takes clause (endsDecimal_clauses hnumber after)⟩
    · exact fun clause _ => clause.written_ne_nil
    · exact (literal_refuses hjoint).skipLeft _
    · simp only [List.length_cons] at hfuel
      omega

/-- The keys to show are taken. -/
theorem display_takes {shown : Key kind} {more : List (Joint × Key kind)}
    (hrest : ∀ joint ∈ joints, ¬ joint.toList <+: rest) (hfuel : more.length < fuel) :
    (display kind).Takes fuel (writtenDisplay shown more) rest
      (shown.1 :: more.map fun also => also.2.1) := by
  refine Takes.skipLeft (literal_takes (by simp)) ?_
  apply sepBy1_takes (fun also => also.1.1) (key_takes shown)
  · intro before also after _
    exact ⟨choice_literals_takes joints_prefixFree also.1.2, key_takes also.2⟩
  · exact fun also _ => (keysFor_prefixFree kind).ne_nil also.2.2
  · exact (choice_literals_refuses hrest).skipLeft _
  · exact hfuel

/-- The key to sort by is taken if there is one. -/
theorem order_takes (sortedBy : Option (Key kind)) :
    (order kind).Takes fuel (writtenOrder sortedBy) (".".toList ++ rest)
      ((sortedBy.map Subtype.val).getD "") := by
  cases sortedBy with
  | none =>
    have hstart : ¬ "; sort in ascending order by ".toList <+: ".".toList ++ rest := by simp
    exact (((literal_refuses hstart).skipLeft (key kind)).optional).map _
  | some k =>
    have hwords : (literal "; sort in ascending order by ").Takes fuel
        "; sort in ascending order by ".toList (k.1.toList ++ (".".toList ++ rest))
          "; sort in ascending order by " := literal_takes (by simp)
    exact ((hwords.skipLeft (key_takes k)).optional).map _

/-- Neither the end of a query nor a key to sort by begins with a joint. -/
theorem not_joint_order (sortedBy : Option (Key kind)) :
    ∀ joint ∈ joints, ¬ joint.toList <+: writtenOrder sortedBy ++ (".".toList ++ rest) := by
  cases sortedBy with
  | none => simp [joints, writtenOrder_none]
  | some k => simp [joints, writtenOrder_some]

/-- A sentence has fewer conditions than characters. -/
theorem Sentence.length_clauses_lt (sentence : Sentence) :
    sentence.clauses.length < sentence.written.length := by
  have hclauses : sentence.clauses.length ≤ (writtenClauses sentence.clauses).length := by
    cases sentence.clauses with
    | nil => exact Nat.zero_le _
    | cons first more =>
      have hmore := length_le_length_turns (fun _ => " and ".toList)
        fun clause (_ : clause ∈ more) => clause.written_ne_nil
      have hfirst := List.length_pos_iff.2 first.written_ne_nil
      simp only [writtenClauses_cons, List.length_append, List.length_cons]
      omega
  have hstop : (".".toList).length = 1 := rfl
  simp only [sentence.written_eq, List.length_append]
  omega

/-- A sentence shows fewer keys than it has characters. -/
theorem Sentence.length_alsoShown_lt (sentence : Sentence) :
    sentence.alsoShown.length < sentence.written.length := by
  have hshown := length_le_length_turns (fun also : Joint × Key sentence.kind => also.1.1.toList)
    fun also (_ : also ∈ sentence.alsoShown) => (keysFor_prefixFree _).ne_nil also.2.2
  have hstop : (".".toList).length = 1 := rfl
  simp only [sentence.written_eq, writtenDisplay_eq, List.length_append]
  omega

/-- A sentence is taken, and what it says is its value. -/
theorem parser_takes (sentence : Sentence) (hfuel : sentence.written.length ≤ fuel) :
    parser.Takes fuel sentence.written rest sentence.meaning := by
  have hstop : (literal ".").Takes fuel ".".toList rest "." := literal_takes (by simp)
  have hdisplay : (display sentence.kind).Takes fuel
      (writtenDisplay sentence.shown sentence.alsoShown)
        (writtenOrder sentence.sortedBy ++ (".".toList ++ rest))
          (sentence.shown.1 :: sentence.alsoShown.map fun also => also.2.1) :=
    display_takes (not_joint_order sentence.sortedBy)
      (Nat.lt_of_lt_of_le sentence.length_alsoShown_lt hfuel)
  have hfilters : (filters sentence.kind).Takes fuel (writtenClauses sentence.clauses)
      (writtenDisplay sentence.shown sentence.alsoShown ++
        (writtenOrder sentence.sortedBy ++ (".".toList ++ rest)))
        (sentence.clauses.map Clause.meaning) := by
    apply filters_takes
    · exact stopsAt_cons (by decide) _
    · simp [writtenDisplay_eq]
    · exact Nat.lt_of_lt_of_le sentence.length_clauses_lt hfuel
  have hbody := ((hfilters.followedBy hdisplay).followedBy
    (order_takes sentence.sortedBy)).skip hstop
  exact (dataSet_takes sentence.kind_mem sentence.name_ne sentence.name_alphanum).chain
    (hbody.map _)

/-- On every sentence, whatever text stands behind it, the parser of queries succeeds with what the
sentence says, right behind the sentence. -/
theorem parser_run_written (sentence : Sentence) (rest : Text)
    (hfuel : sentence.written.length ≤ fuel) :
    parser.run fuel (sentence.written ++ rest) =
      .done ((⟨sentence.written ++ rest, byteLength sentence.written⟩ : Position).succeed
        sentence.meaning) := by
  have htakes : parser.Takes fuel sentence.written rest sentence.meaning :=
    parser_takes sentence hfuel
  have hrun := htakes (Position.start (sentence.written ++ rest)) (dropBytes?_zero _)
  rw [Position.start, Position.ahead, Nat.zero_add] at hrun
  exact hrun

/-- A query with conditions of both forms. -/
def mixedFilters : Sentence where
  kind := "courses"
  kind_mem := by decide
  name := "ubc2024"
  name_ne := by simp
  name_alphanum := by simp
  clauses :=
    [⟨⟨"Department", by decide⟩, .text "is" "c and p" (by decide) (by simp)⟩,
      ⟨⟨"Average", by decide⟩, .number "is less than" "-60.5" (by decide)
        ⟨['-'], "60.5".toList, by simp, .inr rfl, "60".toList, ['.'], ['5'], by simp,
          by simp, .inr rfl, by simp, by simp⟩⟩]
  shown := ⟨"Title", by decide⟩
  alsoShown :=
    [(⟨", ", by decide⟩, ⟨"Pass", by decide⟩), (⟨" and ", by decide⟩, ⟨"Title", by decide⟩)]
  sortedBy := some ⟨"Average", by decide⟩

/-- The text behind the query begins like more of it and is left alone. -/
theorem parser_run_written_mixedFilters :
    mixedFilters.written = "In courses dataset ubc2024, ".toList ++
      "find entries whose Department is \"c and p\" ".toList ++
      "and Average is less than -60.5; ".toList ++ "show Title, Pass and Title; ".toList ++
      "sort in ascending order by Average.".toList ∧
    parser.run 200 (mixedFilters.written ++ " and Pass".toList) =
      .done ((⟨mixedFilters.written ++ " and Pass".toList, 166⟩ : Position).succeed
        { dataSet := { kind := "courses", name := "ubc2024" },
          filters := [{ key := "Department", op := "is", value := .text "c and p" },
            { key := "Average", op := "is less than", value := .number "-60.5" }],
          display := ["Title", "Pass", "Title"], order := "Average" }) := by
  have hbytes : byteLength mixedFilters.written = 166 := by decide +kernel
  have hlength : mixedFilters.written.length ≤ 200 := by
    have := length_le_byteLength mixedFilters.written
    omega
  refine ⟨by decide +kernel, ?_⟩
  rw [← hbytes]
  exact parser_run_written mixedFilters " and Pass".toList hlength

end ParserCombinators.Query
