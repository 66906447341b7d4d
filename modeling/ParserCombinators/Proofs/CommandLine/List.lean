import ParserCombinators.CommandLine.Execute
import ParserCombinators.Proofs.Parser.Longest
import ParserCombinators.Proofs.Parser.Separated
import ParserCombinators.Proofs.Text.Splitting

/-!
# Lists split at their separators

A list of items of a kind splits its input: joined by the separator, its values are what it has read,
and no separator with a further item follows. A separator that no item can go on with splits a joined
list into the same items again.
-/

namespace ParserCombinators

variable {α : Type} {fuel : Nat} {language : Text → Prop} {rest text : Text}

namespace Parser

/-- A separator and a value are refused where no value stands behind the separator. -/
theorem literal_skipLeft_refuses {p : Parser α} {separator : String}
    (h : ∀ behind, text = separator.toList ++ behind → p.Refuses fuel behind) :
    ((literal separator).skipLeft p).Refuses fuel text := by
  by_cases hend : text = []
  · -- At the end even the empty separator is refused.
    subst hend
    have hliteral : (literal separator).Refuses fuel [] :=
      fun pos hpos => ⟨pos, _, onRemainder_end _ hpos⟩
    exact hliteral.skipLeft p
  · by_cases hseparator : separator.toList <+: text
    · obtain ⟨behind, rfl⟩ := hseparator
      rw [skipLeft_eq_chain]
      exact (literal_takes hend).chain_refuses (h behind rfl)
    · exact (literal_refuses hseparator).skipLeft p

/-- A list takes joined items that are the longest, up to a rest without a further item. -/
theorem ReadsLongest.sepBy1_takes {p : Parser String} {name separator first : String}
    {items : List String} (h : p.ReadsLongest name language)
    (hitems : EachLongest language separator.toList rest (first :: items))
    (hlast : ¬∃ behind, rest = separator.toList ++ behind ∧ Begins language behind)
    (hfuel : items.length < fuel) :
    (sepBy1 (literal separator) p).Takes fuel (separator.intercalate (first :: items)).toList rest
      (first :: items) := by
  have htakes : ∀ before item after, first :: items = before ++ item :: after →
      p.Takes fuel item.toList (turns (fun _ => separator.toList) String.toList after ++ rest)
        item :=
    fun before item after hsplit => h.takes (hitems before item after hsplit)
  have hne : ∀ item ∈ items, item.toList ≠ [] :=
    fun item hitem hnil => h.not_nil (hnil ▸ hitems.belongs item (List.mem_cons_of_mem _ hitem))
  have hrest : ((literal separator).skipLeft p).Refuses fuel rest :=
    literal_skipLeft_refuses fun behind heq => h.refuses fun hbegins => hlast ⟨behind, heq, hbegins⟩
  have hlist : (sepBy1 (literal separator) p).Takes fuel
      (first.toList ++ turns (fun _ => separator.toList) String.toList items) rest
        (first :: items.map id) := by
    refine Parser.sepBy1_takes (fun _ => separator) (htakes [] first items rfl) ?_ hne hrest hfuel
    intro before item after hsplit
    have hmem : item ∈ items := hsplit ▸ List.mem_append_right before List.mem_cons_self
    refine ⟨literal_takes ?_, htakes (first :: before) item after (congrArg (first :: ·) hsplit)⟩
    exact List.append_ne_nil_of_right_ne_nil _
      (List.append_ne_nil_of_left_ne_nil (hne item hmem) _)
  rwa [List.map_id, ← toList_intercalate_cons] at hlist

end Parser

namespace ItemKind

/-- The texts of a kind. -/
def Item : ItemKind → Text → Prop
  | letters => IsRun Char.isAlpha
  | digits => IsRun Char.isDigit
  | alnum => IsRun Char.isAlphanum
  | float => IsDecimal

/-- Whether texts of a kind can go on with the character. -/
def extendedBy : ItemKind → Char → Bool
  | letters, c => c.isAlpha
  | digits, c => c.isDigit
  | alnum, c => c.isAlphanum
  | float, c => c.isDigit || c == '.'

/-- Every kind reads the longest of its texts. -/
theorem exists_readsLongest (kind : ItemKind) : ∃ name, kind.parser.ReadsLongest name kind.Item := by
  cases kind with
  | letters => exact ⟨_, Parser.letters_readsLongest⟩
  | digits => exact ⟨_, Parser.digits_readsLongest⟩
  | alnum => exact ⟨_, Parser.lettersOrDigits_readsLongest⟩
  | float => exact ⟨_, Parser.floatingPoint_readsLongest⟩

/-- A text of a kind that goes on from another one does so with a character that it can have there. -/
theorem extendedBy_of_item {kind : ItemKind} {part more : Text} {c : Char} (hpart : kind.Item part)
    (h : kind.Item (part ++ c :: more)) : kind.extendedBy c := by
  have hmem : c ∈ part ++ c :: more := List.mem_append_right part List.mem_cons_self
  cases kind with
  | letters => exact h.2 c hmem
  | digits => exact h.2 c hmem
  | alnum => exact h.2 c hmem
  | float =>
    have hdecimal : IsDecimal part := hpart
    rw [extendedBy, Bool.or_eq_true, beq_iff_eq]
    exact IsDecimal.digit_or_point h hdecimal.ne_nil List.mem_cons_self

end ItemKind

namespace Command

variable {kind : ItemKind} {separator : String} {items : List String}

/-- A list reads the items of a splitting if each of them is the longest. -/
theorem run_list_of_splits {input : String} (h : Splits kind.Item separator input.toList items rest)
    (hitems : EachLongest kind.Item separator.toList rest items) :
    (list kind input separator).run =
      .done ((⟨input.toList, (separator.intercalate items).utf8ByteSize⟩ : Position).succeed
        (.arr (items.map .str))) := by
  obtain ⟨name, hkind⟩ := kind.exists_readsLongest
  obtain ⟨first, more, rfl⟩ := List.exists_cons_of_ne_nil h.ne_nil
  have hfuel : more.length < input.utf8ByteSize + 2 := by
    have hmore := length_le_length_turns (fun _ => separator.toList) fun item hitem hnil =>
      hkind.not_nil (hnil ▸ hitems.belongs item (List.mem_cons_of_mem first hitem))
    have hbytes := length_le_byteLength input.toList
    rw [byteLength_toList, h.joined, toList_intercalate_cons] at hbytes
    simp only [List.length_append] at hbytes
    omega
  have htakes := (hkind.sepBy1_takes hitems h.last hfuel).map fun values =>
    Value.arr (values.map .str)
  have hrun := htakes (Position.start input.toList) (h.joined ▸ dropBytes?_zero _)
  rw [Position.start, Position.ahead, Nat.zero_add, byteLength_toList] at hrun
  exact hrun

/-- A list fails where no item stands. -/
theorem run_list_of_not_begins {input : String} (h : ¬Begins kind.Item input.toList) :
    (list kind input separator).run =
      .done ((Position.start input.toList).fail (Failure.noMatches 0 "sepBy1")) := by
  obtain ⟨name, hkind⟩ := kind.exists_readsLongest
  have hfails : kind.parser.FailsAt (input.utf8ByteSize + 2) (Position.start input.toList) :=
    hkind.refuses h (Position.start input.toList) (dropBytes?_zero _)
  have hnone : (Parser.sepBy1 (Parser.literal separator) kind.parser).transition
      (input.utf8ByteSize + 2) (Position.start input.toList) =
        .done ((Position.start input.toList).fail (Failure.noMatches 0 "sepBy1")) :=
    congrArg (Run.map _) (Parser.separated_of_fails (Parser.literal separator) hfails)
  exact congrArg (Run.map _) hnone

/-- A list succeeds exactly if its input begins with an item. Then its values split the input in front
of where it ends. Items joined by a separator that they cannot go on with are read back. -/
theorem list_splits (kind : ItemKind) (separator : String) :
    (∀ input : String,
      (Begins kind.Item input.toList ∧
        ∃ items rest, Splits kind.Item separator input.toList items rest ∧
          (list kind input separator).run =
            .done ((⟨input.toList, (separator.intercalate items).utf8ByteSize⟩ : Position).succeed
              (.arr (items.map .str)))) ∨
      (¬Begins kind.Item input.toList ∧
        (list kind input separator).run =
          .done ((Position.start input.toList).fail (Failure.noMatches 0 "sepBy1")))) ∧
    (∀ c behind, separator.toList = c :: behind → ¬kind.extendedBy c →
      ∀ items ≠ [], (∀ item ∈ items, kind.Item item.toList) →
        (list kind (separator.intercalate items) separator).run =
          .done ((⟨(separator.intercalate items).toList,
              (separator.intercalate items).utf8ByteSize⟩ : Position).succeed
            (.arr (items.map .str)))) := by
  obtain ⟨name, hkind⟩ := kind.exists_readsLongest
  constructor
  · intro input
    by_cases hbegins : Begins kind.Item input.toList
    · obtain ⟨items, rest, hsplits, hitems⟩ := hbegins.exists_splits hkind.not_nil separator
      exact .inl ⟨hbegins, items, rest, hsplits, run_list_of_splits hsplits hitems⟩
    · exact .inr ⟨hbegins, run_list_of_not_begins hbegins⟩
  · intro c behind hseparator hextended items hne hitems
    have hlongest : EachLongest kind.Item separator.toList [] items :=
      eachLongest_of_stop hseparator
        (fun part more hpart hmore => hextended (ItemKind.extendedBy_of_item hpart hmore)) hitems
    refine run_list_of_splits ⟨hne, ?_, (List.append_nil _).symm, ?_⟩ hlongest
    · exact fun item hitem => ⟨ne_empty_of_belongs hkind.not_nil (hitems item hitem),
        hitems item hitem⟩
    · rintro ⟨rest, hrest, -⟩
      simp [hseparator] at hrest

/-- The separator of these numbers is also their sign. -/
theorem list_splits_signs :
    (list .float "-1.5--.5" "-").run =
      .done ((⟨"-1.5--.5".toList, 8⟩ : Position).succeed (.arr [.str "-1.5", .str "-.5"])) := by
  have hjoin : "-".intercalate ["-1.5", "-.5"] = "-1.5--.5" := by decide
  have hitems : ∀ item ∈ ["-1.5", "-.5"], ItemKind.float.Item item.toList := by
    intro item hitem
    simp only [List.mem_cons, List.not_mem_nil, or_false] at hitem
    rcases hitem with rfl | rfl
    · exact ⟨['-'], "1.5".toList, by simp, .inr rfl, ['1'], ['.'], ['5'], by simp, by simp,
        .inr rfl, by simp, by simp⟩
    · exact ⟨['-'], ".5".toList, by simp, .inr rfl, [], ['.'], ['5'], by simp, by simp,
        .inr rfl, by simp, by simp⟩
  have hrun := (list_splits .float "-").2 '-' [] rfl (by decide) _ (List.cons_ne_nil _ _) hitems
  rw [hjoin] at hrun
  exact hrun

end Command

end ParserCombinators
