import ParserCombinators.Proofs.Text.Longest

/-!
# Splitting a text at separators

A text splits into items of a language that a separator joins, and a rest where no further item
follows. Every text splits like this with items that are the longest where they stand. If no item can
go on with the separator, the items that were joined are the longest ones.
-/

namespace ParserCombinators

/-- Items of the language with the separator between them begin the text, and no separator with a
further item behind it follows them. -/
structure Splits (language : Text → Prop) (separator : String) (text : Text) (items : List String)
    (rest : Text) : Prop where
  ne_nil : items ≠ []
  item : ∀ item ∈ items, item ≠ "" ∧ language item.toList
  joined : text = (separator.intercalate items).toList ++ rest
  last : ¬∃ behind, rest = separator.toList ++ behind ∧ Begins language behind

/-- Of the items in front of the rest, with the separator in front of all but the first, each is the
longest where it stands. -/
def EachLongest (language : Text → Prop) (separator rest : Text) (items : List String) : Prop :=
  ∀ before item after, items = before ++ item :: after →
    Longest language
      (item.toList ++ (turns (fun _ => separator) String.toList after ++ rest)) item.toList

variable {language : Text → Prop} {separator rest : Text} {item : String} {items : List String}

/-- Joined items are the first one and turns of the separator and a later one. -/
theorem toList_intercalate_cons (separator first : String) (items : List String) :
    (separator.intercalate (first :: items)).toList =
      first.toList ++ turns (fun _ => separator.toList) String.toList items := by
  rw [String.toList_intercalate]
  induction items generalizing first with
  | nil => simp
  | cons item items ih =>
    rw [List.map_cons, List.map_cons, List.intercalate_cons_cons, ← List.map_cons, ih, turns_cons]
    simp only [List.append_assoc]

/-- No items are the longest, each of them. -/
theorem eachLongest_nil : EachLongest language separator rest [] := by
  intro before item after hsplit
  simp at hsplit

/-- An item in front of others is the longest. -/
theorem EachLongest.cons (h : EachLongest language separator rest items)
    (hitem : Longest language
      (item.toList ++ (turns (fun _ => separator) String.toList items ++ rest)) item.toList) :
    EachLongest language separator rest (item :: items) := by
  intro before other after hsplit
  cases before with
  | nil =>
    obtain ⟨rfl, rfl⟩ := List.cons_eq_cons.1 hsplit
    exact hitem
  | cons _ before => exact h before other after (List.tail_eq_of_cons_eq hsplit)

/-- Items that are the longest belong to the language. -/
theorem EachLongest.belongs (h : EachLongest language separator rest items) :
    ∀ item ∈ items, language item.toList := by
  intro item hitem
  obtain ⟨before, after, hsplit⟩ := List.append_of_mem hitem
  exact (h before item after hsplit).belongs

/-- Items of a language without the empty text are not empty. -/
theorem ne_empty_of_belongs (hempty : ¬language []) (h : language item.toList) : item ≠ "" := by
  rintro rfl
  exact hempty h

/-- Every text is turns of the separator and an item, each item the longest where it stands, and a
rest without a further turn. -/
theorem exists_eachLongest (hempty : ¬language []) (separator text : Text) :
    ∃ items rest, text = turns (fun _ => separator) String.toList items ++ rest ∧
      EachLongest language separator rest items ∧
      ¬∃ behind, rest = separator ++ behind ∧ Begins language behind := by
  -- As no item is empty, what is behind a turn is shorter, even if the separator is empty.
  induction hlength : text.length using Nat.strong_induction_on generalizing text with
  | _ n ih =>
    by_cases hturn : ∃ behind, text = separator ++ behind ∧ Begins language behind
    · obtain ⟨_, rfl, hbegins⟩ := hturn
      obtain ⟨part, hlongest⟩ := hbegins.exists_longest
      obtain ⟨later, rfl⟩ := hlongest.starts
      have hpart : part ≠ [] := fun hnil => hempty (hnil ▸ hlongest.belongs)
      have hshorter : later.length < n := by
        have := List.length_pos_iff.2 hpart
        simp only [List.length_append] at hlength
        omega
      obtain ⟨items, rest, rfl, hitems, hrest⟩ := ih later.length hshorter later rfl
      refine ⟨String.ofList part :: items, rest, ?_, hitems.cons ?_, hrest⟩
      · simp only [turns_cons, String.toList_ofList, List.append_assoc]
      · rwa [String.toList_ofList]
    · exact ⟨[], text, rfl, eachLongest_nil, hturn⟩

/-- A text that begins with an item splits into items that are the longest, and a rest. -/
theorem Begins.exists_splits {text : Text} (h : Begins language text) (hempty : ¬language [])
    (separator : String) : ∃ items rest, Splits language separator text items rest ∧
      EachLongest language separator.toList rest items := by
  obtain ⟨part, hlongest⟩ := h.exists_longest
  obtain ⟨later, rfl⟩ := hlongest.starts
  obtain ⟨items, rest, rfl, hitems, hlast⟩ := exists_eachLongest hempty separator.toList later
  have hall : EachLongest language separator.toList rest (String.ofList part :: items) :=
    hitems.cons (by rwa [String.toList_ofList])
  refine ⟨String.ofList part :: items, rest, ⟨List.cons_ne_nil _ _, ?_, ?_, hlast⟩, hall⟩
  · exact fun item hitem => ⟨ne_empty_of_belongs hempty (hall.belongs item hitem),
      hall.belongs item hitem⟩
  · rw [toList_intercalate_cons, String.toList_ofList, List.append_assoc]

/-- Items that the separator cannot go on from are the longest when they are joined. -/
theorem eachLongest_of_stop {c : Char} {behind : Text} (hseparator : separator = c :: behind)
    (hstop : ∀ part more, language part → ¬language (part ++ c :: more))
    (hitems : ∀ item ∈ items, language item.toList) :
    EachLongest language separator [] items := by
  intro before item after hsplit
  have hitem : language item.toList :=
    hitems item (hsplit ▸ List.mem_append_right before List.mem_cons_self)
  refine longest_append hitem fun d rest more hrest => ?_
  cases after with
  | nil => simp at hrest
  | cons next after =>
    rw [hseparator] at hrest
    rw [← List.head_eq_of_cons_eq hrest]
    exact hstop item.toList more hitem

end ParserCombinators
