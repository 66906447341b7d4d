import ParserCombinators.Grammar.Parentheses
import ParserCombinators.Proofs.Grammar.Termination
import ParserCombinators.Proofs.Grammar.Verbatim
import ParserCombinators.Proofs.Parser.Outcome
import ParserCombinators.Proofs.Text.Balanced

/-!
# Rows of parentheses are read as far as they are balanced

The grammars of rows of parentheses succeed on every text. They read its longest balanced
beginning, however the rest goes on, and give it back or tell how deep it is nested. A group that
is not closed is given back whole, at every depth.
-/

namespace ParserCombinators

open ParserCombinators.Parser

variable {fuel n : Nat} {value : Text → Value} {inner item : Parser Value}

/-- A value between parentheses. -/
def Parser.group (inner : Parser Value) : Parser Value :=
  between ((literal "(").map Value.str) ((literal ")").map Value.str) inner

/-- The parser reads balanced rows of up to a number of characters, the rest behind included. -/
def Parser.ReadsRows (fuel n : Nat) (p : Parser Value) (value : Text → Value) : Prop :=
  ∀ row rest, Balanced row → NoGroup rest → (row ++ rest).length < n →
    p.Takes fuel row rest (value row)

/-- A group takes a row in parentheses if its content takes the row. -/
theorem Parser.group_takes {row rest : Text} {content : Value}
    (h : inner.Takes fuel row (')' :: rest) content) :
    (group inner).Takes fuel (parenthesized row) rest content := by
  have hopen : ((literal "(").map Value.str).Takes fuel ['('] (row ++ (')' :: rest)) (.str "(") :=
    (literal_takes (by simp)).map _
  have hclose : ((literal ")").map Value.str).Takes fuel [')'] rest (.str ")") :=
    (literal_takes (by simp)).map _
  exact Takes.between hopen h hclose

/-- A group refuses a text that has no balanced beginning. -/
theorem Parser.group_refuses (h : inner.ReadsRows fuel n value) {text : Text}
    (htext : NoGroup text) (hn : text.length ≤ n) : (group inner).Refuses fuel text := by
  apply Refuses.map
  by_cases hopen : ['('] <+: text
  · obtain ⟨text, rfl⟩ := hopen
    obtain ⟨groups, rest, rfl, hgroups, hrest⟩ := exists_groupRow text
    have hrow := Balanced.groupRow hgroups
    have hclose : ¬ [')'] <+: rest := by
      rintro ⟨after, rfl⟩
      have hnil := htext (parenthesized (groupRow groups)) ⟨after, by simp [parenthesized]⟩
        hrow.parenthesized
      cases hnil
    have hleft : ((literal "(").map Value.str).Takes fuel ['('] (groupRow groups ++ rest)
        (.str "(") := by
      by_cases hempty : groupRow groups ++ rest = []
      · exact (literal_takes (by simp [hempty])).map _
      · exact (literal_takes (by simp)).map _
    have hright : (literal ")").Refuses fuel rest := literal_refuses hclose
    have hinner := h (groupRow groups) rest hrow hrest (by simpa using hn)
    exact (hleft.skipLeft hinner).followedBy_refuses (hright.map _)
  · have hleft : (literal "(").Refuses fuel text := literal_refuses hopen
    exact ((hleft.map _).skipLeft inner).followedBy _

/-- Groups one after another. -/
theorem Parser.many_groups_takes
    (htakes : ∀ row rest, Balanced row → (row ++ ')' :: rest).length < n →
      item.Takes fuel (parenthesized row) rest (value row))
    (hrefuses : ∀ text, NoGroup text → text.length ≤ n → item.Refuses fuel text)
    {groups : List Text} {rest : Text} (hgroups : ∀ row ∈ groups, Balanced row)
    (hrest : NoGroup rest) (hn : (groupRow groups ++ rest).length ≤ n) (hfuel : n < fuel) :
    item.many.Takes fuel (groupRow groups) rest (groups.map value) := by
  apply many_takes
  · rintro before row after rfl
    apply htakes row _ (hgroups row (by simp))
    simp [groupRow, parenthesized] at hn ⊢
    omega
  · intro row _
    simp [parenthesized]
  · exact hrefuses rest hrest (by simp at hn; omega)
  · have hlength : groups.length ≤ (groupRow groups).length :=
      length_le_length_flatMap fun row _ => by simp [parenthesized]
    rw [List.length_append] at hn
    omega

/-- More characters than the parser reads rows of are not asked for. -/
theorem Parser.ReadsRows.mono {m : Nat} (h : inner.ReadsRows fuel n value) (hmn : m ≤ n) :
    inner.ReadsRows fuel m value :=
  fun row rest hrow hrest hlength => h row rest hrow hrest (Nat.lt_of_lt_of_le hlength hmn)

/-- The written form of a row of groups. -/
theorem Value.text_groups (groups : List Text) :
    (Value.arr (groups.map fun row =>
      .str ("(" ++ (Value.str (String.ofList row)).text ++ ")"))).text =
        String.ofList (groupRow groups) := by
  apply String.toList_inj.1
  have hwritten := Value.written_arr (groups.map fun row =>
    .str ("(" ++ (Value.str (String.ofList row)).text ++ ")"))
  rw [Value.written] at hwritten
  rw [hwritten, String.toList_ofList, groupRow, List.flatMap_map]
  apply congrArg (fun f => groups.flatMap f)
  funext row
  simp [Value.written, Value.text, parenthesized]

/-- The depth of a row of groups. -/
theorem Value.depth_groups {groups : List Text} (h : ∀ row ∈ groups, Balanced row) :
    (Value.arr (groups.map fun row => .int (nestingDepth row))).depth =
      nestingDepth (groupRow groups) := by
  rw [nestingDepth_groupRow h, Value.depth, List.map_map, List.foldl_eq_foldr]
  rfl

variable {r : String → Parser Value}

/-- The grammar of balanced rows reads rows with one more character than its rule. -/
theorem Grammar.balanced_readsRows
    (h : (r "balanced").ReadsRows fuel n fun row => .str (String.ofList row)) (hn : n < fuel) :
    (Grammar.balanced.denote r).ReadsRows fuel (n + 1) fun row => .str (String.ofList row) := by
  intro row rest hrow hrest hlength
  obtain ⟨groups, rfl, hgroups⟩ := hrow.exists_groups
  have hmany : ((group (r "balanced")).map fun content =>
      Value.str ("(" ++ content.text ++ ")")).many.Takes fuel (groupRow groups) rest
        (groups.map fun row => .str ("(" ++ (Value.str (String.ofList row)).text ++ ")")) := by
    apply many_groups_takes _ _ hgroups hrest (Nat.le_of_lt_succ hlength) hn
    · intro row after hrow hlength
      exact (group_takes (h row _ hrow (noGroup_of_head (by decide)) hlength)).map _
    · intro text htext hlength
      exact (group_refuses h htext hlength).map _
  have hwhole := (hmany.map Value.arr).map Transform.concat.apply
  rwa [Transform.apply, Value.text_groups] at hwhole

/-- The grammar that counts the depth reads rows with one more character than its rule. -/
theorem Grammar.nesting_readsRows
    (h : (r "nesting").ReadsRows fuel n fun row => .int (nestingDepth row)) (hn : n < fuel) :
    (Grammar.nesting.denote r).ReadsRows fuel (n + 1) fun row => .int (nestingDepth row) := by
  intro row rest hrow hrest hlength
  obtain ⟨groups, rfl, hgroups⟩ := hrow.exists_groups
  have hmany : (group (r "nesting")).many.Takes fuel (groupRow groups) rest
      (groups.map fun row => .int (nestingDepth row)) := by
    apply many_groups_takes _ _ hgroups hrest (Nat.le_of_lt_succ hlength) hn
    · intro row after hrow hlength
      exact group_takes (h row _ hrow (noGroup_of_head (by decide)) hlength)
    · intro text htext hlength
      exact group_refuses h htext hlength
  have hwhole := (hmany.map Value.arr).map Transform.depth.apply
  rwa [Transform.apply, Value.depth_groups hgroups] at hwhole

/-- Unfolding a rule once more reads rows with one more character. -/
theorem Rules.unfold_readsRows {name : String} {body : Grammar}
    (hbody : Rules.parentheses.lookup name = some body)
    (hstep : ∀ (r : String → Parser Value) (m : Nat), (r name).ReadsRows fuel m value → m < fuel →
      (body.denote r).ReadsRows fuel (m + 1) value) (hn : n ≤ fuel) :
    (Rules.parentheses.unfold n name).ReadsRows fuel n value := by
  induction n with
  | zero => exact fun _ _ _ _ hlength => absurd hlength (Nat.not_lt_zero _)
  | succ n ih =>
    simp only [Rules.unfold, hbody]
    exact hstep _ n (ih (by omega)) hn

/-- A grammar whose steps read longer and longer rows reads the longest balanced beginning of every
text. -/
theorem Grammar.run_readsRows (value : Text → Value) {name : String} {body : Grammar}
    (hbody : Rules.parentheses.lookup name = some body)
    (hstep : ∀ (fuel : Nat) (r : String → Parser Value) (m : Nat),
      (r name).ReadsRows fuel m value → m < fuel → (body.denote r).ReadsRows fuel (m + 1) value)
    {start input : Text} (h : LongestBalanced start input) :
    body.run Rules.parentheses input =
      .done ((⟨input, byteLength start⟩ : Position).succeed (value start)) := by
  have hfuel : input.length < Rules.parentheses.fuel input :=
    Nat.lt_of_le_of_lt (length_le_byteLength input) (Rules.parentheses.length_lt_fuel input)
  have hrule : (Rules.parentheses.parser name).ReadsRows (Rules.parentheses.fuel input)
      input.length value :=
    Parser.ReadsRows.mono (Rules.unfold_readsRows hbody (hstep _) (Nat.le_refl _))
      (Nat.le_of_lt hfuel)
  obtain ⟨groups, rest, rfl, hgroups, hrest⟩ := exists_groupRow input
  have hrow := Balanced.groupRow hgroups
  rw [h.unique (hrow.longest hrest)]
  have htakes := hstep _ _ _ hrule hfuel (groupRow groups) rest hrow hrest (Nat.lt_succ_self _)
  have hrun := htakes (Position.start (groupRow groups ++ rest)) (dropBytes?_zero _)
  rw [Position.start, Position.ahead, Nat.zero_add] at hrun
  exact hrun

/-- On every text both grammars of rows of parentheses end and succeed at the end of its longest
balanced beginning. One gives that beginning as it is written, the other one its depth. -/
theorem Grammar.run_parentheses (input : Text) :
    ∃ start, LongestBalanced start input ∧
      Grammar.balanced.run Rules.parentheses input =
        .done ((⟨input, byteLength start⟩ : Position).succeed (.str (String.ofList start))) ∧
      Grammar.nesting.run Rules.parentheses input =
        .done ((⟨input, byteLength start⟩ : Position).succeed (.int (nestingDepth start))) := by
  obtain ⟨groups, rest, rfl, hgroups, hrest⟩ := exists_groupRow input
  have hlongest := (Balanced.groupRow hgroups).longest hrest
  refine ⟨groupRow groups, hlongest, ?_, ?_⟩
  · exact Grammar.run_readsRows (fun row => .str (String.ofList row)) rfl
      (fun _ _ _ h hm => Grammar.balanced_readsRows h hm) hlongest
  · exact Grammar.run_readsRows (fun row => .int (nestingDepth row)) rfl
      (fun _ _ _ h hm => Grammar.nesting_readsRows h hm) hlongest

end ParserCombinators
