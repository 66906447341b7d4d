import Mathlib.Data.List.Infix
import Mathlib.Order.Lattice
import ParserCombinators.Text.Basic

/-!
# Balanced parentheses

A text is balanced if it holds parentheses only, no beginning of it closes more of them than it
opened, and the whole closes all. Every text begins with a row of balanced groups that is its
longest balanced beginning, and the rest has no balanced beginning but the empty one.
-/

namespace ParserCombinators

/-- Parentheses only, each closed after it was opened. -/
structure Balanced (text : Text) : Prop where
  parentheses : ∀ c ∈ text, c = '(' ∨ c = ')'
  opened : ∀ start, start <+: text → start.count ')' ≤ start.count '('
  closed : text.count ')' = text.count '('

/-- The text is the longest balanced beginning of another one. -/
def LongestBalanced (start text : Text) : Prop :=
  start <+: text ∧ Balanced start ∧
    ∀ other, other <+: text → Balanced other → other.length ≤ start.length

/-- The greatest number of parentheses that are open at one place of the text. -/
def nestingDepth (text : Text) : Nat :=
  (text.inits.map fun start => start.count '(' - start.count ')').foldr max 0

/-- The text has no balanced beginning but the empty one. -/
def NoGroup (text : Text) : Prop :=
  ∀ start, start <+: text → Balanced start → start = []

/-- A text in parentheses. -/
def parenthesized (inner : Text) : Text :=
  '(' :: (inner ++ [')'])

/-- Texts in parentheses one after another. -/
def groupRow (groups : List Text) : Text :=
  groups.flatMap parenthesized

@[simp] theorem groupRow_nil : groupRow [] = [] := rfl

@[simp] theorem groupRow_cons (inner : Text) (groups : List Text) :
    groupRow (inner :: groups) = parenthesized inner ++ groupRow groups := rfl

/-- A beginning of two texts in a row begins the first one or goes on into the second one. -/
theorem prefix_row_iff {start first second : Text} :
    start <+: first ++ second ↔
      start <+: first ∨ ∃ more, start = first ++ more ∧ more <+: second := by
  constructor
  · intro h
    rcases List.prefix_or_prefix_of_prefix h (List.prefix_append first second) with hin | hover
    · exact .inl hin
    · obtain ⟨more, rfl⟩ := hover
      exact .inr ⟨more, rfl, (List.prefix_append_right_inj first).1 h⟩
  · rintro (hin | ⟨more, rfl, hmore⟩)
    · exact hin.trans (List.prefix_append first second)
    · exact (List.prefix_append_right_inj first).2 hmore

namespace Balanced

variable {first second inner text : Text}

/-- Nothing is balanced. -/
theorem nil : Balanced [] where
  parentheses := by simp
  opened := by
    intro start hstart
    rw [List.prefix_nil.1 hstart]
    rfl
  closed := rfl

/-- Two balanced texts in a row. -/
theorem append (h : Balanced first) (h' : Balanced second) : Balanced (first ++ second) where
  parentheses := by
    intro c hc
    rcases List.mem_append.1 hc with hfirst | hsecond
    · exact h.parentheses c hfirst
    · exact h'.parentheses c hsecond
  opened := by
    intro start hstart
    rcases prefix_row_iff.1 hstart with hfirst | ⟨more, rfl, hsecond⟩
    · exact h.opened start hfirst
    · rw [List.count_append, List.count_append, h.closed]
      have := h'.opened more hsecond
      omega
  closed := by rw [List.count_append, List.count_append, h.closed, h'.closed]

/-- What follows a balanced beginning of a balanced text is balanced. -/
theorem of_append (h : Balanced (first ++ second)) (hfirst : Balanced first) :
    Balanced second where
  parentheses := fun c hc => h.parentheses c (List.mem_append_right first hc)
  opened := by
    intro start hstart
    have hopened := h.opened (first ++ start) ((List.prefix_append_right_inj first).2 hstart)
    rw [List.count_append, List.count_append, hfirst.closed] at hopened
    omega
  closed := by
    have hclosed := h.closed
    rw [List.count_append, List.count_append, hfirst.closed] at hclosed
    omega

/-- A balanced text in parentheses. -/
theorem parenthesized (h : Balanced inner) : Balanced (parenthesized inner) where
  parentheses := by
    intro c hc
    simp only [ParserCombinators.parenthesized, List.mem_cons, List.mem_append,
      List.not_mem_nil, or_false] at hc
    rcases hc with hopen | hinner | hclose
    · exact .inl hopen
    · exact h.parentheses c hinner
    · exact .inr hclose
  opened := by
    intro start hstart
    rcases List.prefix_cons_iff.1 hstart with rfl | ⟨start, rfl, hstart⟩
    · simp
    · rcases prefix_row_iff.1 (List.cons_prefix_cons.1 hstart).2 with hinner | ⟨more, rfl, hmore⟩
      · have := h.opened start hinner
        simp only [List.count_cons, Char.reduceBEq, Bool.false_eq_true, if_false, if_true]
        omega
      · have hclose : more.count ')' ≤ 1 := hmore.sublist.count_le ')'
        simp only [List.count_cons, List.count_append, h.closed, Char.reduceBEq,
          Bool.false_eq_true, if_false, if_true]
        omega
  closed := by simp [ParserCombinators.parenthesized, h.closed]

/-- Balanced groups in a row. -/
theorem groupRow {groups : List Text} (h : ∀ inner ∈ groups, Balanced inner) :
    Balanced (groupRow groups) := by
  induction groups with
  | nil => exact nil
  | cons inner rest ih =>
    have hinner := (h inner List.mem_cons_self).parenthesized
    exact hinner.append (ih fun other hother => h other (List.mem_cons_of_mem inner hother))

/-- A balanced text does not begin with a closing parenthesis. -/
theorem not_close (h : Balanced (')' :: text)) : False := by
  have hopened := h.opened [')'] ⟨text, rfl⟩
  simp at hopened

end Balanced

/-- Where a text of parentheses closes more than it opens, an unmatched closing parenthesis follows
a balanced beginning. The part read so far opened all that it closed. -/
theorem exists_balanced_close (before : Text) {text : Text}
    (hparentheses : ∀ c ∈ before ++ text, c = '(' ∨ c = ')')
    (hopened : ∀ start, start <+: before → start.count ')' ≤ start.count '(')
    (hclosed : (before ++ text).count '(' < (before ++ text).count ')') :
    ∃ start, Balanced start ∧ start ++ [')'] <+: before ++ text := by
  induction text generalizing before with
  | nil =>
    have := hopened before List.prefix_rfl
    rw [List.append_nil] at hclosed
    omega
  | cons c rest ih =>
    have hrow : before ++ c :: rest = (before ++ [c]) ++ rest := by simp
    have hbefore := hopened before List.prefix_rfl
    by_cases hmore : (before ++ [c]).count ')' ≤ (before ++ [c]).count '('
    · rw [hrow] at hparentheses hclosed ⊢
      refine ih (before ++ [c]) hparentheses (fun start hstart => ?_) hclosed
      rcases List.prefix_concat_iff.1 hstart with rfl | hin
      · exact hmore
      · exact hopened start hin
    · have hc := hparentheses c (by simp)
      rcases hc with rfl | rfl
      · simp at hmore
        omega
      · refine ⟨before, ⟨fun d hd => ?_, hopened, ?_⟩, ?_⟩
        · exact hparentheses d (List.mem_append_left _ hd)
        · simp at hmore
          omega
        · rw [hrow]
          exact List.prefix_append _ rest

namespace Balanced

variable {text inner : Text}

/-- Behind the parenthesis that opens a balanced text stands a balanced text that is closed. -/
theorem exists_inner (h : Balanced ('(' :: text)) :
    ∃ inner, Balanced inner ∧ inner ++ [')'] <+: text := by
  apply exists_balanced_close []
  · exact fun c hc => h.parentheses c (List.mem_cons_of_mem _ hc)
  · intro start hstart
    rw [List.prefix_nil.1 hstart]
    rfl
  · have hclosed := h.closed
    simp at hclosed ⊢
    omega

/-- A balanced beginning ends before a rest without balanced beginnings. -/
theorem prefix_of_noGroup {rest other : Text} (h : Balanced text) (hrest : NoGroup rest)
    (hother : Balanced other) (hstart : other <+: text ++ rest) : other <+: text := by
  rcases prefix_row_iff.1 hstart with hin | ⟨more, rfl, hmore⟩
  · exact hin
  · rw [hrest more hmore (hother.of_append h), List.append_nil]

/-- A balanced beginning whose rest has no balanced beginning is the longest one. -/
theorem longest {rest : Text} (h : Balanced text) (hrest : NoGroup rest) :
    LongestBalanced text (text ++ rest) := by
  refine ⟨List.prefix_append text rest, h, ?_⟩
  intro other hstart hother
  exact (h.prefix_of_noGroup hrest hother hstart).length_le

end Balanced

/-- Two longest balanced beginnings of one text are the same. -/
theorem LongestBalanced.unique {text first second : Text} (h : LongestBalanced first text)
    (h' : LongestBalanced second text) : first = second := by
  have hle := h'.2.2 first h.1 h.2.1
  exact (List.prefix_of_prefix_length_le h.1 h'.1 hle).eq_of_length_le (h.2.2 second h'.1 h'.2.1)

/-- Nothing has no balanced beginning but itself. -/
theorem noGroup_nil : NoGroup [] :=
  fun _ hstart _ => List.prefix_nil.1 hstart

/-- A text that does not begin with an opening parenthesis has no balanced beginning. -/
theorem noGroup_of_head {c : Char} {rest : Text} (hc : c ≠ '(') : NoGroup (c :: rest) := by
  intro start hstart hbalanced
  rcases List.prefix_cons_iff.1 hstart with rfl | ⟨start, rfl, _⟩
  · rfl
  · rcases hbalanced.parentheses c List.mem_cons_self with hopen | rfl
    · exact absurd hopen hc
    · exact hbalanced.not_close.elim

/-- An opening parenthesis begins no balanced text if what follows it is balanced up to a rest that
neither has a balanced beginning nor closes the parenthesis. -/
theorem noGroup_open {inner rest : Text} (hinner : Balanced inner) (hrest : NoGroup rest)
    (hclose : ¬ [')'] <+: rest) : NoGroup ('(' :: (inner ++ rest)) := by
  intro start hstart hbalanced
  rcases List.prefix_cons_iff.1 hstart with rfl | ⟨start, rfl, hin⟩
  · rfl
  · obtain ⟨other, hother, hend⟩ := hbalanced.exists_inner
    have hrow : other ++ [')'] <+: inner ++ rest := hend.trans hin
    have hprefix := hinner.prefix_of_noGroup hrest hother ((List.prefix_append _ _).trans hrow)
    -- what the inner text has behind the other one would begin with a closing parenthesis
    obtain ⟨more, rfl⟩ := hprefix
    rw [List.append_assoc, List.prefix_append_right_inj] at hrow
    cases more with
    | nil => exact absurd hrow hclose
    | cons c more =>
      obtain rfl : ')' = c := (List.cons_prefix_cons.1 hrow).1
      exact (hinner.of_append hother).not_close.elim

/-- Every text is a row of balanced groups and a rest without balanced beginnings. -/
theorem exists_groupRow (text : Text) :
    ∃ groups rest, text = groupRow groups ++ rest ∧ (∀ inner ∈ groups, Balanced inner) ∧
      NoGroup rest := by
  induction hlength : text.length using Nat.strong_induction_on generalizing text with
  | h n ih =>
    cases text with
    | nil => exact ⟨[], [], rfl, by simp, noGroup_nil⟩
    | cons c text =>
      by_cases hc : c = '('
      · subst hc
        obtain ⟨groups, rest, rfl, hgroups, hrest⟩ := ih text.length (by simp [← hlength]) text rfl
        have hinner := Balanced.groupRow hgroups
        by_cases hclose : [')'] <+: rest
        · obtain ⟨after, rfl⟩ := hclose
          obtain ⟨later, rest, rfl, hlater, hrest⟩ :=
            ih after.length (by simp [← hlength]; omega) after rfl
          refine ⟨groupRow groups :: later, rest, by simp [parenthesized], ?_, hrest⟩
          intro inner hmem
          rcases List.mem_cons.1 hmem with rfl | hmem
          · exact hinner
          · exact hlater inner hmem
        · exact ⟨[], _, rfl, by simp, noGroup_open hinner hrest hclose⟩
      · exact ⟨[], c :: text, rfl, by simp, noGroup_of_head hc⟩

/-- A balanced text is a row of balanced groups. -/
theorem Balanced.exists_groups {text : Text} (h : Balanced text) :
    ∃ groups, text = ParserCombinators.groupRow groups ∧ ∀ inner ∈ groups, Balanced inner := by
  obtain ⟨groups, rest, rfl, hgroups, hrest⟩ := exists_groupRow text
  have hnil : rest = [] := hrest rest List.prefix_rfl (h.of_append (Balanced.groupRow hgroups))
  exact ⟨groups, by rw [hnil, List.append_nil], hgroups⟩

/-- What it means that no more parentheses are open at one place. -/
theorem nestingDepth_le_iff {text : Text} {depth : Nat} :
    nestingDepth text ≤ depth ↔
      ∀ start, start <+: text → start.count '(' ≤ start.count ')' + depth := by
  have hfoldr : ∀ depths : List Nat, depths.foldr max 0 ≤ depth ↔ ∀ d ∈ depths, d ≤ depth := by
    intro depths
    induction depths with
    | nil => simp
    | cons d rest ih => simp [ih]
  rw [nestingDepth, hfoldr]
  simp only [List.mem_map, List.mem_inits, forall_exists_index, and_imp,
    forall_apply_eq_imp_iff₂, Nat.sub_le_iff_le_add']

/-- A group in front is one level deeper than the text in it. -/
theorem nestingDepth_group {inner text : Text} (h : Balanced inner) :
    nestingDepth (parenthesized inner ++ text) =
      max (nestingDepth inner + 1) (nestingDepth text) := by
  apply eq_of_forall_ge_iff
  intro depth
  rw [Nat.max_le]
  constructor
  · intro hall
    rw [nestingDepth_le_iff] at hall
    have hopen := hall ['('] (List.cons_prefix_cons.2 ⟨rfl, List.nil_prefix⟩)
    obtain ⟨depth, rfl⟩ : ∃ d, depth = d + 1 := ⟨depth - 1, by simp at hopen; omega⟩
    rw [Nat.add_le_add_iff_right, nestingDepth_le_iff, nestingDepth_le_iff]
    constructor
    · intro start hstart
      have hprefix : '(' :: start <+: parenthesized inner ++ text :=
        List.cons_prefix_cons.2 ⟨rfl, hstart.trans (by simp)⟩
      have hbound := hall ('(' :: start) hprefix
      simp at hbound
      omega
    · intro start hstart
      have hbound := hall (parenthesized inner ++ start)
        ((List.prefix_append_right_inj _).2 hstart)
      rw [List.count_append, List.count_append, h.parenthesized.closed] at hbound
      omega
  · rintro ⟨hinner, htext⟩
    obtain ⟨depth, rfl⟩ : ∃ d, depth = d + 1 := ⟨depth - 1, by omega⟩
    rw [Nat.add_le_add_iff_right] at hinner
    rw [nestingDepth_le_iff] at hinner htext ⊢
    intro start hstart
    rcases prefix_row_iff.1 hstart with hin | ⟨more, rfl, hmore⟩
    · rcases List.prefix_cons_iff.1 hin with rfl | ⟨start, rfl, htail⟩
      · simp
      · have hbound : start.count '(' ≤ start.count ')' + depth := by
          rcases List.prefix_concat_iff.1 htail with rfl | hshort
          · have hall := hinner inner List.prefix_rfl
            simp
            omega
          · exact hinner start hshort
        simp
        omega
    · rw [List.count_append, List.count_append, h.parenthesized.closed]
      have := htext more hmore
      omega

/-- The depth of a row of balanced groups. -/
theorem nestingDepth_groupRow {groups : List Text} (h : ∀ inner ∈ groups, Balanced inner) :
    nestingDepth (groupRow groups) =
      (groups.map fun inner => nestingDepth inner + 1).foldr max 0 := by
  induction groups with
  | nil => rfl
  | cons inner rest ih =>
    rw [groupRow_cons, nestingDepth_group (h inner List.mem_cons_self),
      ih fun other hother => h other (List.mem_cons_of_mem inner hother)]
    rfl

end ParserCombinators
