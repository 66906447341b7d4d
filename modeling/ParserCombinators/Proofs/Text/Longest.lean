import Mathlib.Data.List.TakeWhile
import Mathlib.Data.Nat.Find
import ParserCombinators.Text.Basic

/-!
# Longest beginnings

Of the beginnings of a text that belong to a language one may be the longest. For runs of characters
of a class it is the characters of the class that the text begins with. A text of any language is the
longest beginning in front of a rest that cannot go on with it.
-/

namespace ParserCombinators

/-- Some beginning of the text belongs to the language. -/
def Begins (language : Text → Prop) (text : Text) : Prop :=
  ∃ part, part <+: text ∧ language part

/-- Of the beginnings of the text that belong to the language the part is the longest. -/
structure Longest (language : Text → Prop) (text part : Text) : Prop where
  starts : part <+: text
  belongs : language part
  length_le : ∀ other, other <+: text → language other → other.length ≤ part.length

/-- The text is not empty and has characters of the class only. -/
def IsRun (members : Char → Bool) (text : Text) : Prop :=
  text ≠ [] ∧ ∀ c ∈ text, members c

variable {language : Text → Prop} {members : Char → Bool} {text part other rest : Text}

/-- There is at most one longest beginning. -/
theorem Longest.unique (h : Longest language text part) (h' : Longest language text other) :
    part = other := by
  have hle := h'.length_le part h.starts h.belongs
  exact (List.prefix_of_prefix_length_le h.starts h'.starts hle).eq_of_length_le
    (h.length_le other h'.starts h'.belongs)

/-- A longest beginning is a beginning. -/
theorem Longest.begins (h : Longest language text part) : Begins language text :=
  ⟨part, h.starts, h.belongs⟩

/-- Where a text begins with one of the language there is a longest such beginning. -/
theorem Begins.exists_longest (h : Begins language text) : ∃ part, Longest language text part := by
  classical
  obtain ⟨part, hpart, hlanguage⟩ := h
  have htake : ∀ other, other <+: text → language other → language (text.take other.length) :=
    fun other hother hlanguage => List.prefix_iff_eq_take.1 hother ▸ hlanguage
  have hgreatest := Nat.findGreatest_spec (P := fun n => language (text.take n)) hpart.length_le
    (htake part hpart hlanguage)
  refine ⟨_, List.take_prefix _ text, hgreatest, fun other hother hlanguage => ?_⟩
  rw [List.length_take, Nat.min_eq_left (Nat.findGreatest_le text.length)]
  exact Nat.le_findGreatest hother.length_le (htake other hother hlanguage)

/-- In front of a rest whose first character cannot go on with a text of the language, that text is
the longest beginning. -/
theorem longest_append (hpart : language part)
    (hstop : ∀ c behind more, rest = c :: behind → ¬language (part ++ c :: more)) :
    Longest language (part ++ rest) part := by
  refine ⟨List.prefix_append part rest, hpart, fun other hother hlanguage => ?_⟩
  by_contra hlonger
  -- a longer beginning would be the part, the first character of the rest and more
  have hpart' : part <+: other :=
    List.prefix_of_prefix_length_le (List.prefix_append part rest) hother (by omega)
  obtain ⟨added, rfl⟩ := hpart'
  obtain ⟨behind, hbehind⟩ := (List.prefix_append_right_inj part).1 hother
  cases added with
  | nil => simp at hlonger
  | cons c more => exact hstop c (more ++ behind) more hbehind.symm hlanguage

/-- In front of a rest that does not begin with a character of the class a run is the longest. -/
theorem longest_run (hpart : IsRun members part)
    (hstop : ∀ c behind, rest = c :: behind → ¬members c) :
    Longest (IsRun members) (part ++ rest) part := by
  refine longest_append hpart fun c behind more hrest hmore => hstop c behind hrest ?_
  exact hmore.2 c (List.mem_append_right part List.mem_cons_self)

/-- A text begins with a run exactly if its first character belongs to the class. -/
theorem begins_isRun_iff :
    Begins (IsRun members) text ↔ ∃ c rest, text = c :: rest ∧ members c := by
  constructor
  · rintro ⟨part, ⟨rest, rfl⟩, hne, hmembers⟩
    cases part with
    | nil => exact absurd rfl hne
    | cons c part => exact ⟨c, part ++ rest, rfl, hmembers c List.mem_cons_self⟩
  · rintro ⟨c, rest, rfl, hc⟩
    exact ⟨[c], ⟨rest, rfl⟩, by simp, by simpa using hc⟩

/-- The characters of a class that a text begins with are its longest run, if there are any. -/
theorem longest_takeWhile (h : Begins (IsRun members) text) :
    Longest (IsRun members) text (text.takeWhile members) := by
  obtain ⟨c, rest, rfl, hc⟩ := begins_isRun_iff.1 h
  refine ⟨List.takeWhile_prefix members, ⟨?_, fun d hd => List.mem_takeWhile_imp hd⟩, ?_⟩
  · rw [List.takeWhile_cons_of_pos hc]
    exact List.cons_ne_nil c _
  · rintro other ⟨behind, hbehind⟩ ⟨_, hother⟩
    rw [← hbehind, List.takeWhile_append_of_pos hother, List.length_append]
    exact Nat.le_add_right _ _

/-- The longest run is the characters of the class that the text begins with. -/
theorem Longest.eq_takeWhile (h : Longest (IsRun members) text part) :
    part = text.takeWhile members :=
  h.unique (longest_takeWhile h.begins)

end ParserCombinators
