import ParserCombinators.Regex.Match
import ParserCombinators.Regex.Named

/-!
# Where a match lies

What matches at the beginning of a text begins the text. An expression that is not nullable never
matches the empty text. An expression that is anchored by its form is found only at the beginning of
the text.
-/

namespace ParserCombinators.Regex

/-- Numbering the choices keeps nullability. -/
theorem isNullable_number (r : Regex Unit) (n : Nat) :
    (r.number n).1.isNullable = r.isNullable := by
  induction r generalizing n with
  | empty => rfl
  | set _ => rfl
  | look _ => rfl
  | seq first second ihFirst ihSecond => simp [number, isNullable, ihFirst, ihSecond]
  | alt _ first second ihFirst ihSecond => simp [number, isNullable, ihFirst, ihSecond]
  | plus _ body _ ih => simp [number, isNullable, ih]
  | loop _ body _ _ => rfl

/-- Numbering the choices keeps the anchor. -/
theorem isAnchored_number (r : Regex Unit) (n : Nat) :
    (r.number n).1.isAnchored = r.isAnchored := by
  induction r generalizing n with
  | empty => rfl
  | set _ => rfl
  | look _ => rfl
  | seq first second ihFirst _ => simp [number, isAnchored, ihFirst]
  | alt _ first second ihFirst ihSecond => simp [number, isAnchored, ihFirst, ihSecond]
  | plus _ body _ ih => simp [number, isAnchored, ih]
  | loop _ body _ _ => rfl

/-- The thread can be gone through without reading. -/
def Skippable (thread : Thread) : Prop :=
  ∀ r ∈ thread, r.isNullable = true

@[simp] theorem skippable_nil : Skippable [] := by
  simp [Skippable]

@[simp] theorem skippable_cons {r : Regex Nat} {rest : Thread} :
    Skippable (r :: rest) ↔ r.isNullable = true ∧ Skippable rest := by
  simp [Skippable]

/-- Only a thread that can be gone through without reading accepts where it stands. -/
theorem exists_skippable_of_accept {before after : Option Char} {unmade : List Nat}
    {threads : List Thread} (h : Way.accept ∈ ways before after unmade threads) :
    ∃ thread ∈ threads, Skippable thread := by
  fun_induction ways before after unmade threads with
  | case1 => simp at h
  | case2 => simp
  | case3 unmade rest later ih => simpa [isNullable] using ih h
  | case4 unmade members rest later ih =>
    obtain ⟨thread, hthread, hskip⟩ := ih (by simpa using h)
    exact ⟨thread, List.mem_cons_of_mem _ hthread, hskip⟩
  | case5 unmade condition rest later _ ih => simpa [isNullable] using ih h
  | case6 unmade condition rest later _ ih =>
    obtain ⟨thread, hthread, hskip⟩ := ih h
    exact ⟨thread, List.mem_cons_of_mem _ hthread, hskip⟩
  | case7 unmade first second rest later ih => simpa [isNullable, and_assoc] using ih h
  | case8 unmade mark first second rest later _ ih =>
    simp only [List.mem_cons, exists_eq_or_imp, skippable_cons, isNullable, Bool.or_eq_true] at ih ⊢
    rcases ih h with ⟨hfirst, hrest⟩ | ⟨hsecond, hrest⟩ | hlater
    · exact .inl ⟨.inl hfirst, hrest⟩
    · exact .inl ⟨.inr hsecond, hrest⟩
    · exact .inr hlater
  | case9 unmade mark first second rest later _ ih =>
    obtain ⟨thread, hthread, hskip⟩ := ih h
    exact ⟨thread, List.mem_cons_of_mem _ hthread, hskip⟩
  | case10 unmade mark body greedy rest later ih => simpa [isNullable] using ih h
  | case11 unmade mark body greedy rest later _ again ih =>
    have hor : Skippable again ∨ Skippable rest ∨ ∃ thread ∈ later, Skippable thread := by
      cases greedy <;> simpa [or_left_comm] using ih h
    simp only [List.mem_cons, exists_eq_or_imp, skippable_cons, isNullable, true_and]
    rcases hor with hagain | hrest
    · exact .inl (skippable_cons.1 (skippable_cons.1 hagain).2).2
    · exact hrest
  | case12 unmade mark body greedy rest later _ ih =>
    obtain ⟨thread, hthread, hskip⟩ := ih h
    exact ⟨thread, List.mem_cons_of_mem _ hthread, hskip⟩

/-- The empty text is matched only if a thread can be gone through without reading. -/
theorem exists_skippable_of_scan_nil {choices : List Nat} {before : Option Char}
    {threads : List Thread} {text : Text} (h : scan choices before threads text = some []) :
    ∃ thread ∈ threads, Skippable thread := by
  cases threads with
  | nil => cases text <;> simp [scan] at h
  | cons thread threads =>
    cases text with
    | nil =>
      simp only [scan, Option.ite_none_right_eq_some] at h
      exact exists_skippable_of_accept h.1
    | cons c rest =>
      simp only [scan] at h
      split at h
      · cases h
      · simp only [Option.ite_none_right_eq_some] at h
        exact exists_skippable_of_accept h.1

/-- What is matched at the beginning of a text begins it. -/
theorem matchStart_isPrefix {r : Regex Unit} {text matched : Text}
    (h : r.matchStart text = some matched) : matched <+: text :=
  scan_isPrefix h

/-- An expression that is not nullable is never found to match the empty text. -/
theorem ne_nil_of_find {r : Regex Unit} (hr : r.isNullable = false) {text matched : Text}
    (h : r.find text = some matched) : matched ≠ [] := by
  rintro rfl
  obtain ⟨_, _, _, hscan⟩ := findFrom_eq_some h
  obtain ⟨thread, hthread, hskip⟩ := exists_skippable_of_scan_nil hscan
  rw [List.mem_singleton.1 hthread, skippable_cons, isNullable_number, hr] at hskip
  exact absurd hskip.1 (by simp)

/-- An expression with an anchor in front of all its ways is found at the beginning only. -/
theorem find_eq_matchStart {r : Regex Unit} (hr : r.isAnchored = true) (text : Text) :
    r.find text = r.matchStart text := by
  have hanchor : (r.number 0).1.isAnchored = true := by rw [isAnchored_number, hr]
  cases text with
  | nil => rfl
  | cons c rest =>
    simp only [find, matchStart, findFrom, hanchor]
    split <;> simp_all

/-- What an expression finds that is found at the beginning only begins the text. -/
theorem findsAtStart_of_isAnchored {r : Regex Unit} (hr : r.isAnchored = true) :
    r.search.FindsAtStart := by
  intro text matched h
  rw [search_find, find_eq_matchStart hr] at h
  exact matchStart_isPrefix h

end ParserCombinators.Regex
