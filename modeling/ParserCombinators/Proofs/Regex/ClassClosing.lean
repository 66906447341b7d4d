import ParserCombinators.Proofs.Regex.Closing
import ParserCombinators.Regex.ClassReader

/-!
# Classes in front of a closing parenthesis

A class that is read to its end is read alike with a parenthesis behind the text. A class that is
not closed stays open with the parenthesis in it.
-/

namespace ParserCombinators.Regex

variable {mode : Mode} {text text' : Text}

section NamedClasses

/-- Both texts begin with a character, or none does. -/
theorem Closes.head?_iff (h : Closes text text') {c : Char} (hc : c ≠ ')') :
    text.head? = some c ↔ text'.head? = some c := by
  cases h with
  | ended => rfl
  | mark => simp [hc.symm]
  | cons d h => rfl

/-- A span of characters that a parenthesis may be among either goes to the end or stops before. -/
theorem Closes.span (h : Closes text text') (p : Char → Bool) (hp : p ')' = true) :
    (text.dropWhile p = [] ∧ text'.dropWhile p = []) ∨
      (text.takeWhile p = text'.takeWhile p ∧ Closes (text.dropWhile p) (text'.dropWhile p)) := by
  induction h with
  | ended => exact .inl ⟨rfl, rfl⟩
  | mark => exact .inl ⟨rfl, List.dropWhile_cons_of_pos hp⟩
  | cons c h ih =>
    cases hc : p c with
    | true => simpa [hc] using ih
    | false => exact .inr (by simpa [hc] using Closes.cons c h)

/-- A beginning without a parenthesis. -/
theorem stripStart?_closes (h : Closes text text') {start : Text} (hstart : ')' ∉ start) :
    Tracks Closes Never (stripStart? start text) (stripStart? start text') := by
  induction start generalizing text text' with
  | nil => exact .read h
  | cons c start ih =>
    have hc : c ≠ ')' := fun heq => hstart (heq ▸ List.mem_cons_self)
    have hrest : ')' ∉ start := fun hmem => hstart (List.mem_cons_of_mem c hmem)
    cases h with
    | ended => exact .refused
    | mark =>
      simp only [stripStart?, if_neg hc]
      exact .refused
    | cons d h =>
      simp only [stripStart?]
      split_ifs
      · exact ih h hrest
      · exact .refused

/-- A named class from its name on. -/
def namedClassFrom (negated : Bool) (text : Text) : Option ((Bool × List (Char × Char)) × Text) :=
  (stripStart? [':', ']'] (text.dropWhile (· != ':'))).bind fun after =>
    (namedClass? (text.takeWhile (· != ':'))).bind fun list => some ((negated, list), after)

/-- A named class from its name on. -/
theorem namedClassFrom_closes (negated : Bool) (h : Closes text text') :
    Tracks SameValue Never (namedClassFrom negated text) (namedClassFrom negated text') := by
  rcases h.span (· != ':') (by decide) with ⟨ht, ht'⟩ | ⟨hname, hafter⟩
  · simp only [namedClassFrom, ht, ht']
    exact .refused
  · simp only [namedClassFrom, hname]
    refine (stripStart?_closes hafter (by decide)).bind (fun after after' hclose => ?_)
      fun _ => False.elim
    exact .bind_same _ fun list => .read ⟨rfl, hclose⟩

/-- A named class without a caret. -/
theorem readNamedClass_plain (h : text.head? ≠ some '^') :
    readNamedClass (':' :: text) = namedClassFrom false text := by
  rw [readNamedClass]
  · rfl
  · rintro after rfl
    exact h rfl

/-- A named class. -/
theorem readNamedClass_closes (h : Closes text text') :
    Tracks SameValue Never (readNamedClass text) (readNamedClass text') := by
  cases h with
  | ended => exact .refused
  | mark => exact .refused
  | @cons c rest rest' h =>
    by_cases hc : c = ':'
    · subst hc
      have hcaret := h.head?_iff (show '^' ≠ ')' by decide)
      by_cases hnegated : rest.head? = some '^'
      · cases h with
        | ended => cases hnegated
        | mark => cases hnegated
        | cons d h =>
          obtain rfl : d = '^' := Option.some.inj hnegated
          exact namedClassFrom_closes true h
      · rw [readNamedClass_plain hnegated, readNamedClass_plain (mt hcaret.2 hnegated)]
        exact namedClassFrom_closes false h
    · have hnone : ∀ rest, readNamedClass (c :: rest) = none := by
        intro rest
        rw [readNamedClass]
        intro after heq
        exact hc (List.cons.inj heq).1
      rw [hnone, hnone]
      exact .refused

end NamedClasses

section Items

/-- A character or an escape in a class. -/
theorem readClassAtom_closes (mode : Mode) (h : Closes text text') :
    Tracks SameValue (DeadAtom mode) (readClassAtom mode text)
      (readClassAtom mode text') := by
  cases h with
  | ended => exact .refused
  | mark => exact .stuck (.inl rfl)
  | @cons c rest rest' h =>
    by_cases hc : c = '\\'
    · subst hc
      exact readEscape_closes mode h
    · have hplain : ∀ rest, readClassAtom mode (c :: rest) = some (.literal c, rest) := by
        intro rest
        rw [readClassAtom]
        exact hc
      rw [hplain, hplain]
      exact .read ⟨rfl, h⟩

/-- A single item. -/
def classItem (mode : Mode) (first : Atom) (rest : Text) : Option (CharSet × Text) :=
  (mode.item? first).bind fun item => some (item, rest)

/-- The range to an atom. -/
def classRange (mode : Mode) (first : Atom) (last : Atom × Text) : Option (CharSet × Text) :=
  match first, last.1 with
  | .literal first, .literal final =>
    (mode.classRange? first final).bind fun item => some (item, last.2)
  | _, _ => none

/-- An item from after its first atom on. -/
def classItemFrom (mode : Mode) (first : Atom) (rest : Text) : Option (CharSet × Text) :=
  match rest with
  | '-' :: more =>
    if (skip mode.verbose more).head? = some ']' ∨ (skip mode.verbose more).head? = some '-' then
      classItem mode first rest
    else (readClassAtom mode (skip mode.verbose more)).bind (classRange mode first)
  | _ => classItem mode first rest

/-- An item is its first atom and what follows it. -/
theorem readClassItem_eq (mode : Mode) (text : Text) : readClassItem mode text =
    (readClassAtom mode text).bind fun found =>
      classItemFrom mode found.1 (skip mode.verbose found.2) := rfl

/-- Single items. -/
theorem classItem_closes {first : Atom} (h : Closes text text') :
    Tracks SameValue AtEnd (classItem mode first text) (classItem mode first text') :=
  .bind_same _ fun _ => .read ⟨rfl, h⟩

/-- Ranges. -/
theorem classRange_closes {first : Atom} {last last' : Atom × Text} (h : SameValue last last') :
    Tracks SameValue AtEnd (classRange mode first last) (classRange mode first last') := by
  obtain ⟨final, rest⟩ := last
  obtain ⟨_, rest'⟩ := last'
  obtain ⟨rfl, hrest⟩ := h
  unfold classRange
  dsimp only at hrest ⊢
  split
  · exact .bind_same _ fun item => .read ⟨rfl, hrest⟩
  · exact .refused

/-- A range to an atom behind which nothing can be read ends there or is none. -/
theorem classRange_dead {first : Atom} {last : Atom × Text} (h : DeadAtom mode last) :
    Tracks SameValue AtEnd none (classRange mode first last) := by
  unfold classRange
  rcases h with hend | ⟨hlook, _⟩
  · split
    · cases mode.classRange? _ _ with
      | none => exact .refused
      | some item => exact .stuck hend
    · exact .refused
  · rw [hlook]
    cases first <;> exact .refused

/-- An item whose first atom is read. -/
theorem classItemFrom_closes {first : Atom} (h : Closes text text') :
    Tracks SameValue AtEnd (classItemFrom mode first text) (classItemFrom mode first text') := by
  cases h with
  | ended => exact classItem_closes .ended
  | mark => exact classItem_closes .mark
  | @cons c rest rest' h =>
    by_cases hc : c = '-'
    · subst hc
      have hskip := h.skip mode.verbose
      have hbracket := hskip.head?_iff (show ']' ≠ ')' by decide)
      have hhyphen := hskip.head?_iff (show '-' ≠ ')' by decide)
      have hrange : Tracks SameValue AtEnd
          ((readClassAtom mode (skip mode.verbose rest)).bind (classRange mode first))
          ((readClassAtom mode (skip mode.verbose rest')).bind (classRange mode first)) :=
        (readClassAtom_closes mode hskip).bind (fun _ _ => classRange_closes)
          fun _ => classRange_dead
      simp only [classItemFrom, hbracket, hhyphen]
      split_ifs
      · exact classItem_closes (.cons _ h)
      · exact hrange
    · have hplain : ∀ rest, classItemFrom mode first (c :: rest) =
          classItem mode first (c :: rest) := by
        intro rest
        rw [classItemFrom]
        intro after heq
        exact hc (List.cons.inj heq).1
      rw [hplain, hplain]
      exact classItem_closes (.cons c h)

/-- A brace is no layout. -/
theorem skip_brace (verbose : Bool) (text : Text) :
    skip verbose ('\x7b' :: text) = '\x7b' :: text := by
  have hblank : Unicode.isBlank '\x7b' = false := by decide
  cases verbose with
  | true => simp [skip, skipLayout, hblank]
  | false => rfl

/-- An item with a first atom behind which nothing can be read ends there or is none. -/
theorem classItemFrom_dead {first : Atom × Text} (h : DeadAtom mode first) :
    Tracks SameValue AtEnd none (classItemFrom mode first.1 (skip mode.verbose first.2)) := by
  obtain ⟨atom, rest⟩ := first
  rcases h with hend | ⟨hlook, after, hrest, _⟩
  · dsimp only at hend ⊢
    have hskip : skip mode.verbose rest = [] := by
      rw [show rest = [] from hend, skip_nil]
    simp only [hskip, classItemFrom, classItem]
    cases mode.item? atom with
    | none => exact .refused
    | some item => exact .stuck rfl
  · dsimp only at hlook hrest ⊢
    rw [hlook, hrest, skip_brace]
    exact .refused

/-- An item. -/
theorem readClassItem_closes (mode : Mode) (h : Closes text text') :
    Tracks SameValue AtEnd (readClassItem mode text) (readClassItem mode text') := by
  rw [readClassItem_eq, readClassItem_eq]
  refine (readClassAtom_closes mode h).bind ?_ fun found => classItemFrom_dead
  intro found found' hfound
  rw [hfound.1]
  exact classItemFrom_closes (hfound.2.skip mode.verbose)

/-- A parenthesis in a class is an item. -/
theorem readClassItem_mark (mode : Mode) :
    readClassItem mode [')'] = some (mode.range ')' ')', []) := by
  have hrange : mode.classRange? ')' ')' = some (mode.range ')' ')') :=
    if_pos ⟨Nat.le_refl _, .inr (by decide)⟩
  rw [readClassItem_eq]
  change classItemFrom mode (.literal ')') (skip mode.verbose []) = _
  rw [skip_nil]
  change (mode.classRange? ')' ')').bind _ = _
  rw [hrange]
  rfl

end Items

section Opening

/-- The hyphens at the beginning of a class end where none stands. -/
theorem readHyphens_stop (h : (skip mode.verbose text).head? ≠ some '-') (fuel : Nat)
    (cls : OpenClass) : readHyphens mode (fuel + 1) cls text = (cls, skip mode.verbose text) := by
  rw [readHyphens]
  split
  · next heq => exact absurd (congrArg List.head? heq) h
  · rfl

/-- Hyphens at the beginning of a class. -/
theorem readHyphens_closes (mode : Mode) {fuel fuel' : Nat} (cls : OpenClass)
    (h : Closes text text') (hfuel : text.length < fuel) (hfuel' : text'.length < fuel') :
    SameValue (readHyphens mode fuel cls text) (readHyphens mode fuel' cls text') := by
  induction fuel generalizing fuel' cls text text' with
  | zero => omega
  | succ fuel ih =>
    obtain ⟨fuel', rfl⟩ : ∃ n, fuel' = n + 1 := ⟨fuel' - 1, by omega⟩
    have hskip := h.skip mode.verbose
    have hhyphen := hskip.head?_iff (show '-' ≠ ')' by decide)
    by_cases hstop : (skip mode.verbose text).head? = some '-'
    · rcases h.skip_cases mode.verbose with ⟨ht, _⟩ | ⟨ht, _⟩ |
        ⟨c, rest, rest', ht, ht', hrest, hlt, hlt'⟩
      · simp [ht] at hstop
      · simp [ht] at hstop
      · obtain rfl : c = '-' := by simpa [ht] using hstop
        simp only [readHyphens, ht, ht']
        exact ih _ hrest (by omega) (by omega)
    · rw [readHyphens_stop hstop, readHyphens_stop (mt hhyphen.2 hstop)]
      exact ⟨rfl, hskip⟩

/-- A class from after its caret on. -/
def openClassFrom (mode : Mode) (negated : Bool) (text : Text) : OpenClass × Text :=
  let (cls, rest) := readHyphens mode (text.length + 1) ⟨negated, none, .none, {}⟩ text
  match rest with
  | ']' :: after =>
    if cls.items = .none then (cls.add (mode.range ']' ']') 0, after) else (cls, rest)
  | _ => (cls, rest)

/-- The beginning of a class behind its caret. -/
theorem openClassFrom_closes (negated : Bool) (h : Closes text text') :
    SameValue (openClassFrom mode negated text) (openClassFrom mode negated text') := by
  have hhyphens := readHyphens_closes mode ⟨negated, none, .none, {}⟩ h
    (Nat.lt_succ_self _) (Nat.lt_succ_self _)
  unfold openClassFrom
  generalize readHyphens mode (text.length + 1) ⟨negated, none, .none, {}⟩ text = found
    at hhyphens ⊢
  generalize readHyphens mode (text'.length + 1) ⟨negated, none, .none, {}⟩ text' = found'
    at hhyphens ⊢
  obtain ⟨cls, rest⟩ := found
  obtain ⟨_, rest'⟩ := found'
  obtain ⟨rfl, hrest⟩ := hhyphens
  dsimp only at hrest ⊢
  split
  · cases hrest with
    | cons _ hrest =>
      split_ifs
      · exact ⟨rfl, hrest⟩
      · exact ⟨rfl, .cons _ hrest⟩
  · next hne =>
    split
    · cases hrest with
      | cons _ _ => exact absurd rfl (hne _)
    · exact ⟨rfl, hrest⟩

/-- The beginning of a class with a caret. -/
theorem openClass_caret {rest : Text} (ht : skip mode.verbose text = '^' :: rest) :
    openClass mode text = openClassFrom mode true rest := by
  rw [openClass, ht]
  rfl

/-- The beginning of a class without a caret. -/
theorem openClass_plain (ht : (skip mode.verbose text).head? ≠ some '^') :
    openClass mode text = openClassFrom mode false (skip mode.verbose text) := by
  unfold openClass
  split
  next heq =>
    split at heq
    · next hcaret => exact absurd (congrArg List.head? hcaret) ht
    · cases heq
      rfl

/-- The beginning of a class. -/
theorem openClass_closes (mode : Mode) (h : Closes text text') :
    SameValue (openClass mode text) (openClass mode text') := by
  have hskip := h.skip mode.verbose
  have hcaret := hskip.head?_iff (show '^' ≠ ')' by decide)
  by_cases hnegated : (skip mode.verbose text).head? = some '^'
  · rcases h.skip_cases mode.verbose with ⟨ht, _⟩ | ⟨ht, _⟩ | ⟨c, rest, rest', ht, ht', hrest, _, _⟩
    · simp [ht] at hnegated
    · simp [ht] at hnegated
    · obtain rfl : c = '^' := by simpa [ht] using hnegated
      rw [openClass_caret ht, openClass_caret ht']
      exact openClassFrom_closes true hrest
  · rw [openClass_plain hnegated, openClass_plain (mt hcaret.2 hnegated)]
    exact openClassFrom_closes false hskip

end Opening

section Lengths

variable {n : Nat}

/-- A beginning is taken from the text. -/
theorem length_stripStart?_le {start rest : Text} (h : stripStart? start text = some rest) :
    rest.length ≤ text.length := by
  rw [stripStart?_eq_some_iff.1 h, List.length_append]
  omega

/-- A named class is taken from the text. -/
theorem readNamedClass_leaves (text : Text) : Leaves text.length (readNamedClass text) := by
  have hfrom : ∀ (negated : Bool) (rest : Text), rest.length ≤ text.length →
      Leaves text.length (namedClassFrom negated rest) := by
    intro negated rest hrest
    have hdrop : (rest.dropWhile (· != ':')).length ≤ rest.length :=
      (List.dropWhile_sublist _).length_le
    rw [namedClassFrom]
    cases hstrip : stripStart? [':', ']'] (rest.dropWhile (· != ':')) with
    | none => exact leaves_none
    | some after =>
      have hafter := length_stripStart?_le hstrip
      dsimp only [Option.bind_some]
      cases namedClass? (rest.takeWhile (· != ':')) with
      | none => exact leaves_none
      | some list => exact leaves_some (by omega)
  cases text with
  | nil => exact leaves_none
  | cons c rest =>
    by_cases hc : c = ':'
    · subst hc
      by_cases hnegated : rest.head? = some '^'
      · obtain ⟨after, rfl⟩ := List.head?_eq_some_iff.1 hnegated
        exact hfrom true after (Nat.le_add_right _ 2)
      · rw [readNamedClass_plain hnegated]
        exact hfrom false rest (by simp)
    · rw [readNamedClass]
      · exact leaves_none
      · intro after heq
        exact hc (List.cons.inj heq).1

/-- An atom takes at least one character from the text. -/
theorem readClassAtom_leaves (mode : Mode) {c : Char} {rest : Text} (h : rest.length ≤ n) :
    Leaves n (readClassAtom mode (c :: rest)) := by
  by_cases hc : c = '\\'
  · subst hc
    exact readEscape_leaves mode h
  · rw [readClassAtom]
    · exact leaves_some h
    · exact hc

/-- An item takes what follows its first atom from the text. -/
theorem classItemFrom_leaves (first : Atom) (h : text.length ≤ n) :
    Leaves n (classItemFrom mode first text) := by
  have hsingle : Leaves n (classItem mode first text) := by
    rw [classItem]
    cases mode.item? first with
    | none => exact leaves_none
    | some item => exact leaves_some h
  have hrange : ∀ last : Atom × Text, last.2.length ≤ n →
      Leaves n (classRange mode first last) := by
    intro last hlast
    unfold classRange
    split
    · cases mode.classRange? _ _ with
      | none => exact leaves_none
      | some item => exact leaves_some hlast
    · exact leaves_none
  unfold classItemFrom
  split
  · next more =>
    have hskip := length_skip_le mode.verbose more
    rw [List.length_cons] at h
    split_ifs
    · exact hsingle
    · cases hmore : skip mode.verbose more with
      | nil => exact leaves_none
      | cons c rest =>
        rw [hmore, List.length_cons] at hskip
        have hrest : rest.length ≤ n := by omega
        exact (readClassAtom_leaves mode hrest).bind hrange
  · exact hsingle

/-- An item takes at least one character from the text. -/
theorem readClassItem_leaves (mode : Mode) (c : Char) (rest : Text) :
    Leaves rest.length (readClassItem mode (c :: rest)) := by
  rw [readClassItem_eq]
  refine (readClassAtom_leaves mode (Nat.le_refl _)).bind ?_
  rintro ⟨first, after⟩ hafter
  exact classItemFrom_leaves first (Nat.le_trans (length_skip_le mode.verbose after) hafter)

/-- Hyphens at the beginning of a class are taken from the text. -/
theorem length_readHyphens_le (mode : Mode) (fuel : Nat) (cls : OpenClass) (text : Text) :
    (readHyphens mode fuel cls text).2.length ≤ text.length := by
  induction fuel generalizing cls text with
  | zero => exact Nat.le_refl _
  | succ fuel ih =>
    have hskip := length_skip_le mode.verbose text
    rw [readHyphens]
    split
    · next heq =>
      rw [heq, List.length_cons] at hskip
      have hrest := ih (cls.add (mode.range '-' '-') 0) ‹_›
      omega
    · exact hskip

/-- The beginning of a class is taken from the text. -/
theorem openClass_leaves (mode : Mode) (text : Text) :
    (openClass mode text).2.length ≤ text.length := by
  have hskip := length_skip_le mode.verbose text
  have hfrom : ∀ (negated : Bool) (rest : Text), rest.length ≤ text.length →
      (openClassFrom mode negated rest).2.length ≤ text.length := by
    intro negated rest hrest
    have hhyphens := length_readHyphens_le mode (rest.length + 1) ⟨negated, none, .none, {}⟩ rest
    unfold openClassFrom
    generalize readHyphens mode (rest.length + 1) ⟨negated, none, .none, {}⟩ rest = found
      at hhyphens ⊢
    obtain ⟨cls, after⟩ := found
    dsimp only at hhyphens ⊢
    split
    · rw [List.length_cons] at hhyphens
      split_ifs
      · dsimp only
        omega
      · rw [List.length_cons]
        omega
    · dsimp only
      omega
  by_cases hnegated : (skip mode.verbose text).head? = some '^'
  · obtain ⟨after, ht⟩ := List.head?_eq_some_iff.1 hnegated
    rw [ht, List.length_cons] at hskip
    rw [openClass_caret ht]
    exact hfrom true after (by omega)
  · rw [openClass_plain hnegated]
    exact hfrom false _ hskip

end Lengths

section Classes

/-- The same set and the same levels, with corresponding texts behind them. -/
def SameClass (first second : CharSet × Nat × Text) : Prop :=
  first.1 = second.1 ∧ first.2.1 = second.2.1 ∧ Closes first.2.2 second.2.2

/-- A class that is still open at the end is none. -/
theorem readClassFrom_nil (mode : Mode) (fuel : Nat) (cls : OpenClass)
    (outer : List OpenClass) : readClassFrom mode fuel cls outer [] = none := by
  cases fuel with
  | zero => rfl
  | succ fuel => rw [readClassFrom, skip_nil]

/-- Two characters in front of a text. -/
theorem Closes.two {c d : Char} {rest : Text} (h : Closes (c :: d :: rest) text') :
    ∃ rest', text' = c :: d :: rest' ∧ Closes rest rest' := by
  cases h with
  | cons _ h =>
    cases h with
    | cons _ h => exact ⟨_, rfl, h⟩

/-- Two characters other than the parenthesis in front of the second text. -/
theorem Closes.two_left {c d : Char} {rest' : Text} (h : Closes text (c :: d :: rest'))
    (hd : d ≠ ')') : ∃ rest, text = c :: d :: rest ∧ Closes rest rest' := by
  cases h with
  | cons _ h =>
    cases h with
    | mark => exact absurd rfl hd
    | cons _ h => exact ⟨_, rfl, h⟩

/-- The rest of a class from after a bracket that opens a named class or a nested one. -/
def readBracket (mode : Mode) (fuel : Nat) (cls : OpenClass) (outer : List OpenClass)
    (text : Text) : Option (CharSet × Nat × Text) :=
  match readNamedClass text with
  | some ((negated, ranges), rest) => (mode.named? negated ranges).bind fun members =>
      readClassFrom mode fuel (cls.add members 0) outer rest
  | none => readClassFrom mode fuel (openClass mode text).1 (cls :: outer) (openClass mode text).2

/-- The rest of a class from a single item or a range on. -/
def readItem (mode : Mode) (fuel : Nat) (cls : OpenClass) (outer : List OpenClass)
    (text : Text) : Option (CharSet × Nat × Text) :=
  (readClassItem mode text).bind fun found =>
    readClassFrom mode fuel (cls.add found.1 0) outer found.2

/-- The rest of a class is read alike with one round less. -/
def ClassRound (mode : Mode) (fuel fuel' : Nat) : Prop :=
  ∀ (cls : OpenClass) (outer : List OpenClass) {text text' : Text}, Closes text text' →
    text.length < fuel → text'.length < fuel' →
    Tracks SameClass Never (readClassFrom mode fuel cls outer text)
      (readClassFrom mode fuel' cls outer text')

variable {fuel fuel' : Nat} {cls : OpenClass} {outer : List OpenClass}

/-- Behind a bracket. -/
theorem ClassRound.readBracket (ih : ClassRound mode fuel fuel') (h : Closes text text')
    (hfuel : text.length < fuel) (hfuel' : text'.length < fuel') :
    Tracks SameClass Never (readBracket mode fuel cls outer text)
      (readBracket mode fuel' cls outer text') := by
  have hnamed := readNamedClass_closes h
  have hleaves := readNamedClass_leaves text
  have hleaves' := readNamedClass_leaves text'
  unfold Regex.readBracket
  generalize readNamedClass text = found at hnamed hleaves ⊢
  generalize readNamedClass text' = found' at hnamed hleaves' ⊢
  cases hnamed with
  | @read found found' hsame =>
    have hlength := hleaves found rfl
    have hlength' := hleaves' found' rfl
    obtain ⟨⟨negated, ranges⟩, after⟩ := found
    obtain ⟨_, after'⟩ := found'
    obtain ⟨rfl, hafter⟩ := hsame
    exact .bind_same _ fun members => ih _ _ hafter (Nat.lt_of_le_of_lt hlength hfuel)
      (Nat.lt_of_le_of_lt hlength' hfuel')
  | refused =>
    obtain ⟨hsame, hafter⟩ := openClass_closes mode h
    have hlength := openClass_leaves mode text
    have hlength' := openClass_leaves mode text'
    dsimp only
    rw [hsame]
    exact ih _ _ hafter (Nat.lt_of_le_of_lt hlength hfuel) (Nat.lt_of_le_of_lt hlength' hfuel')
  | stuck hdead => exact hdead.elim

/-- From an item on. An item takes a character at least, so fewer are left for the next round. -/
theorem ClassRound.readItem (ih : ClassRound mode fuel fuel') {c : Char}
    (h : Closes (c :: text) (c :: text')) (hfuel : text.length < fuel)
    (hfuel' : text'.length < fuel') :
    Tracks SameClass Never (readItem mode fuel cls outer (c :: text))
      (readItem mode fuel' cls outer (c :: text')) := by
  have hitem := readClassItem_closes mode h
  have hleaves := readClassItem_leaves mode c text
  have hleaves' := readClassItem_leaves mode c text'
  unfold Regex.readItem
  generalize readClassItem mode (c :: text) = found at hitem hleaves ⊢
  generalize readClassItem mode (c :: text') = found' at hitem hleaves' ⊢
  cases hitem with
  | @read found found' hsame =>
    have hlength := hleaves found rfl
    have hlength' := hleaves' found' rfl
    dsimp only [Option.bind_some]
    rw [hsame.1]
    exact ih _ _ hsame.2 (Nat.lt_of_le_of_lt hlength hfuel) (Nat.lt_of_le_of_lt hlength' hfuel')
  | refused => exact .refused
  | @stuck found hend =>
    dsimp only [Option.bind_some]
    rw [hend, readClassFrom_nil]
    exact .refused

/-- The rest of a class. -/
theorem readClassFrom_closes (cls : OpenClass) (outer : List OpenClass)
    (h : Closes text text') (hfuel : text.length < fuel) (hfuel' : text'.length < fuel') :
    Tracks SameClass Never (readClassFrom mode fuel cls outer text)
      (readClassFrom mode fuel' cls outer text') := by
  induction fuel generalizing fuel' cls outer text text' with
  | zero => omega
  | succ fuel ih =>
    obtain ⟨fuel', rfl⟩ : ∃ n, fuel' = n + 1 := ⟨fuel' - 1, by omega⟩
    have hround : ClassRound mode fuel fuel' := fun cls outer => ih cls outer
    have hle := length_skip_le mode.verbose text
    have hle' := length_skip_le mode.verbose text'
    have hskip := h.skip mode.verbose
    rw [readClassFrom, readClassFrom]
    generalize skip mode.verbose text = t at hskip hle ⊢
    generalize skip mode.verbose text' = t' at hskip hle' ⊢
    split
    · cases hskip with
      | ended => exact .refused
      | mark =>
        -- The parenthesis is an item of a class that goes on to the end.
        change Tracks _ _ none (readItem mode fuel' cls outer [')'])
        rw [readItem, readClassItem_mark, Option.bind_some, readClassFrom_nil]
        exact .refused
    · cases hskip with
      | cons _ hrest =>
        rw [List.length_cons] at hle hle'
        refine .bind_same _ fun members => ?_
        cases outer with
        | nil => exact .read ⟨rfl, rfl, hrest⟩
        | cons parent outer => exact ih _ _ hrest (by omega) (by omega)
    · cases hskip with
      | cons _ hrest =>
        rw [List.length_cons] at hle hle'
        exact hround.readBracket hrest (by omega) (by omega)
    · obtain ⟨_, rfl, hrest⟩ := hskip.two
      rw [List.length_cons, List.length_cons] at hle hle'
      exact ih _ _ hrest (by omega) (by omega)
    · obtain ⟨_, rfl, hrest⟩ := hskip.two
      rw [List.length_cons, List.length_cons] at hle hle'
      exact ih _ _ hrest (by omega) (by omega)
    · obtain ⟨_, rfl, hrest⟩ := hskip.two
      rw [List.length_cons, List.length_cons] at hle hle'
      exact ih _ _ hrest (by omega) (by omega)
    · next hnil hclose hopen hinter hdiff hsymm =>
      split
      · cases hskip with
        | ended => exact absurd rfl hnil
      · cases hskip with
        | cons _ _ => exact absurd rfl (hclose _)
      · cases hskip with
        | cons _ _ => exact absurd rfl (hopen _)
      · obtain ⟨_, rfl, _⟩ := hskip.two_left (by decide)
        exact absurd rfl (hinter _)
      · obtain ⟨_, rfl, _⟩ := hskip.two_left (by decide)
        exact absurd rfl (hdiff _)
      · obtain ⟨_, rfl, _⟩ := hskip.two_left (by decide)
        exact absurd rfl (hsymm _)
      · cases hskip with
        | ended => exact absurd rfl hnil
        | mark => exact absurd rfl hnil
        | cons c hrest =>
          rw [List.length_cons] at hle hle'
          exact hround.readItem (.cons c hrest) (by omega) (by omega)

/-- A class. -/
theorem readClass_closes (mode : Mode) (h : Closes text text') :
    Tracks SameClass Never (readClass mode text) (readClass mode text') := by
  obtain ⟨hsame, hrest⟩ := openClass_closes mode h
  simp only [readClass, hsame]
  exact readClassFrom_closes _ [] hrest (Nat.lt_succ_self _) (Nat.lt_succ_self _)

end Classes

end ParserCombinators.Regex
