import ParserCombinators.Proofs.Regex.ClassClosing
import ParserCombinators.Regex.Reader

/-!
# Expressions inside a group

Reading a text inside a group that a parenthesis closes behind the text goes on piece by piece as
reading the text by itself does. The group around it stays on the stack and is seen only by a
parenthesis that closes no group of the text.
-/

namespace ParserCombinators.Regex

variable {text text' : Text}

section Names

/-- Flags that were read, with corresponding texts behind them. -/
def SameFlags (first second : Flags × List Char × Char × Text) : Prop :=
  first.1 = second.1 ∧ first.2.1 = second.2.1 ∧ first.2.2.1 = second.2.2.1 ∧
    Closes first.2.2.2 second.2.2.2

/-- Flags that are ended by the parenthesis. -/
def EndedFlags (found : Flags × List Char × Char × Text) : Prop :=
  found.2.2.1 = ')' ∧ found.2.2.2 = []

/-- Flags. The parenthesis ends flags that are not ended. -/
theorem readFlags_closes (flags : Flags) (seen : List Char) (h : Closes text text') :
    Tracks SameFlags EndedFlags (readFlags flags seen text) (readFlags flags seen text') := by
  induction h generalizing flags seen with
  | ended => exact .refused
  | mark =>
    have hmark : readFlags flags seen [')'] =
        if seen.head? = some '-' then none else some (flags, seen, ')', []) := by
      rw [readFlags, if_pos (.inr rfl)]
    rw [hmark]
    split_ifs
    · exact .refused
    · exact .stuck ⟨rfl, rfl⟩
  | cons c h ih =>
    simp only [readFlags]
    split_ifs
    · exact .refused
    · exact .read ⟨rfl, rfl, rfl, h⟩
    · exact .refused
    · exact ih flags _
    · exact .bind_same _ fun flags => ih flags _

/-- The name of a group. -/
theorem readGroupName_closes (name : Text) (h : Closes text text') :
    Tracks SameValue Never (readGroupName name text) (readGroupName name text') := by
  induction h generalizing name with
  | ended => exact .refused
  | mark =>
    have hchar : isGroupNameChar name.isEmpty ')' = false := by
      cases name.isEmpty <;> decide
    simp only [readGroupName, hchar]
    exact .refused
  | cons c h ih =>
    simp only [readGroupName]
    split_ifs
    · exact .refused
    · exact .read ⟨rfl, h⟩
    · exact ih _
    · exact .refused

end Names

namespace Reader

/-- The reader with one more group around all groups. -/
def within (base : OpenGroup) (reader : Reader) : Reader :=
  { reader with outer := reader.outer ++ [base] }

@[simp] theorem within_verbose (base : OpenGroup) (reader : Reader) :
    (reader.within base).verbose = reader.verbose := rfl

/-- A reader and the same reader inside a group, with corresponding texts to be read. -/
def SameReader (base : OpenGroup) (first second : Reader × Text) : Prop :=
  second.1 = first.1.within base ∧ Closes first.2 second.2

/-- A reader inside a group that nothing closes: the text is at its end, or no count is behind a
brace. -/
def Dead (found : Reader × Text) : Prop :=
  found.1.outer ≠ [] ∧ (found.2 = [] ∨
    ∃ rest, found.2 = '\x7b' :: rest ∧ skip found.1.verbose rest = [')'])

variable {base : OpenGroup} {reader : Reader}

/-- A reader inside a group is inside some group. -/
theorem outer_within_ne_nil (base : OpenGroup) (reader : Reader) :
    (reader.within base).outer ≠ [] := by
  simp [within]

/-- A group with a name. -/
theorem nameGroup_closes (base : OpenGroup) (reader : Reader) (h : Closes text text') :
    Tracks (SameReader base) Dead (reader.nameGroup text)
      ((reader.within base).nameGroup text') := by
  refine (readGroupName_closes [] h).bind ?_ fun _ => False.elim
  rintro ⟨name, rest⟩ ⟨_, rest'⟩ ⟨rfl, hrest⟩
  dsimp only at hrest ⊢
  by_cases hname : name ∈ reader.names
  · rw [if_pos hname, if_pos (show name ∈ (reader.within base).names from hname)]
    exact .refused
  · rw [if_neg hname, if_neg (show name ∉ (reader.within base).names from hname)]
    exact .read ⟨rfl, hrest⟩

/-- A group or a setting of flags from after its question mark on, without a name. -/
def flagGroup (reader : Reader) (text : Text) : Option (Reader × Text) :=
  (readFlags reader.group.flags [] text).bind fun (flags, seen, stop, rest) =>
    if stop = ':' then some (reader.enter flags, rest)
    else if seen.isEmpty then none
    else some ({ reader with group := reader.group.setFlags flags }, rest)

/-- A group or a setting of flags. Flags that the parenthesis ends stand in an open group. -/
theorem flagGroup_closes (base : OpenGroup) (reader : Reader) (h : Closes text text') :
    Tracks (SameReader base) Dead (reader.flagGroup text)
      ((reader.within base).flagGroup text') := by
  refine (readFlags_closes reader.group.flags [] h).bind ?_ ?_
  · rintro ⟨flags, seen, stop, rest⟩ ⟨_, _, _, rest'⟩ ⟨rfl, rfl, rfl, hrest⟩
    dsimp only at hrest ⊢
    split_ifs
    · exact .read ⟨rfl, hrest⟩
    · exact .refused
    · exact .read ⟨rfl, hrest⟩
  · rintro ⟨flags, seen, stop, rest⟩ ⟨hstop, hrest⟩
    dsimp only at hstop hrest ⊢
    rw [hstop, hrest, if_neg (by decide)]
    split_ifs
    · exact .refused
    · exact .stuck ⟨outer_within_ne_nil base reader, .inl rfl⟩

/-- What stands behind a parenthesis and a question mark. -/
def questionGroup (reader : Reader) (text : Text) : Option (Reader × Text) :=
  match text with
  | '=' :: _ => none
  | '!' :: _ => none
  | '<' :: '=' :: _ => none
  | '<' :: '!' :: _ => none
  | 'P' :: '<' :: rest => reader.nameGroup rest
  | '<' :: rest => reader.nameGroup rest
  | _ => reader.flagGroup text

/-- A group with a name in angle brackets. -/
theorem questionGroup_name (reader : Reader) (hequals : text.head? ≠ some '=')
    (hbang : text.head? ≠ some '!') :
    reader.questionGroup ('<' :: text) = reader.nameGroup text := by
  unfold questionGroup
  split <;> simp_all

/-- A group without a name. -/
theorem questionGroup_flags (reader : Reader) {c : Char} (hequals : c ≠ '=') (hbang : c ≠ '!')
    (hangle : c ≠ '<') (hname : c = 'P' → text.head? ≠ some '<') :
    reader.questionGroup (c :: text) = reader.flagGroup (c :: text) := by
  unfold questionGroup
  split <;> simp_all

/-- What stands behind a parenthesis and a question mark. -/
theorem questionGroup_closes (base : OpenGroup) (reader : Reader) (h : Closes text text') :
    Tracks (SameReader base) Dead (reader.questionGroup text)
      ((reader.within base).questionGroup text') := by
  cases h with
  | ended => exact flagGroup_closes base reader .ended
  | mark => exact flagGroup_closes base reader .mark
  | @cons c rest rest' h =>
    have hequals := h.head?_iff (show '=' ≠ ')' by decide)
    have hbang := h.head?_iff (show '!' ≠ ')' by decide)
    have hangle := h.head?_iff (show '<' ≠ ')' by decide)
    by_cases hc : c = '='
    · subst hc
      exact .refused
    by_cases hc' : c = '!'
    · subst hc'
      exact .refused
    by_cases hopen : c = '<'
    · subst hopen
      by_cases he : rest.head? = some '='
      · obtain ⟨after, rfl⟩ := List.head?_eq_some_iff.1 he
        obtain ⟨after', rfl⟩ := List.head?_eq_some_iff.1 (hequals.1 he)
        exact .refused
      by_cases hb : rest.head? = some '!'
      · obtain ⟨after, rfl⟩ := List.head?_eq_some_iff.1 hb
        obtain ⟨after', rfl⟩ := List.head?_eq_some_iff.1 (hbang.1 hb)
        exact .refused
      rw [questionGroup_name _ he hb, questionGroup_name _ (mt hequals.2 he) (mt hbang.2 hb)]
      exact nameGroup_closes base reader h
    by_cases hname : c = 'P' ∧ rest.head? = some '<'
    · obtain ⟨rfl, hhead⟩ := hname
      cases h with
      | ended => cases hhead
      | mark => cases hhead
      | cons d h =>
        obtain rfl : d = '<' := Option.some.inj hhead
        exact nameGroup_closes base reader h
    · have hplain := fun hP hhead => hname ⟨hP, hhead⟩
      rw [questionGroup_flags _ hc hc' hopen hplain,
        questionGroup_flags _ hc hc' hopen fun hP hhead => hplain hP (hangle.2 hhead)]
      exact flagGroup_closes base reader (.cons c h)

/-- A group is a question mark and what follows it, or has nothing to say. -/
theorem openGroup_question (reader : Reader) {rest : Text}
    (ht : skip reader.verbose text = '?' :: rest) :
    reader.openGroup text = reader.questionGroup rest := by
  rw [openGroup, ht]
  rfl

/-- A plain group. -/
theorem openGroup_plain (reader : Reader) (ht : (skip reader.verbose text).head? ≠ some '?') :
    reader.openGroup text =
      some (reader.enter reader.group.flags, skip reader.verbose text) := by
  rw [openGroup]
  split
  · next heq => exact absurd (congrArg List.head? heq) ht
  · rfl

/-- An opening parenthesis. -/
theorem openGroup_closes (base : OpenGroup) (reader : Reader) (h : Closes text text') :
    Tracks (SameReader base) Dead (reader.openGroup text)
      ((reader.within base).openGroup text') := by
  have hskip := h.skip reader.verbose
  have hquestion := hskip.head?_iff (show '?' ≠ ')' by decide)
  by_cases hmarked : (skip reader.verbose text).head? = some '?'
  · rcases h.skip_cases reader.verbose with ⟨ht, _⟩ | ⟨ht, _⟩ |
      ⟨c, rest, rest', ht, ht', hrest, _, _⟩
    · simp [ht] at hmarked
    · simp [ht] at hmarked
    · obtain rfl : c = '?' := by simpa [ht] using hmarked
      rw [openGroup_question reader ht, openGroup_question (reader.within base) ht']
      exact questionGroup_closes base reader hrest
  · rw [openGroup_plain _ hmarked, openGroup_plain (reader.within base) (mt hquestion.2 hmarked)]
    exact .read ⟨rfl, hskip⟩

/-- A closing parenthesis closes the same group, if the text has opened one. -/
theorem closeGroup_within (h : reader.outer ≠ []) :
    (reader.within base).closeGroup = reader.closeGroup.map (within base) := by
  obtain ⟨property?, group, outer, names⟩ := reader
  cases outer with
  | nil => exact absurd rfl h
  | cons parent outer => rfl

/-- A repetition. -/
theorem repeatPart_closes (base : OpenGroup) (reader : Reader) (least : Nat) (most : Option Nat)
    (h : Closes text text') :
    Tracks (SameReader base) Dead (reader.repeatPart least most text)
      ((reader.within base).repeatPart least most text') := by
  have hplain : ∀ {t t' : Text}, Closes t t' → ∀ lazyMark,
      Tracks (SameReader base) Dead
        ((reader.group.repeatLast? least most lazyMark).map fun group => ({ reader with group }, t))
        ((reader.group.repeatLast? least most lazyMark).map fun group =>
          ({ reader.within base with group }, t')) := by
    intro t t' ht lazyMark
    cases reader.group.repeatLast? least most lazyMark with
    | none => exact .refused
    | some group => exact .read ⟨rfl, ht⟩
  unfold repeatPart
  split
  · cases h with
    | cons _ h => exact hplain h true
  · next hno =>
    split
    · cases h with
      | cons _ h => exact absurd rfl (hno _)
    · exact hplain h false

/-- A piece. The group around everything is seen only by a parenthesis that closes no group of the
text. -/
theorem step_closes (base : OpenGroup) (reader : Reader) (c : Char) (h : Closes text text')
    (hc : c = ')' → reader.outer ≠ []) :
    Tracks (SameReader base) Dead (reader.step c text) ((reader.within base).step c text') := by
  unfold step
  split
  · exact openGroup_closes base reader h
  · rw [closeGroup_within (hc rfl), Option.map_map]
    cases reader.closeGroup with
    | none => exact .refused
    | some closed => exact .read ⟨rfl, h⟩
  · exact .read ⟨rfl, h⟩
  · refine (readClass_closes reader.mode h).map ?_ fun _ => False.elim
    rintro ⟨members, levels, rest⟩ ⟨_, _, rest'⟩ ⟨rfl, rfl, hrest⟩
    exact ⟨rfl, hrest⟩
  · exact repeatPart_closes base reader 0 (some 1) h
  · exact repeatPart_closes base reader 0 none h
  · exact repeatPart_closes base reader 1 none h
  · refine (readCount_closes reader.verbose h).bind ?_ fun _ => False.elim
    rintro ⟨⟨least, most⟩, rest⟩ ⟨_, rest'⟩ ⟨rfl, hrest⟩
    exact repeatPart_closes base reader least most (hrest.skip reader.verbose)
  · refine (readEscape_closes reader.mode h).map ?_ ?_
    · rintro ⟨atom, rest⟩ ⟨_, rest'⟩ ⟨rfl, hrest⟩
      exact ⟨rfl, hrest⟩
    · rintro ⟨atom, rest⟩ hdead
      refine ⟨outer_within_ne_nil base reader, ?_⟩
      rcases hdead with hend | ⟨_, hbrace⟩
      · exact .inl hend
      · exact .inr hbrace
  · change Tracks _ _ (reader.group.flags.dot?.map _) (reader.group.flags.dot?.map _)
    cases reader.group.flags.dot? with
    | none => exact .refused
    | some members => exact .read ⟨rfl, h⟩
  · exact .read ⟨rfl, h⟩
  · exact .read ⟨rfl, h⟩
  · exact .read ⟨rfl, h⟩

/-- A reader inside an open group gives no expression at the end of the text. -/
theorem readAll_nil (fuel : Nat) (h : reader.outer ≠ []) : readAll fuel reader [] = none := by
  cases fuel with
  | zero => rfl
  | succ fuel =>
    have hopen : reader.outer.isEmpty = false := by simp [h]
    simp only [readAll, skip_nil, finish, hopen, Bool.false_eq_true, false_and, if_false]

/-- A dead reader gives no expression. -/
theorem readAll_dead (fuel : Nat) {found : Reader × Text} (h : Dead found) :
    readAll fuel found.1 found.2 = none := by
  obtain ⟨reader, text⟩ := found
  obtain ⟨hopen, hend | ⟨rest, hbrace, hrest⟩⟩ := h
  · dsimp only at hopen hend ⊢
    rw [hend]
    exact readAll_nil fuel hopen
  · dsimp only at hbrace hrest ⊢
    cases fuel with
    | zero => rfl
    | succ fuel =>
      have hstep : reader.step '\x7b' rest = none := by
        change (readCount reader.verbose rest).bind _ = none
        rw [readCount_mark hrest]
        rfl
      simp only [readAll, hbrace, skip_brace, hstep, Option.bind_none]

end Reader

end ParserCombinators.Regex
