import ParserCombinators.Proofs.Regex.Consumption
import ParserCombinators.Regex.Engine

/-!
# The group of a pattern

The text of a pattern is read inside a group behind an anchor. A text that is an expression by
itself gives the same expression there, unless its last comment takes the parenthesis or the group
breaks a limit. A text that is accepted is an expression by itself, or it closes the group of the
pattern.
-/

namespace ParserCombinators.Regex

namespace Reader

variable {n fuel : Nat} {reader final : Reader} {text tail : Text} {e : Written}
  {base : OpenGroup}

/-- A number of pieces leads from one reader to another, with the rest of the text. -/
inductive Reads : Nat → Reader → Text → Reader → Text → Prop
  | stop (reader : Reader) (text : Text) : Reads 0 reader text reader text
  | piece {n : Nat} {reader next final : Reader} {c : Char} {text rest after tail : Text} :
    skip reader.verbose text = c :: rest → reader.step c rest = some (next, after) →
    Reads n next after final tail → Reads (n + 1) reader text final tail

/-- Every piece takes a character, so no more pieces are read than there are characters. -/
theorem Reads.le_length (h : Reads n reader text final tail) : n + tail.length ≤ text.length := by
  induction h with
  | stop reader text => exact Nat.le_of_eq (Nat.zero_add _)
  | @piece n reader next final c text rest after tail hskip hstep _ ih =>
    have htext := length_skip_le reader.verbose text
    have hafter : after.length ≤ rest.length :=
      step_leaves reader c (Nat.le_refl rest.length) _ hstep
    rw [hskip, List.length_cons] at htext
    omega

/-- What is read after some pieces. -/
theorem Reads.readAll (h : Reads n reader text final tail) (fuel : Nat) :
    readAll (n + fuel) reader text = readAll fuel final tail := by
  induction h with
  | stop reader text => rw [Nat.zero_add]
  | @piece n reader next final c text rest after tail hskip hstep _ ih =>
    rw [Nat.succ_add, Reader.readAll, hskip]
    simp only [hstep, Option.bind_some, ih]

/-- An expression is read by some pieces up to the end of the text. -/
theorem exists_reads (h : readAll fuel reader text = some e) :
    ∃ n final tail, n < fuel ∧ Reads n reader text final tail ∧ skip final.verbose tail = [] ∧
      final.finish = some e := by
  induction fuel generalizing reader text with
  | zero => cases h
  | succ fuel ih =>
    rw [Reader.readAll] at h
    split at h
    · next hskip => exact ⟨0, reader, text, Nat.succ_pos fuel, .stop reader text, hskip, h⟩
    · next hskip =>
      obtain ⟨⟨next, after⟩, hstep, hrest⟩ := Option.bind_eq_some_iff.1 h
      obtain ⟨n, final, tail, hn, hreads, hend, hfinish⟩ := ih hrest
      exact ⟨n + 1, final, tail, Nat.succ_lt_succ hn, .piece hskip hstep hreads, hend, hfinish⟩

/-- The same pieces are read inside a group. -/
theorem Reads.within (h : Reads n reader text final tail) {text' : Text}
    (hclose : Closes text text') :
    ∃ tail', Reads n (reader.within base) text' (final.within base) tail' ∧ Closes tail tail' := by
  induction h generalizing text' with
  | stop reader text => exact ⟨text', .stop _ _, hclose⟩
  | @piece n reader next final c text rest after tail hskip hstep _ ih =>
    rcases hclose.skip_cases reader.verbose with ⟨ht, _⟩ | ⟨ht, _⟩ |
      ⟨d, more, more', ht, ht', hmore, _, _⟩
    · rw [ht] at hskip
      cases hskip
    · rw [ht] at hskip
      cases hskip
    · rw [ht] at hskip
      cases hskip
      have hopen : c = ')' → reader.outer ≠ [] := by
        rintro rfl houter
        have hnone : reader.closeGroup = none := by simp only [closeGroup, houter]
        change reader.closeGroup.map _ = _ at hstep
        rw [hnone] at hstep
        cases hstep
      have htracks := step_closes base reader c hmore hopen
      rw [hstep] at htracks
      generalize hstep' : (reader.within base).step c more' = found' at htracks
      cases htracks with
      | @read _ found' hsame =>
        obtain ⟨next', after'⟩ := found'
        obtain ⟨rfl, hafter⟩ := hsame
        obtain ⟨tail', hreads, htail⟩ := ih hafter
        exact ⟨tail', .piece ht' hstep' hreads, htail⟩

/-- Inside a group, closing a group of the text leads to an open group again. -/
theorem outer_of_close {next : Reader} {rest after : Text} (hopen : reader.outer ≠ [])
    (h : (reader.within base).step ')' rest = some (next, after)) :
    after = rest ∧ next.outer ≠ [] := by
  change (reader.within base).closeGroup.map _ = _ at h
  obtain ⟨closed, hclosed, heq⟩ := Option.map_eq_some_iff.1 h
  rw [closeGroup_within hopen] at hclosed
  obtain ⟨inner, _, rfl⟩ := Option.map_eq_some_iff.1 hclosed
  cases heq
  exact ⟨rfl, outer_within_ne_nil base inner⟩

/-- If an expression is read inside a group with a parenthesis behind the text, then pieces of the
text are read until no group of the text is open, in front of a parenthesis of the text or at its
end. At the end the parenthesis behind the text is read. -/
theorem reads_of_within {text' : Text} (hclose : Closes text text')
    (h : readAll fuel (reader.within base) text' = some e) :
    ∃ n final tail, Reads n reader text final tail ∧ final.outer = [] ∧
      ((∃ rest, skip final.verbose tail = ')' :: rest) ∨
        skip final.verbose tail = [] ∧ ∃ fuel tail', skip final.verbose tail' = [')'] ∧
          readAll (fuel + 1) (final.within base) tail' = some e) := by
  induction fuel generalizing reader text text' with
  | zero => cases h
  | succ fuel ih =>
    have hall := h
    rw [Reader.readAll, within_verbose] at h
    rcases hclose.skip_cases reader.verbose with ⟨ht, ht'⟩ | ⟨ht, ht'⟩ |
      ⟨c, rest, rest', ht, ht', hrest, _, _⟩
    · have hopen : (reader.within base).outer.isEmpty = false := by
        simp [outer_within_ne_nil base reader]
      rw [ht'] at h
      simp only [finish, hopen, Bool.false_eq_true, false_and, if_false] at h
      cases h
    · by_cases houter : reader.outer = []
      · exact ⟨0, reader, text, .stop reader text, houter, .inr ⟨ht, fuel, text', ht', hall⟩⟩
      · obtain ⟨⟨next, after⟩, hstep, hread⟩ := Option.bind_eq_some_iff.1 (ht' ▸ h)
        obtain ⟨hafter, hnext⟩ := outer_of_close houter hstep
        dsimp only at hread
        rw [hafter, readAll_nil fuel hnext] at hread
        cases hread
    · by_cases hc : c = ')' ∧ reader.outer = []
      · exact ⟨0, reader, text, .stop reader text, hc.2, .inl ⟨rest, by rw [ht, hc.1]⟩⟩
      · rw [ht'] at h
        obtain ⟨found', hstep', hread⟩ := Option.bind_eq_some_iff.1 h
        have htracks := step_closes base reader c hrest fun heq houter => hc ⟨heq, houter⟩
        rw [hstep'] at htracks
        generalize hstep : reader.step c rest = found at htracks
        cases htracks with
        | @read found _ hsame =>
          obtain ⟨next, after⟩ := found
          obtain ⟨next', after'⟩ := found'
          obtain ⟨rfl, hafter⟩ := hsame
          obtain ⟨n, final, tail, hreads, hfinal⟩ := ih hafter hread
          exact ⟨n + 1, final, tail, .piece ht hstep hreads, hfinal⟩
        | stuck hdead =>
          dsimp only at hread
          rw [readAll_dead fuel hdead] at hread
          cases hread

end Reader

section Patterns

variable {text tail : Text} {e : Written} {final : Reader} {n : Nat}

/-- The group around the group of a pattern. It holds the anchor. -/
def anchorGroup : OpenGroup :=
  ({} : OpenGroup).push (.look .start) 0

/-- The group of the anchor with the group of a pattern in it. -/
theorem close_anchorGroup (e : Written) (levels : Nat) :
    (anchorGroup.push e levels).close = .seq (.look .start) e := rfl

/-- The group of a pattern and the row of it and the anchor are two levels around its text. -/
theorem alternatives_anchorGroup (e : Written) (levels : Nat) :
    (anchorGroup.push e levels).nesting.alternatives = levels + 1 := by
  change max (max 0 0) levels + 1 = levels + 1
  omega

/-- The group of a pattern is closed behind its text: the expression is the anchor and the group. -/
theorem Reader.readAll_close (h : final.outer = []) (htail : skip final.verbose tail = [')'])
    (fuel : Nat) : readAll (fuel + 2) (final.within anchorGroup) tail =
      if final.group.nesting.alternatives + 2 ≤ Nesting.limit then
        some (.seq (.look .start) final.group.close)
      else none := by
  obtain ⟨property?, group, outer, names⟩ := final
  obtain rfl : outer = [] := h
  have hclose : (Reader.within anchorGroup ⟨property?, group, [], names⟩).step ')' [] =
      some (⟨property?, anchorGroup.push group.close (group.nesting.alternatives + 1), [], names⟩,
        []) := rfl
  rw [readAll, within_verbose, htail]
  simp only [hclose, Option.bind_some, readAll, skip_nil, finish, close_anchorGroup,
    alternatives_anchorGroup, List.isEmpty_nil, true_and, Nat.add_assoc]

namespace Engine

open Reader

variable {engine : Engine}

/-- The text of a pattern is read inside the group behind the anchor. -/
theorem read?_pattern (engine : Engine) (text : Text) :
    engine.read? ("^(?:".toList ++ text ++ [')']) =
      readAll (text.length + 4) (engine.reader.within anchorGroup) (text ++ [')']) := by
  have hlength : ("^(?:".toList ++ text ++ [')']).length = text.length + 5 := by
    simp
  rw [read?, hlength]
  rfl

/-- The text is read inside the group of a pattern up to the given reader, which is inside no group
of the text. The rest of the text is what is left for the closing of the group. -/
def ReadInGroup (engine : Engine) (text : Text) (final : Reader) (tail : Text) : Prop :=
  final.outer = [] ∧ ∃ n, Reads n (engine.reader.within anchorGroup) (text ++ [')'])
    (final.within anchorGroup) tail

/-- A text that is an expression by itself is the same expression behind the anchor, unless a
comment at its end takes the parenthesis of the group, the group is nested too deeply, or the
expression behind the anchor is too large. -/
theorem readPattern?_of_read? (h : engine.read? text = some e) :
    ∃ final tail, engine.ReadInGroup text final tail ∧ final.group.close = e ∧
      (skip final.verbose tail = [] ∨ skip final.verbose tail = [')']) ∧
      engine.readPattern? text =
        if skip final.verbose tail = [')'] ∧ final.group.nesting.alternatives + 2 ≤ Nesting.limit ∧
            engine.fits (.seq (.look .start) e)
          then some (.seq (.look .start) e) else none := by
  obtain ⟨n, final, tail, hn, hreads, hend, hfinish⟩ := exists_reads h
  obtain ⟨⟨houter, _⟩, hclose⟩ := Option.ite_none_right_eq_some.1 hfinish
  obtain rfl : final.group.close = e := Option.some.inj hclose
  obtain ⟨tail', hreads', htail⟩ := hreads.within (Closes.append_mark text)
  have hread : engine.read? ("^(?:".toList ++ text ++ [')']) =
      readAll (text.length + 4 - n) (final.within anchorGroup) tail' := by
    rw [read?_pattern, ← hreads'.readAll, Nat.add_sub_of_le (by omega)]
  refine ⟨final, tail', ⟨List.isEmpty_iff.1 houter, n, hreads'⟩, rfl, ?_⟩
  obtain ⟨fuel, hfuel⟩ : ∃ m, text.length + 4 - n = m + 2 := ⟨text.length + 2 - n, by omega⟩
  rw [readPattern?, hread, hfuel]
  rcases htail.skip_cases final.verbose with ⟨_, ht'⟩ | ⟨_, ht'⟩ | ⟨c, rest, _, ht, _⟩
  · have hopen : (final.within anchorGroup).outer.isEmpty = false := by
      simp [outer_within_ne_nil anchorGroup final]
    refine ⟨.inl ht', ?_⟩
    rw [if_neg (by simp [ht']), readAll, within_verbose, ht']
    simp only [finish, hopen, Bool.false_eq_true, false_and, if_false, Option.filter_none]
  · refine ⟨.inr ht', ?_⟩
    rw [readAll_close (List.isEmpty_iff.1 houter) ht']
    simp only [ht', true_and]
    split_ifs <;> simp_all
  · rw [hend] at ht
    cases ht

/-- A text that is an expression by itself and a pattern is the expression behind the anchor. -/
theorem readPattern?_eq_seq {e' : Written} (h : engine.read? text = some e)
    (h' : engine.readPattern? text = some e') : e' = .seq (.look .start) e := by
  obtain ⟨final, tail, _, _, _, hpattern⟩ := readPattern?_of_read? h
  rw [hpattern] at h'
  obtain ⟨_, heq⟩ := Option.ite_none_right_eq_some.1 h'
  exact (Option.some.inj heq).symm

/-- What is read after some pieces of a text that was begun without any group. -/
theorem read?_of_reads (h : Reads n engine.reader text final tail) :
    ∃ fuel, engine.read? text = readAll (fuel + 1) final tail := by
  have hle := h.le_length
  obtain ⟨fuel, hfuel⟩ : ∃ m, text.length.succ = n + (m + 1) := ⟨text.length - n, by omega⟩
  exact ⟨fuel, by rw [read?, hfuel, h.readAll]⟩

/-- A parenthesis of the text closes no group of it. -/
def ClosesNoGroup (engine : Engine) (text : Text) : Prop :=
  ∃ n final tail rest, Reads n engine.reader text final tail ∧ final.outer = [] ∧
    skip final.verbose tail = ')' :: rest

/-- A text with a parenthesis that closes no group is no expression. -/
theorem ClosesNoGroup.read? (h : engine.ClosesNoGroup text) : engine.read? text = none := by
  obtain ⟨n, final, tail, rest, hreads, houter, htail⟩ := h
  obtain ⟨fuel, hread⟩ := read?_of_reads hreads
  have hclose : final.closeGroup = none := by simp only [closeGroup, houter]
  have hstep : final.step ')' rest = none := by
    change final.closeGroup.map _ = none
    rw [hclose, Option.map_none]
  rw [hread, readAll, htail]
  simp only [hstep, Option.bind_none]

/-- A pattern is an expression by itself, or a parenthesis of it closes the group of the pattern. -/
theorem read?_of_readPattern? {e' : Written} (h : engine.readPattern? text = some e') :
    (∃ e, engine.read? text = some e) ∨ engine.ClosesNoGroup text := by
  have hpattern := (Option.filter_eq_some_iff.1 h).1
  rw [read?_pattern] at hpattern
  obtain ⟨n, final, tail, hreads, houter, hstray | ⟨hend, fuel, tail', htail', hread⟩⟩ :=
    reads_of_within (Closes.append_mark text) hpattern
  · obtain ⟨rest, htail⟩ := hstray
    exact .inr ⟨n, final, tail, rest, hreads, houter, htail⟩
  refine .inl ⟨final.group.close, ?_⟩
  cases fuel with
  | zero =>
    rw [readAll, within_verbose, htail'] at hread
    obtain ⟨_, _, hnone⟩ := Option.bind_eq_some_iff.1 hread
    cases hnone
  | succ fuel =>
    rw [readAll_close houter htail'] at hread
    obtain ⟨hnesting, _⟩ := Option.ite_none_right_eq_some.1 hread
    obtain ⟨fuel, hread'⟩ := read?_of_reads hreads
    have hopen : final.outer.isEmpty = true := List.isEmpty_iff.2 houter
    rw [hread', readAll, hend]
    exact if_pos ⟨hopen, by omega⟩

/-- A pattern is no expression by itself exactly if a parenthesis of it closes the group of the
pattern. -/
theorem read?_eq_none_iff {e' : Written} (h : engine.readPattern? text = some e') :
    engine.read? text = none ↔ engine.ClosesNoGroup text := by
  refine ⟨fun hnone => ?_, ClosesNoGroup.read?⟩
  obtain ⟨e, he⟩ | hstray := read?_of_readPattern? h
  · rw [hnone] at he
    cases he
  · exact hstray

end Engine

end Patterns

end ParserCombinators.Regex
