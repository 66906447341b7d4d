import ParserCombinators.Proofs.Regex.Backtracking

/-!
# What an expression matches

An expression matches a text between the character before it and the text behind it. A search with
backtracking meets exactly the texts that an expression matches.

A search makes each choice once at a place, while a repetition may have any number of rounds, so
also rounds that read nothing. Where a choice is made again without reading, everything up to there
can be left out: the choice has one thread that makes it, so the way from there on is a way from the
first time on.
-/

namespace ParserCombinators.Regex

variable {ι : Type}

/-- The character before what follows a matched text. -/
def lastOf (before : Option Char) (matched : Text) : Option Char :=
  matched.getLast?.or before

/-- The expression matches the first text between the character before it and the text behind it. -/
inductive Matches : Regex ι → Option Char → Text → Text → Prop
  | empty {before behind} : Matches empty before [] behind
  | set {members before c behind} : members.mem c = true → Matches (set members) before [c] behind
  | look {condition before behind} : condition.holds before behind.head? = true →
    Matches (look condition) before [] behind
  | seq {first second before left right behind} : Matches first before left (right ++ behind) →
    Matches second (lastOf before left) right behind →
    Matches (seq first second) before (left ++ right) behind
  | first {mark first second before matched behind} : Matches first before matched behind →
    Matches (alt mark first second) before matched behind
  | second {mark first second before matched behind} : Matches second before matched behind →
    Matches (alt mark first second) before matched behind
  | plus {mark body greedy before left right behind} : Matches body before left (right ++ behind) →
    Matches (loop mark body greedy) (lastOf before left) right behind →
    Matches (plus mark body greedy) before (left ++ right) behind
  | stop {mark body greedy before behind} : Matches (loop mark body greedy) before [] behind
  | again {mark body greedy before left right behind} : Matches body before left (right ++ behind) →
    Matches (loop mark body greedy) (lastOf before left) right behind →
    Matches (loop mark body greedy) before (left ++ right) behind

section Numbering

/-- The expression without its marks. -/
def unmark : Regex ι → Regex Unit
  | empty => empty
  | set members => set members
  | look condition => look condition
  | seq first second => seq first.unmark second.unmark
  | alt _ first second => alt () first.unmark second.unmark
  | plus _ body greedy => plus () body.unmark greedy
  | loop _ body greedy => loop () body.unmark greedy

/-- Numbering the choices changes nothing else. -/
theorem unmark_number (r : Regex Unit) (n : Nat) : (r.number n).1.unmark = r := by
  induction r generalizing n with
  | empty => rfl
  | set _ => rfl
  | look _ => rfl
  | seq first second ihFirst ihSecond => simp [number, unmark, ihFirst, ihSecond]
  | alt _ first second ihFirst ihSecond => simp [number, unmark, ihFirst, ihSecond]
  | plus _ body _ ih => simp [number, unmark, ih]
  | loop _ body _ ih => simp [number, unmark, ih]

/-- The marks do not matter for what is matched. -/
theorem Matches.unmark {r : Regex ι} {before : Option Char} {matched behind : Text}
    (h : Matches r before matched behind) : Matches r.unmark before matched behind := by
  induction h with
  | empty => exact .empty
  | set hmem => exact .set hmem
  | look hholds => exact .look hholds
  | seq _ _ ihLeft ihRight => exact .seq ihLeft ihRight
  | first _ ih => exact .first ih
  | second _ ih => exact .second ih
  | plus _ _ ihLeft ihRight => exact .plus ihLeft ihRight
  | stop => exact .stop
  | again _ _ ihLeft ihRight => exact .again ihLeft ihRight

/-- Marks may be put on what is matched. -/
theorem Matches.mark {r : Regex Unit} {before : Option Char} {matched behind : Text}
    (h : Matches r before matched behind) {marked : Regex ι} (hr : marked.unmark = r) :
    Matches marked before matched behind := by
  induction h generalizing marked with
  | empty =>
    cases marked <;> cases hr
    exact .empty
  | set hmem =>
    cases marked <;> cases hr
    exact .set hmem
  | look hholds =>
    cases marked <;> cases hr
    exact .look hholds
  | seq _ _ ihLeft ihRight =>
    cases marked <;> cases hr
    exact .seq (ihLeft rfl) (ihRight rfl)
  | first _ ih =>
    cases marked <;> cases hr
    exact .first (ih rfl)
  | second _ ih =>
    cases marked <;> cases hr
    exact .second (ih rfl)
  | plus _ _ ihLeft ihRight =>
    cases marked <;> cases hr
    exact .plus (ihLeft rfl) (ihRight rfl)
  | stop =>
    cases marked <;> cases hr
    exact .stop
  | again _ _ ihLeft ihRight =>
    cases marked <;> cases hr
    exact .again (ihLeft rfl) (ihRight rfl)

end Numbering

section Soundness

/-- The expressions of the thread match the first text one after another. -/
inductive MatchesAll : Thread → Option Char → Text → Text → Prop
  | nil {before behind} : MatchesAll [] before [] behind
  | cons {r rest before left right behind} : Matches r before left (right ++ behind) →
    MatchesAll rest (lastOf before left) right behind →
    MatchesAll (r :: rest) before (left ++ right) behind

variable {choices unmade : List Nat} {before : Option Char} {thread : Thread}
  {text matched behind : Text}

theorem lastOf_append (before : Option Char) (left right : Text) :
    lastOf before (left ++ right) = lastOf (lastOf before left) right := by
  rw [lastOf, lastOf, lastOf, List.getLast?_append, Option.or_assoc]

/-- An expression may stand for the two that it consists of. -/
theorem MatchesAll.join {first second whole : Regex Nat} {rest : Thread}
    (hwhole : ∀ {left right behind : Text}, Matches first before left (right ++ behind) →
      Matches second (lastOf before left) right behind →
      Matches whole before (left ++ right) behind)
    (h : MatchesAll (first :: second :: rest) before matched behind) :
    MatchesAll (whole :: rest) before matched behind := by
  cases h with
  | @cons _ _ _ left _ _ hfirst hmore =>
    cases hmore with
    | @cons _ _ _ middle right _ hsecond hrest =>
      rw [List.append_assoc] at hfirst
      rw [← List.append_assoc]
      refine .cons (hwhole hfirst hsecond) ?_
      rwa [lastOf_append]

/-- An expression may stand for one that matches no more than it does. -/
theorem MatchesAll.imp {first whole : Regex Nat} {rest : Thread}
    (hwhole : ∀ {left behind : Text}, Matches first before left behind →
      Matches whole before left behind)
    (h : MatchesAll (first :: rest) before matched behind) :
    MatchesAll (whole :: rest) before matched behind := by
  cases h with
  | cons hfirst hrest => exact .cons (hwhole hfirst) hrest

/-- What a search meets begins the text and is matched. -/
theorem matchesAll_of_mem_backtrack (h : matched ∈ backtrack choices unmade before thread text) :
    ∃ behind, text = matched ++ behind ∧ MatchesAll thread before matched behind := by
  fun_induction backtrack choices unmade before thread text generalizing matched with
  | case1 _ _ text =>
    obtain rfl := List.mem_singleton.1 h
    exact ⟨text, rfl, .nil⟩
  | case2 unmade before rest text ih =>
    obtain ⟨behind, rfl, hrest⟩ := ih h
    exact ⟨behind, rfl, .cons .empty hrest⟩
  | case3 => cases h
  | case4 unmade before members rest c text hmem ih =>
    obtain ⟨left, hleft, rfl⟩ := List.mem_map.1 h
    obtain ⟨behind, rfl, hrest⟩ := ih hleft
    exact ⟨behind, rfl, .cons (.set hmem) hrest⟩
  | case5 => cases h
  | case6 unmade before condition rest text hholds ih =>
    obtain ⟨behind, rfl, hrest⟩ := ih h
    exact ⟨behind, rfl, .cons (.look hholds) hrest⟩
  | case7 => cases h
  | case8 unmade before first second rest text ih =>
    obtain ⟨behind, rfl, hall⟩ := ih h
    exact ⟨behind, rfl, hall.join .seq⟩
  | case9 unmade before mark first second rest text _ ihFirst ihSecond =>
    rcases List.mem_append.1 h with hfirst | hsecond
    · obtain ⟨behind, rfl, hall⟩ := ihFirst hfirst
      exact ⟨behind, rfl, hall.imp .first⟩
    · obtain ⟨behind, rfl, hall⟩ := ihSecond hsecond
      exact ⟨behind, rfl, hall.imp .second⟩
  | case10 => cases h
  | case11 unmade before mark body greedy rest text ih =>
    obtain ⟨behind, rfl, hall⟩ := ih h
    exact ⟨behind, rfl, hall.join .plus⟩
  | case12 unmade before mark body rest text _ ihAgain ihStop =>
    rcases List.mem_append.1 h with hagain | hstop
    · obtain ⟨behind, rfl, hall⟩ := ihAgain hagain
      exact ⟨behind, rfl, hall.join .again⟩
    · obtain ⟨behind, rfl, hall⟩ := ihStop hstop
      exact ⟨behind, rfl, .cons .stop hall⟩
  | case13 unmade before mark body greedy rest text _ _ ihStop ihAgain =>
    rcases List.mem_append.1 h with hstop | hagain
    · obtain ⟨behind, rfl, hall⟩ := ihStop hstop
      exact ⟨behind, rfl, .cons .stop hall⟩
    · obtain ⟨behind, rfl, hall⟩ := ihAgain hagain
      exact ⟨behind, rfl, hall.join .again⟩
  | case14 => cases h

end Soundness

section Completeness

/-- A run of a thread reads the first text. The marks are those of the choices that it makes before
it reads a character. -/
inductive Runs : Thread → Option Char → List Nat → Text → Text → Prop
  | done {before behind} : Runs [] before [] [] behind
  | empty {rest before marks matched behind} : Runs rest before marks matched behind →
    Runs (empty :: rest) before marks matched behind
  | set {members rest before marks c matched behind} : members.mem c = true →
    Runs rest (some c) marks matched behind →
    Runs (set members :: rest) before [] (c :: matched) behind
  | look {condition rest before marks matched behind} :
    condition.holds before (matched ++ behind).head? = true →
    Runs rest before marks matched behind →
    Runs (look condition :: rest) before marks matched behind
  | seq {first second rest before marks matched behind} :
    Runs (first :: second :: rest) before marks matched behind →
    Runs (seq first second :: rest) before marks matched behind
  | first {mark first second rest before marks matched behind} :
    Runs (first :: rest) before marks matched behind →
    Runs (alt mark first second :: rest) before (mark :: marks) matched behind
  | second {mark first second rest before marks matched behind} :
    Runs (second :: rest) before marks matched behind →
    Runs (alt mark first second :: rest) before (mark :: marks) matched behind
  | plus {mark body greedy rest before marks matched behind} :
    Runs (body :: loop mark body greedy :: rest) before marks matched behind →
    Runs (plus mark body greedy :: rest) before marks matched behind
  | stop {mark body greedy rest before marks matched behind} :
    Runs rest before marks matched behind →
    Runs (loop mark body greedy :: rest) before (mark :: marks) matched behind
  | again {mark body greedy rest before marks matched behind} :
    Runs (body :: loop mark body greedy :: rest) before marks matched behind →
    Runs (loop mark body greedy :: rest) before (mark :: marks) matched behind

variable {choices unmade marks : List Nat} {before : Option Char} {thread : Thread}
  {text matched behind : Text} {owner : Nat → Thread} {mark : Nat}

/-- Two expressions that match one after the other are run through one after the other. -/
theorem Runs.before_both {first second : Regex Nat} {rest : Thread} {left middle right : Text}
    (hfirst : ∀ {next : Thread} {after : Text}, middle ++ right ++ behind = after ++ behind →
      (∃ marks, Runs next (lastOf before left) marks after behind) →
      ∃ marks, Runs (first :: next) before marks (left ++ after) behind)
    (hsecond : (∃ marks, Runs rest (lastOf (lastOf before left) middle) marks right behind) →
      ∃ marks, Runs (second :: rest) (lastOf before left) marks (middle ++ right) behind)
    (hrest : ∃ marks, Runs rest (lastOf before (left ++ middle)) marks right behind) :
    ∃ marks, Runs (first :: second :: rest) before marks (left ++ middle ++ right) behind := by
  rw [lastOf_append] at hrest
  rw [List.append_assoc]
  exact hfirst rfl (hsecond hrest)

/-- What is matched in front of what a thread runs through is run through together with it. -/
theorem Runs.of_matches {r : Regex Nat} {left right follow : Text} {rest : Thread}
    (h : Matches r before left follow) (hfollow : follow = right ++ behind)
    (hrest : ∃ marks, Runs rest (lastOf before left) marks right behind) :
    ∃ marks, Runs (r :: rest) before marks (left ++ right) behind := by
  induction h generalizing rest right with
  | empty =>
    obtain ⟨marks, hrun⟩ := hrest
    exact ⟨marks, .empty hrun⟩
  | set hmem =>
    obtain ⟨marks, hrun⟩ := hrest
    exact ⟨[], .set hmem hrun⟩
  | look hholds =>
    obtain ⟨marks, hrun⟩ := hrest
    exact ⟨marks, .look (hfollow ▸ hholds) hrun⟩
  | seq _ _ ihFirst ihSecond =>
    subst hfollow
    rw [← List.append_assoc] at ihFirst
    obtain ⟨marks, hrun⟩ := Runs.before_both ihFirst (ihSecond rfl) hrest
    exact ⟨marks, .seq hrun⟩
  | first _ ih =>
    obtain ⟨marks, hrun⟩ := ih hfollow hrest
    exact ⟨_, .first hrun⟩
  | second _ ih =>
    obtain ⟨marks, hrun⟩ := ih hfollow hrest
    exact ⟨_, .second hrun⟩
  | plus _ _ ihBody ihLoop =>
    subst hfollow
    rw [← List.append_assoc] at ihBody
    obtain ⟨marks, hrun⟩ := Runs.before_both ihBody (ihLoop rfl) hrest
    exact ⟨marks, .plus hrun⟩
  | stop =>
    obtain ⟨marks, hrun⟩ := hrest
    exact ⟨_, .stop hrun⟩
  | again _ _ ihBody ihLoop =>
    subst hfollow
    rw [← List.append_assoc] at ihBody
    obtain ⟨marks, hrun⟩ := Runs.before_both ihBody (ihLoop rfl) hrest
    exact ⟨_, .again hrun⟩

/-- Where a thread makes a choice and goes on, its owner makes the choice for the last time here or
later on. -/
theorem Runs.from_choice {made : Nat} (hthread : owner made = thread)
    (h : Runs thread before (made :: marks) matched behind)
    (hnext : mark ∈ marks → ∃ later, mark ∉ later ∧ later ⊆ marks ∧
      Runs (owner mark) before (mark :: later) matched behind) (hmark : mark ∈ made :: marks) :
    ∃ later, mark ∉ later ∧ later ⊆ made :: marks ∧
      Runs (owner mark) before (mark :: later) matched behind := by
  by_cases hlater : mark ∈ marks
  · obtain ⟨later, hnot, hsub, hrun⟩ := hnext hlater
    exact ⟨later, hnot, List.Subset.trans hsub (List.subset_cons_self made marks), hrun⟩
  · obtain rfl : mark = made := (List.mem_cons.1 hmark).resolve_right hlater
    exact ⟨marks, hlater, List.subset_cons_self mark marks, hthread ▸ h⟩

/-- A choice on a run is made by its owner. After the last time it is made, the run does not meet it
again before it reads a character. -/
theorem Runs.from_owner (h : Runs thread before marks matched behind)
    (howned : OwnedThread owner thread) (hmark : mark ∈ marks) :
    ∃ later, mark ∉ later ∧ later ⊆ marks ∧
      Runs (owner mark) before (mark :: later) matched behind := by
  induction h with
  | done => cases hmark
  | empty _ ih => exact ih howned.2 hmark
  | set => cases hmark
  | look _ _ ih => exact ih howned.2 hmark
  | seq _ ih => exact ih howned.seq hmark
  | first hrun ih =>
    obtain ⟨howner, hfirst, _⟩ := howned.alt
    exact Runs.from_choice howner (.first hrun) (ih hfirst) hmark
  | second hrun ih =>
    obtain ⟨howner, _, hsecond⟩ := howned.alt
    exact Runs.from_choice howner (.second hrun) (ih hsecond) hmark
  | plus _ ih => exact ih howned.plus hmark
  | stop hrun ih =>
    obtain ⟨howner, _, hstop⟩ := howned.loop
    exact Runs.from_choice howner (.stop hrun) (ih hstop) hmark
  | again hrun ih =>
    obtain ⟨howner, hagain, _⟩ := howned.loop
    exact Runs.from_choice howner (.again hrun) (ih hagain) hmark

/-- A run can make the choice of its thread for the last time before it makes any other. -/
theorem Runs.last_choice (h : Runs thread before marks matched behind)
    (howned : OwnedThread owner thread) (howner : owner mark = thread) (hmark : mark ∈ marks)
    (hunmade : marks ⊆ unmade) :
    ∃ later, later ⊆ unmade.erase mark ∧ Runs thread before (mark :: later) matched behind := by
  obtain ⟨later, hnot, hsub, hrun⟩ := h.from_owner howned hmark
  refine ⟨later, fun made hmade => ?_, howner ▸ hrun⟩
  have hne : made ≠ mark := ne_of_mem_of_not_mem hmade hnot
  exact (List.mem_erase_of_ne hne).2 (hunmade (hsub hmade))

/-- All choices on a run have an owner. -/
theorem Runs.marks_subset (h : Runs thread before marks matched behind)
    (howned : OwnedThread owner thread) (hchoices : ∀ mark, owner mark ≠ [] → mark ∈ choices) :
    marks ⊆ choices := by
  intro mark hmark
  obtain ⟨later, _, _, hrun⟩ := h.from_owner howned hmark
  refine hchoices mark fun hnil => ?_
  rw [hnil] at hrun
  cases hrun

/-- A run through an alternative makes its choice. -/
theorem Runs.alt_mem {first second : Regex Nat} {rest : Thread}
    (h : Runs (alt mark first second :: rest) before marks matched behind) : mark ∈ marks := by
  cases h with
  | first _ => exact List.mem_cons_self
  | second _ => exact List.mem_cons_self

/-- A run through a repetition makes its choice. -/
theorem Runs.loop_mem {body : Regex Nat} {greedy : Bool} {rest : Thread}
    (h : Runs (loop mark body greedy :: rest) before marks matched behind) : mark ∈ marks := by
  cases h with
  | stop _ => exact List.mem_cons_self
  | again _ => exact List.mem_cons_self

/-- A search meets everything that a thread runs through by choices that are left. -/
theorem Runs.mem_backtrack (h : Runs thread before marks matched behind)
    (howned : OwnedThread owner thread) (hchoices : ∀ mark, owner mark ≠ [] → mark ∈ choices)
    (hunmade : marks ⊆ unmade) :
    matched ∈ backtrack choices unmade before thread (matched ++ behind) := by
  generalize htext : matched ++ behind = text
  -- A run may make a choice again before it reads a character, when the search has used it up. So
  -- the search follows the run from the last time on that the choice is made.
  fun_induction backtrack choices unmade before thread text generalizing matched marks with
  | case1 =>
    cases h
    exact List.mem_singleton_self []
  | case2 unmade before rest text ih =>
    cases h with
    | empty hrun => exact ih hrun howned.2 hunmade htext
  | case3 =>
    cases h
    cases htext
  | case4 unmade before members rest c text hmem ih =>
    cases h with
    | set _ hrun =>
      obtain ⟨rfl, hrest⟩ := List.cons.inj htext
      exact List.mem_map_of_mem (ih hrun howned.2 (hrun.marks_subset howned.2 hchoices) hrest)
  | case5 unmade before members rest c text hmem =>
    cases h with
    | set hc =>
      cases htext
      exact absurd hc hmem
  | case6 unmade before condition rest text hholds ih =>
    cases h with
    | look _ hrun => exact ih hrun howned.2 hunmade htext
  | case7 unmade before condition rest text hholds =>
    cases h with
    | look hlook => exact absurd (htext ▸ hlook) hholds
  | case8 unmade before first second rest text ih =>
    cases h with
    | seq hrun => exact ih hrun howned.seq hunmade htext
  | case9 unmade before mark first second rest text _ ihFirst ihSecond =>
    obtain ⟨howner, hfirst, hsecond⟩ := howned.alt
    obtain ⟨later, hlater, hlast⟩ := h.last_choice howned howner h.alt_mem hunmade
    cases hlast with
    | first hrun => exact List.mem_append_left _ (ihFirst hrun hfirst hlater htext)
    | second hrun => exact List.mem_append_right _ (ihSecond hrun hsecond hlater htext)
  | case10 unmade before mark first second rest text hmade =>
    exact absurd (hunmade h.alt_mem) hmade
  | case11 unmade before mark body greedy rest text ih =>
    cases h with
    | plus hrun => exact ih hrun howned.plus hunmade htext
  | case12 unmade before mark body rest text _ ihAgain ihStop =>
    obtain ⟨howner, hagain, hstop⟩ := howned.loop
    obtain ⟨later, hlater, hlast⟩ := h.last_choice howned howner h.loop_mem hunmade
    cases hlast with
    | again hrun => exact List.mem_append_left _ (ihAgain hrun hagain hlater htext)
    | stop hrun => exact List.mem_append_right _ (ihStop hrun hstop hlater htext)
  | case13 unmade before mark body greedy rest text _ _ ihStop ihAgain =>
    obtain ⟨howner, hagain, hstop⟩ := howned.loop
    obtain ⟨later, hlater, hlast⟩ := h.last_choice howned howner h.loop_mem hunmade
    cases hlast with
    | again hrun => exact List.mem_append_right _ (ihAgain hrun hagain hlater htext)
    | stop hrun => exact List.mem_append_left _ (ihStop hrun hstop hlater htext)
  | case14 unmade before mark body greedy rest text hmade =>
    exact absurd (hunmade h.loop_mem) hmade

end Completeness

/-- A search meets exactly what the expression matches. -/
theorem mem_preferences {r : Regex Unit} {text matched : Text} :
    matched ∈ r.preferences text ↔
      ∃ behind, text = matched ++ behind ∧ Matches r none matched behind := by
  constructor
  · intro h
    obtain ⟨behind, htext, hall⟩ := matchesAll_of_mem_backtrack h
    cases hall with
    | cons hmatch hrest =>
      cases hrest
      rw [List.append_nil] at htext ⊢
      have hunmarked := hmatch.unmark
      rw [unmark_number] at hunmarked
      exact ⟨behind, htext, hunmarked⟩
  · rintro ⟨behind, rfl, hmatch⟩
    obtain ⟨owner, howned, hother⟩ := exists_owner r 0 [] fun _ => []
    have hchoices : ∀ mark, owner mark ≠ [] → mark ∈ List.range (r.number 0).2 := by
      intro mark hmark
      rw [List.mem_range]
      exact Nat.lt_of_not_le fun hle => hmark (hother mark (.inr hle))
    have hthread : OwnedThread owner [(r.number 0).1] := ⟨howned, trivial⟩
    have hend : ∃ marks, Runs [] (lastOf none matched) marks [] behind := ⟨[], .done⟩
    obtain ⟨marks, hrun⟩ := Runs.of_matches (hmatch.mark (unmark_number r 0)) rfl hend
    rw [List.append_nil] at hrun
    exact hrun.mem_backtrack hthread hchoices (hrun.marks_subset hthread hchoices)

/-- The expression matches at the beginning of the text. -/
def MatchesStart (e : Regex Unit) (text : Text) : Prop :=
  ∃ matched behind, text = matched ++ behind ∧ e.Matches none matched behind

/-- An expression matches at the beginning of a text if a search meets a match there. -/
theorem matchesStart_iff {e : Regex Unit} {text : Text} :
    e.MatchesStart text ↔ e.preferences text ≠ [] := by
  constructor
  · rintro ⟨matched, hmatch⟩ hnil
    have hmem := mem_preferences.2 hmatch
    rw [hnil] at hmem
    cases hmem
  · intro hne
    obtain ⟨matched, hmem⟩ := List.exists_mem_of_ne_nil _ hne
    exact ⟨matched, mem_preferences.1 hmem⟩

end ParserCombinators.Regex
