import Mathlib.Data.List.Basic
import ParserCombinators.Proofs.Regex.Named

/-!
# Matching as backtracking does

A search with backtracking tries the ways of an expression one after the other, the preferred one
first. Following all ways at once finds what such a search meets first.

The two differ where a choice is met again at the same place. A search forgets the choices of a way
that led to nothing; following all ways at once leaves out every choice that was made by an earlier
way. What is left out would have been tried by then: each choice has one thread that makes it, so it
is followed by the same ways whenever it is met.
-/

namespace ParserCombinators.Regex

/-- The matches of a thread at the beginning of a text, in the order in which a search with
backtracking meets them. On its way between two characters it makes each choice once. The first list
holds all choices, the second one those that were not made on the way to this place yet. -/
def backtrack (choices : List Nat) : List Nat → Option Char → Thread → Text → List Text
  | _, _, [], _ => [[]]
  | unmade, before, empty :: rest, text => backtrack choices unmade before rest text
  | _, _, set _ :: _, [] => []
  | _, _, set members :: rest, c :: text =>
    if members.mem c then (backtrack choices choices (some c) rest text).map (c :: ·) else []
  | unmade, before, look condition :: rest, text =>
    if condition.holds before text.head? then backtrack choices unmade before rest text else []
  | unmade, before, seq first second :: rest, text =>
    backtrack choices unmade before (first :: second :: rest) text
  | unmade, before, alt mark first second :: rest, text =>
    if mark ∈ unmade then
      backtrack choices (unmade.erase mark) before (first :: rest) text ++
        backtrack choices (unmade.erase mark) before (second :: rest) text
    else []
  | unmade, before, plus mark body greedy :: rest, text =>
    backtrack choices unmade before (body :: loop mark body greedy :: rest) text
  | unmade, before, loop mark body greedy :: rest, text =>
    if mark ∈ unmade then
      if greedy then
        backtrack choices (unmade.erase mark) before (body :: loop mark body greedy :: rest) text ++
          backtrack choices (unmade.erase mark) before rest text
      else
        backtrack choices (unmade.erase mark) before rest text ++
          backtrack choices (unmade.erase mark) before (body :: loop mark body greedy :: rest) text
    else []
termination_by unmade _ thread text => (text.length, unmade.length, threadSteps thread)
decreasing_by
  all_goals first
    | apply Prod.Lex.left
      exact Nat.lt_succ_self _
    | apply Prod.Lex.right
      apply Prod.Lex.left
      have := List.length_erase_of_mem ‹_›
      have := List.length_pos_of_mem ‹_›
      omega
    | apply Prod.Lex.right
      apply Prod.Lex.right
      simp only [threadSteps, steps]
      omega

/-- All matches of an expression at the beginning of a text, in order of preference. -/
def preferences (r : Regex Unit) (text : Text) : List Text :=
  let (r, n) := r.number 0
  backtrack (List.range n) (List.range n) none [r] text

section Owners

variable {choices unmade : List Nat} {before : Option Char} {thread : Thread} {text : Text}
  {owner other : Nat → Thread}

/-- The choices of the expression are made by their owners, with what is left behind it. -/
def Owned (owner : Nat → Thread) : Regex Nat → Thread → Prop
  | empty, _ => True
  | set _, _ => True
  | look _, _ => True
  | seq first second, rest => Owned owner first (second :: rest) ∧ Owned owner second rest
  | alt mark first second, rest => owner mark = alt mark first second :: rest ∧
    Owned owner first rest ∧ Owned owner second rest
  | plus mark body greedy, rest => owner mark = loop mark body greedy :: rest ∧
    Owned owner body (loop mark body greedy :: rest)
  | loop mark body greedy, rest => owner mark = loop mark body greedy :: rest ∧
    Owned owner body (loop mark body greedy :: rest)

/-- All choices of the thread are made by their owners. -/
def OwnedThread (owner : Nat → Thread) : Thread → Prop
  | [] => True
  | r :: rest => Owned owner r rest ∧ OwnedThread owner rest

section Steps

variable {mark : Nat} {first second body : Regex Nat} {greedy : Bool} {rest : Thread}

theorem OwnedThread.seq (h : OwnedThread owner (seq first second :: rest)) :
    OwnedThread owner (first :: second :: rest) :=
  ⟨h.1.1, h.1.2, h.2⟩

theorem OwnedThread.alt (h : OwnedThread owner (alt mark first second :: rest)) :
    owner mark = .alt mark first second :: rest ∧ OwnedThread owner (first :: rest) ∧
      OwnedThread owner (second :: rest) :=
  ⟨h.1.1, ⟨h.1.2.1, h.2⟩, h.1.2.2, h.2⟩

theorem OwnedThread.plus (h : OwnedThread owner (plus mark body greedy :: rest)) :
    OwnedThread owner (body :: .loop mark body greedy :: rest) :=
  ⟨h.1.2, h.1, h.2⟩

theorem OwnedThread.loop (h : OwnedThread owner (loop mark body greedy :: rest)) :
    owner mark = .loop mark body greedy :: rest ∧
      OwnedThread owner (body :: .loop mark body greedy :: rest) ∧ OwnedThread owner rest :=
  ⟨h.1.1, ⟨h.1.2, h⟩, h.2⟩

end Steps

/-- Numbers are used up, never given back. -/
theorem le_number (r : Regex Unit) (n : Nat) : n ≤ (r.number n).2 := by
  induction r generalizing n with
  | empty => exact Nat.le_refl n
  | set _ => exact Nat.le_refl n
  | look _ => exact Nat.le_refl n
  | seq first second ihFirst ihSecond => exact (ihFirst n).trans (ihSecond _)
  | alt _ first second ihFirst ihSecond =>
    exact (Nat.le_succ n).trans ((ihFirst _).trans (ihSecond _))
  | plus _ body _ ih => exact (Nat.le_succ n).trans (ih _)
  | loop _ body _ ih => exact (Nat.le_succ n).trans (ih _)

/-- Only the owners of the numbers that an expression uses matter. -/
theorem Owned.congr {r : Regex Unit} {n : Nat} {rest : Thread}
    (h : Owned owner (r.number n).1 rest)
    (hother : ∀ mark, n ≤ mark → mark < (r.number n).2 → other mark = owner mark) :
    Owned other (r.number n).1 rest := by
  induction r generalizing n rest with
  | empty => trivial
  | set _ => trivial
  | look _ => trivial
  | seq first second ihFirst ihSecond =>
    have hle := le_number first n
    have hle' := le_number second (first.number n).2
    exact ⟨ihFirst h.1 fun mark hn hlt => hother mark hn (hlt.trans_le hle'),
      ihSecond h.2 fun mark hn hlt => hother mark (hle.trans hn) hlt⟩
  | alt _ first second ihFirst ihSecond =>
    have hle := le_number first (n + 1)
    have hle' := le_number second (first.number (n + 1)).2
    refine ⟨(hother n (Nat.le_refl n) (Nat.lt_of_succ_le (hle.trans hle'))).trans h.1, ?_, ?_⟩
    · exact ihFirst h.2.1 fun mark hn hlt => hother mark (Nat.le_of_succ_le hn) (hlt.trans_le hle')
    · exact ihSecond h.2.2 fun mark hn hlt =>
        hother mark (Nat.le_of_succ_le (hle.trans hn)) hlt
  | plus _ body greedy ih =>
    have hle := le_number body (n + 1)
    exact ⟨(hother n (Nat.le_refl n) (Nat.lt_of_succ_le hle)).trans h.1,
      ih h.2 fun mark hn hlt => hother mark (Nat.le_of_succ_le hn) hlt⟩
  | loop _ body greedy ih =>
    have hle := le_number body (n + 1)
    exact ⟨(hother n (Nat.le_refl n) (Nat.lt_of_succ_le hle)).trans h.1,
      ih h.2 fun mark hn hlt => hother mark (Nat.le_of_succ_le hn) hlt⟩

/-- The number of a repetition can be given its owner besides those of its body. -/
theorem exists_owner_of_round {body : Regex Unit} {n : Nat} {thread : Thread}
    (hbody : ∀ other : Nat → Thread, ∃ owner, Owned owner (body.number (n + 1)).1 thread ∧
      ∀ mark, mark < n + 1 ∨ (body.number (n + 1)).2 ≤ mark → owner mark = other mark)
    (other : Nat → Thread) :
    ∃ owner, (owner n = thread ∧ Owned owner (body.number (n + 1)).1 thread) ∧
      ∀ mark, mark < n ∨ (body.number (n + 1)).2 ≤ mark → owner mark = other mark := by
  obtain ⟨owner, howned, howner⟩ := hbody (Function.update other n thread)
  have hle := le_number body (n + 1)
  refine ⟨owner, ⟨?_, howned⟩, fun mark hmark => ?_⟩
  · rw [howner n (.inl (Nat.lt_succ_self n)), Function.update_self]
  · rw [howner mark (by omega), Function.update_of_ne (by omega)]

/-- The numbers of an expression can be given owners, whatever the owners of other numbers are. -/
theorem exists_owner (r : Regex Unit) (n : Nat) (rest : Thread) (other : Nat → Thread) :
    ∃ owner, Owned owner (r.number n).1 rest ∧
      ∀ mark, mark < n ∨ (r.number n).2 ≤ mark → owner mark = other mark := by
  induction r generalizing n rest other with
  | empty => exact ⟨other, trivial, fun _ _ => rfl⟩
  | set _ => exact ⟨other, trivial, fun _ _ => rfl⟩
  | look _ => exact ⟨other, trivial, fun _ _ => rfl⟩
  | seq first second ihFirst ihSecond =>
    obtain ⟨inner, hfirst, hinner⟩ := ihFirst n ((second.number (first.number n).2).1 :: rest) other
    obtain ⟨owner, hsecond, howner⟩ := ihSecond (first.number n).2 rest inner
    have hle := le_number first n
    have hle' := le_number second (first.number n).2
    refine ⟨owner, ⟨hfirst.congr fun mark _ hlt => howner mark (.inl hlt), hsecond⟩, ?_⟩
    intro mark hmark
    change mark < n ∨ (second.number (first.number n).2).2 ≤ mark at hmark
    rw [howner mark (by omega), hinner mark (by omega)]
  | alt _ first second ihFirst ihSecond =>
    let thread := alt n (first.number (n + 1)).1 (second.number (first.number (n + 1)).2).1 :: rest
    obtain ⟨inner, hfirst, hinner⟩ := ihFirst (n + 1) rest (Function.update other n thread)
    obtain ⟨owner, hsecond, howner⟩ := ihSecond (first.number (n + 1)).2 rest inner
    have hle := le_number first (n + 1)
    have hle' := le_number second (first.number (n + 1)).2
    have hmade : owner n = thread := by
      rw [howner n (by omega), hinner n (by omega), Function.update_self]
    refine ⟨owner, ⟨hmade, hfirst.congr fun mark _ hlt => howner mark (.inl hlt), hsecond⟩, ?_⟩
    intro mark hmark
    change mark < n ∨ (second.number (first.number (n + 1)).2).2 ≤ mark at hmark
    rw [howner mark (by omega), hinner mark (by omega), Function.update_of_ne (by omega)]
  | plus _ body greedy ih =>
    exact exists_owner_of_round (ih (n + 1) (loop n (body.number (n + 1)).1 greedy :: rest)) other
  | loop _ body greedy ih =>
    exact exists_owner_of_round (ih (n + 1) (loop n (body.number (n + 1)).1 greedy :: rest)) other

end Owners

section Search

variable {choices unmade : List Nat} {before : Option Char} {thread : Thread} {text : Text}
  {owner : Nat → Thread} {mark : Nat}

/-- Where a search finds nothing, it finds nothing with a choice less. -/
theorem backtrack_erase_eq_nil (h : backtrack choices unmade before thread text = [])
    (mark : Nat) : backtrack choices (unmade.erase mark) before thread text = [] := by
  fun_induction backtrack choices unmade before thread text with
  | case1 => cases h
  | case2 unmade before rest text ih => rw [backtrack, ih h]
  | case3 => rw [backtrack]
  | case4 unmade before members rest c text hmem _ => rw [backtrack, if_pos hmem, h]
  | case5 unmade before members rest c text hmem => rw [backtrack, if_neg hmem]
  | case6 unmade before condition rest text hholds ih => rw [backtrack, if_pos hholds, ih h]
  | case7 unmade before condition rest text hholds => rw [backtrack, if_neg hholds]
  | case8 unmade before first second rest text ih => rw [backtrack, ih h]
  | case9 unmade before made first second rest text _ ihFirst ihSecond =>
    obtain ⟨hfirst, hsecond⟩ := List.append_eq_nil_iff.1 h
    rw [backtrack, List.erase_comm, ihFirst hfirst, ihSecond hsecond, List.append_nil, ite_self]
  | case10 unmade before made first second rest text hmade =>
    rw [backtrack, if_neg fun hmem => hmade (List.mem_of_mem_erase hmem)]
  | case11 unmade before made body greedy rest text ih => rw [backtrack, ih h]
  | case12 unmade before made body rest text _ ihAgain ihStop =>
    obtain ⟨hagain, hstop⟩ := List.append_eq_nil_iff.1 h
    rw [backtrack, List.erase_comm, ihAgain hagain, ihStop hstop]
    exact ite_self _
  | case13 unmade before made body greedy rest text _ _ ihStop ihAgain =>
    obtain ⟨hstop, hagain⟩ := List.append_eq_nil_iff.1 h
    rw [backtrack, List.erase_comm, ihAgain hagain, ihStop hstop]
    simp
  | case14 unmade before made body greedy rest text hmade =>
    rw [backtrack, if_neg fun hmem => hmade (List.mem_of_mem_erase hmem)]

/-- A choice whose owner leads to nothing may be left out. -/
theorem backtrack_erase (howned : OwnedThread owner thread)
    (hmark : backtrack choices unmade before (owner mark) text = []) :
    backtrack choices (unmade.erase mark) before thread text =
      backtrack choices unmade before thread text := by
  fun_induction backtrack choices unmade before thread text with
  | case1 => rw [backtrack]
  | case2 unmade before rest text ih => rw [backtrack, ih howned.2 hmark]
  | case3 => rw [backtrack]
  | case4 unmade before members rest c text hmem _ => rw [backtrack, if_pos hmem]
  | case5 unmade before members rest c text hmem => rw [backtrack, if_neg hmem]
  | case6 unmade before condition rest text hholds ih =>
    rw [backtrack, if_pos hholds, ih howned.2 hmark]
  | case7 unmade before condition rest text hholds => rw [backtrack, if_neg hholds]
  | case8 unmade before first second rest text ih => rw [backtrack, ih howned.seq hmark]
  | case9 unmade before made first second rest text hmade ihFirst ihSecond =>
    obtain ⟨howner, hfirst, hsecond⟩ := howned.alt
    -- Where the left out choice is made, its owner is the thread itself, so it leads to nothing
    -- with the choice and without it.
    by_cases heq : made = mark
    · have hnil : backtrack choices unmade before (alt made first second :: rest) text = [] := by
        rwa [← howner, heq]
      rw [backtrack_erase_eq_nil hnil, ← hnil, backtrack, if_pos hmade]
    · have hmark' := backtrack_erase_eq_nil hmark made
      rw [backtrack, if_pos ((List.mem_erase_of_ne heq).2 hmade), List.erase_comm,
        ihFirst hfirst hmark', ihSecond hsecond hmark']
  | case10 unmade before made first second rest text hmade =>
    rw [backtrack, if_neg fun hmem => hmade (List.mem_of_mem_erase hmem)]
  | case11 unmade before made body greedy rest text ih => rw [backtrack, ih howned.plus hmark]
  | case12 unmade before made body rest text hmade ihAgain ihStop =>
    obtain ⟨howner, hagain, hstop⟩ := howned.loop
    by_cases heq : made = mark
    · have hnil : backtrack choices unmade before (loop made body true :: rest) text = [] := by
        rwa [← howner, heq]
      rw [backtrack_erase_eq_nil hnil, ← hnil, backtrack, if_pos hmade, if_pos rfl]
    · have hmark' := backtrack_erase_eq_nil hmark made
      rw [backtrack, if_pos ((List.mem_erase_of_ne heq).2 hmade), List.erase_comm,
        ihAgain hagain hmark', ihStop hstop hmark', if_pos rfl]
  | case13 unmade before made body greedy rest text hmade hlazy ihStop ihAgain =>
    obtain ⟨howner, hagain, hstop⟩ := howned.loop
    by_cases heq : made = mark
    · have hnil : backtrack choices unmade before (loop made body greedy :: rest) text = [] := by
        rwa [← howner, heq]
      rw [backtrack_erase_eq_nil hnil, ← hnil, backtrack, if_pos hmade, if_neg hlazy]
    · have hmark' := backtrack_erase_eq_nil hmark made
      rw [backtrack, if_pos ((List.mem_erase_of_ne heq).2 hmade), List.erase_comm,
        ihAgain hagain hmark', ihStop hstop hmark', if_neg hlazy]
  | case14 unmade before made body greedy rest text hmade =>
    rw [backtrack, if_neg fun hmem => hmade (List.mem_of_mem_erase hmem)]

end Search

section Ways

variable {choices unmade : List Nat} {before after : Option Char} {threads : List Thread}
  {text : Text} {owner : Nat → Thread}

/-- The matches on one way. -/
def follow (choices : List Nat) : Text → Way → List Text
  | _, .accept => [[]]
  | [], .read _ _ => []
  | c :: text, .read members next =>
    if members.mem c then (backtrack choices choices (some c) next text).map (c :: ·) else []

/-- The matches of some threads, those of earlier threads first. -/
def backtrackAll (choices unmade : List Nat) (before : Option Char) (text : Text)
    (threads : List Thread) : List Text :=
  threads.flatMap fun thread => backtrack choices unmade before thread text

/-- The matches of a first thread come first. -/
theorem backtrackAll_cons (thread : Thread) :
    backtrackAll choices unmade before text (thread :: threads) =
      backtrack choices unmade before thread text ++
        backtrackAll choices unmade before text threads := rfl

/-- Reading a character is one way. -/
theorem follow_read (members : CharSet) (rest : Thread) :
    follow choices text (.read members rest) =
      backtrack choices unmade before (set members :: rest) text := by
  cases text with
  | nil => rw [backtrack, follow]
  | cons c text => rw [backtrack, follow]

/-- Two ways to go on from a choice lead to the same first match as its owner, though the later
threads are followed without the choice. -/
theorem head?_backtrackAll_choice (howned : ∀ thread ∈ threads, OwnedThread owner thread)
    {mark : Nat} {preferred other : Thread}
    (howner : backtrack choices unmade before (owner mark) text =
      backtrack choices (unmade.erase mark) before preferred text ++
        backtrack choices (unmade.erase mark) before other text) :
    (backtrackAll choices (unmade.erase mark) before text
        (preferred :: other :: threads)).head? =
      (backtrackAll choices unmade before text (owner mark :: threads)).head? := by
  rw [backtrackAll_cons, backtrackAll_cons, ← List.append_assoc, ← howner, backtrackAll_cons]
  -- A match of the owner comes before the later threads. Without one the choice leads to nothing,
  -- so nothing is lost for them.
  cases hfound : backtrack choices unmade before (owner mark) text with
  | nil =>
    have herase : ∀ thread ∈ threads,
        backtrack choices (unmade.erase mark) before thread text =
          backtrack choices unmade before thread text :=
      fun thread hthread => backtrack_erase (howned thread hthread) hfound
    rw [backtrackAll, backtrackAll, List.flatMap_congr herase]
  | cons first more => rfl

/-- The first match on the ways of some threads is the first that a search meets. -/
theorem head?_ways (howned : ∀ thread ∈ threads, OwnedThread owner thread) :
    ((ways before text.head? unmade threads).flatMap (follow choices text)).head? =
      (backtrackAll choices unmade before text threads).head? := by
  generalize hafter : text.head? = after
  fun_induction ways before after unmade threads with
  | case1 => rfl
  | case2 unmade later =>
    rw [backtrackAll_cons, backtrack]
    rfl
  | case3 unmade rest later ih =>
    obtain ⟨hthread, hlater⟩ := List.forall_mem_cons.1 howned
    rw [ih (List.forall_mem_cons.2 ⟨hthread.2, hlater⟩), backtrackAll_cons, backtrackAll_cons,
      backtrack]
  | case4 unmade members rest later ih =>
    rw [List.flatMap_cons, List.head?_append, ih (List.forall_mem_cons.1 howned).2, follow_read,
      backtrackAll_cons, List.head?_append]
  | case5 unmade condition rest later hholds ih =>
    obtain ⟨hthread, hlater⟩ := List.forall_mem_cons.1 howned
    rw [ih (List.forall_mem_cons.2 ⟨hthread.2, hlater⟩), backtrackAll_cons, backtrackAll_cons,
      backtrack, hafter, if_pos hholds]
  | case6 unmade condition rest later hholds ih =>
    rw [ih (List.forall_mem_cons.1 howned).2, backtrackAll_cons, backtrack, hafter, if_neg hholds,
      List.nil_append]
  | case7 unmade first second rest later ih =>
    obtain ⟨hthread, hlater⟩ := List.forall_mem_cons.1 howned
    rw [ih (List.forall_mem_cons.2 ⟨hthread.seq, hlater⟩), backtrackAll_cons, backtrackAll_cons,
      backtrack]
  | case8 unmade mark first second rest later hmem ih =>
    obtain ⟨hthread, hlater⟩ := List.forall_mem_cons.1 howned
    obtain ⟨howner, hfirst, hsecond⟩ := hthread.alt
    rw [ih (List.forall_mem_cons.2 ⟨hfirst, List.forall_mem_cons.2 ⟨hsecond, hlater⟩⟩), ← howner]
    refine head?_backtrackAll_choice hlater ?_
    rw [howner, backtrack, if_pos hmem]
  | case9 unmade mark first second rest later hmade ih =>
    rw [ih (List.forall_mem_cons.1 howned).2, backtrackAll_cons, backtrack, if_neg hmade,
      List.nil_append]
  | case10 unmade mark body greedy rest later ih =>
    obtain ⟨hthread, hlater⟩ := List.forall_mem_cons.1 howned
    rw [ih (List.forall_mem_cons.2 ⟨hthread.plus, hlater⟩), backtrackAll_cons, backtrackAll_cons,
      backtrack]
  | case11 unmade mark body greedy rest later hmem again ih =>
    obtain ⟨hthread, hlater⟩ := List.forall_mem_cons.1 howned
    obtain ⟨howner, hagain, hstop⟩ := hthread.loop
    rw [← howner]
    cases greedy with
    | true =>
      have hall := List.forall_mem_cons.2 ⟨hagain, List.forall_mem_cons.2 ⟨hstop, hlater⟩⟩
      refine (ih hall).trans (head?_backtrackAll_choice hlater ?_)
      rw [howner, backtrack, if_pos hmem]
      rfl
    | false =>
      have hall := List.forall_mem_cons.2 ⟨hstop, List.forall_mem_cons.2 ⟨hagain, hlater⟩⟩
      refine (ih hall).trans (head?_backtrackAll_choice hlater ?_)
      rw [howner, backtrack, if_pos hmem]
      rfl
  | case12 unmade mark body greedy rest later hmade ih =>
    rw [ih (List.forall_mem_cons.1 howned).2, backtrackAll_cons, backtrack, if_neg hmade,
      List.nil_append]

/-- Behind a character that was read, all choices of the thread have the same owners. -/
theorem ownedThread_of_mem_ways (howned : ∀ thread ∈ threads, OwnedThread owner thread)
    {members : CharSet} {next : Thread}
    (h : .read members next ∈ ways before after unmade threads) : OwnedThread owner next := by
  fun_induction ways before after unmade threads with
  | case1 => cases h
  | case2 => cases List.mem_singleton.1 h
  | case3 unmade rest later ih =>
    obtain ⟨hthread, hlater⟩ := List.forall_mem_cons.1 howned
    exact ih (List.forall_mem_cons.2 ⟨hthread.2, hlater⟩) h
  | case4 unmade members rest later ih =>
    obtain ⟨hthread, hlater⟩ := List.forall_mem_cons.1 howned
    rcases List.mem_cons.1 h with heq | hmore
    · cases heq
      exact hthread.2
    · exact ih hlater hmore
  | case5 unmade condition rest later _ ih =>
    obtain ⟨hthread, hlater⟩ := List.forall_mem_cons.1 howned
    exact ih (List.forall_mem_cons.2 ⟨hthread.2, hlater⟩) h
  | case6 unmade condition rest later _ ih => exact ih (List.forall_mem_cons.1 howned).2 h
  | case7 unmade first second rest later ih =>
    obtain ⟨hthread, hlater⟩ := List.forall_mem_cons.1 howned
    exact ih (List.forall_mem_cons.2 ⟨hthread.seq, hlater⟩) h
  | case8 unmade mark first second rest later _ ih =>
    obtain ⟨hthread, hlater⟩ := List.forall_mem_cons.1 howned
    obtain ⟨_, hfirst, hsecond⟩ := hthread.alt
    exact ih (List.forall_mem_cons.2 ⟨hfirst, List.forall_mem_cons.2 ⟨hsecond, hlater⟩⟩) h
  | case9 unmade mark first second rest later _ ih => exact ih (List.forall_mem_cons.1 howned).2 h
  | case10 unmade mark body greedy rest later ih =>
    obtain ⟨hthread, hlater⟩ := List.forall_mem_cons.1 howned
    exact ih (List.forall_mem_cons.2 ⟨hthread.plus, hlater⟩) h
  | case11 unmade mark body greedy rest later _ again ih =>
    obtain ⟨hthread, hlater⟩ := List.forall_mem_cons.1 howned
    obtain ⟨_, hagain, hstop⟩ := hthread.loop
    cases greedy with
    | true => exact ih (List.forall_mem_cons.2 ⟨hagain, List.forall_mem_cons.2 ⟨hstop, hlater⟩⟩) h
    | false => exact ih (List.forall_mem_cons.2 ⟨hstop, List.forall_mem_cons.2 ⟨hagain, hlater⟩⟩) h
  | case12 unmade mark body greedy rest later _ ih => exact ih (List.forall_mem_cons.1 howned).2 h

/-- Only the last way accepts. -/
theorem pairwise_ways :
    (ways before after unmade threads).Pairwise fun way _ => way ≠ .accept := by
  fun_induction ways before after unmade threads with
  | case1 => exact .nil
  | case2 => exact List.pairwise_singleton _ _
  | case4 unmade members rest later ih =>
    exact List.pairwise_cons.2 ⟨fun _ _ => by simp, ih⟩
  | case11 unmade mark body greedy rest later _ again ih => exact ih
  | _ => assumption

/-- At the end of a text there is only the empty match. -/
theorem head?_follow_nil (ways : List Way) : (ways.flatMap (follow choices [])).head? =
    if Way.accept ∈ ways then some [] else none := by
  induction ways with
  | nil => rfl
  | cons way more ih =>
    cases way with
    | accept => simp [follow]
    | read members next => simpa [follow] using ih

/-- In front of a character the matches that read it come before the empty one. -/
theorem head?_follow_cons {ways : List Way} (hlast : ways.Pairwise fun way _ => way ≠ .accept)
    (c : Char) : (ways.flatMap (follow choices (c :: text))).head? =
      ((backtrackAll choices choices (some c) text (advance c ways)).head?.map (c :: ·)).or
        (if Way.accept ∈ ways then some [] else none) := by
  induction ways with
  | nil => rfl
  | cons way more ih =>
    obtain ⟨hway, hmore⟩ := List.pairwise_cons.1 hlast
    cases way with
    | accept =>
      obtain rfl : more = [] := List.eq_nil_iff_forall_not_mem.2 fun _ h => hway _ h rfl
      rfl
    | read members next =>
      have haccept : Way.accept ∈ Way.read members next :: more ↔ Way.accept ∈ more := by simp
      rw [List.flatMap_cons, List.head?_append, ih hmore, follow]
      by_cases hc : members.mem c
      · rw [advance_read hc, backtrackAll_cons, List.head?_append, if_pos hc, List.head?_map,
          Option.map_or, Option.or_assoc]
        simp only [haccept]
      · rw [advance_skip hc, if_neg hc, List.head?_nil, Option.none_or]
        simp only [haccept]

/-- Following all ways at once finds what a search with backtracking meets first. -/
theorem scan_eq_head? (howned : ∀ thread ∈ threads, OwnedThread owner thread) :
    scan choices before threads text =
      (backtrackAll choices choices before text threads).head? := by
  induction text generalizing before threads with
  | nil =>
    rw [scan_nil, ← head?_ways howned, head?_follow_nil]
    rfl
  | cons c rest ih =>
    have hnext : ∀ next ∈ advance c (ways before (some c) choices threads),
        OwnedThread owner next := by
      intro next hmem
      obtain ⟨way, hway, hread⟩ := List.mem_filterMap.1 hmem
      cases way with
      | accept => cases hread
      | read members thread =>
        obtain ⟨_, heq⟩ := Option.ite_none_right_eq_some.1 hread
        obtain rfl := Option.some.inj heq
        exact ownedThread_of_mem_ways howned hway
    rw [scan_cons, ih hnext, ← head?_ways howned]
    exact (head?_follow_cons pairwise_ways c).symm

/-- The preferred match at the beginning of a text is the first that a search meets. -/
theorem matchStart_eq_head? (r : Regex Unit) (text : Text) :
    r.matchStart text = (r.preferences text).head? := by
  obtain ⟨owner, howned, _⟩ := exists_owner r 0 [] fun _ => []
  have hthread : ∀ thread ∈ [[(r.number 0).1]], OwnedThread owner thread :=
    List.forall_mem_singleton.2 ⟨howned, trivial⟩
  exact (scan_eq_head? hthread).trans (congrArg List.head? (List.flatMap_singleton _ _))

end Ways

end ParserCombinators.Regex
