import ParserCombinators.Regex.Basic
import ParserCombinators.Text.Basic

/-!
# Matching

Matching follows all ways through an expression at once, one character at a time, in order of
preference. At each place in the text a choice is made once: when it is met again it leads to
the same ways, and they have a better rank already. So rounds that read nothing come to an end.
A way that accepts drops every way after it, and the last acceptance seen is the preferred
match.
-/

namespace ParserCombinators.Regex

/-- What is left to be matched, in order. -/
abbrev Thread := List (Regex Nat)

/-- A bound for the steps through an expression without making a choice. -/
def steps : Regex Nat → Nat
  | empty => 1
  | set _ => 1
  | look _ => 1
  | seq first second => first.steps + second.steps + 1
  | alt _ _ _ => 1
  | plus _ body _ => body.steps + 2
  | loop _ _ _ => 1

/-- A bound for the steps through a thread without making a choice. -/
def threadSteps : Thread → Nat
  | [] => 1
  | r :: rest => r.steps + threadSteps rest

/-- A bound for the steps through some threads without making a choice. -/
def totalSteps : List Thread → Nat
  | [] => 0
  | thread :: later => threadSteps thread + totalSteps later

/-- A way to go on from a place in the text. -/
inductive Way where
  /-- What was read so far is a match. -/
  | accept
  /-- Read a character of the set and go on with the thread. -/
  | read (members : CharSet) (next : Thread)
deriving DecidableEq, Repr

/-- The ways of some threads between two characters, in order of preference up to the first
acceptance. The list of numbers holds the choices that were not made at this place yet. -/
def ways (before after : Option Char) : List Nat → List Thread → List Way
  | _, [] => []
  | _, [] :: _ => [.accept]
  | unmade, (empty :: rest) :: later => ways before after unmade (rest :: later)
  | unmade, (set members :: rest) :: later =>
    .read members rest :: ways before after unmade later
  | unmade, (look condition :: rest) :: later =>
    if condition.holds before after then ways before after unmade (rest :: later)
    else ways before after unmade later
  | unmade, (seq first second :: rest) :: later =>
    ways before after unmade ((first :: second :: rest) :: later)
  | unmade, (alt mark first second :: rest) :: later =>
    if mark ∈ unmade then
      ways before after (unmade.erase mark) ((first :: rest) :: (second :: rest) :: later)
    else ways before after unmade later
  | unmade, (plus mark body greedy :: rest) :: later =>
    ways before after unmade ((body :: loop mark body greedy :: rest) :: later)
  | unmade, (loop mark body greedy :: rest) :: later =>
    if mark ∈ unmade then
      let again := body :: loop mark body greedy :: rest
      ways before after (unmade.erase mark)
        (if greedy then again :: rest :: later else rest :: again :: later)
    else ways before after unmade later
termination_by unmade threads => (unmade.length, totalSteps threads)
decreasing_by
  all_goals first
    | apply Prod.Lex.right
      simp only [totalSteps, threadSteps, steps]
      omega
    | apply Prod.Lex.left
      have := List.length_erase_of_mem ‹_›
      have := List.length_pos_of_mem ‹_›
      omega

/-- The threads to go on with after reading a character. -/
def advance (c : Char) (ways : List Way) : List Thread :=
  ways.filterMap fun
    | .accept => none
    | .read members next => if members.mem c then some next else none

/-- The preferred match of some threads at the beginning of a text, earlier threads preferred.
The list of numbers holds all their choices. -/
def scan (choices : List Nat) : Option Char → List Thread → Text → Option Text
  | _, [], _ => none
  | before, thread :: threads, [] =>
    if Way.accept ∈ ways before none choices (thread :: threads) then some [] else none
  | before, thread :: threads, c :: rest =>
    let offered := ways before (some c) choices (thread :: threads)
    match scan choices (some c) (advance c offered) rest with
    | some matched => some (c :: matched)
    | none => if Way.accept ∈ offered then some [] else none

/-- The preferred match at the first place from which there is one. -/
def findFrom (choices : List Nat) (r : Regex Nat) : Option Char → Text → Option Text
  | before, [] => scan choices before [[r]] []
  | before, c :: rest =>
    match scan choices before [[r]] (c :: rest) with
    | some matched => some matched
    | none => if r.isAnchored then none else findFrom choices r (some c) rest

/-- The preferred match at the beginning of a text. -/
def matchStart (r : Regex Unit) (text : Text) : Option Text :=
  let (r, n) := r.number 0
  scan (List.range n) none [[r]] text

/-- The leftmost match in a text, the preferred one of those that begin there. -/
def find (r : Regex Unit) (text : Text) : Option Text :=
  let (r, n) := r.number 0
  findFrom (List.range n) r none text

/-- What is matched begins the text. -/
theorem scan_isPrefix {choices : List Nat} {before : Option Char} {threads : List Thread}
    {text matched : Text} (h : scan choices before threads text = some matched) :
    matched <+: text := by
  induction text generalizing before threads matched with
  | nil =>
    cases threads with
    | nil => simp [scan] at h
    | cons thread threads =>
      simp only [scan, Option.ite_none_right_eq_some, Option.some.injEq] at h
      simp [← h.2]
  | cons c rest ih =>
    cases threads with
    | nil => simp [scan] at h
    | cons thread threads =>
      simp only [scan] at h
      split at h
      · next found hfound =>
        cases h
        exact List.cons_prefix_cons.2 ⟨rfl, ih hfound⟩
      · split at h
        · cases h
          exact List.nil_prefix
        · cases h

/-- What a search finds is matched at some place of the text. -/
theorem findFrom_eq_some {choices : List Nat} {r : Regex Nat} {before : Option Char}
    {text matched : Text} (h : findFrom choices r before text = some matched) :
    ∃ before rest, rest <:+ text ∧ scan choices before [[r]] rest = some matched := by
  induction text generalizing before with
  | nil => exact ⟨before, [], List.suffix_refl _, h⟩
  | cons c rest ih =>
    simp only [findFrom] at h
    split at h
    · next hscan => exact ⟨before, c :: rest, List.suffix_refl _, h ▸ hscan⟩
    · split at h
      · cases h
      · obtain ⟨before, after, hafter, hscan⟩ := ih h
        exact ⟨before, after, hafter.trans (List.suffix_cons c rest), hscan⟩

/-- What is found is a part of the text. -/
theorem find_isInfix {r : Regex Unit} {text matched : Text} (h : r.find text = some matched) :
    matched <:+: text := by
  obtain ⟨_, rest, hrest, hscan⟩ := findFrom_eq_some h
  exact (scan_isPrefix hscan).isInfix.trans hrest.isInfix

/-- Searching for the expression. -/
def search (r : Regex Unit) : Search where
  find := r.find
  isInfix := find_isInfix

@[simp] theorem search_find (r : Regex Unit) : r.search.find = r.find := rfl

end ParserCombinators.Regex
