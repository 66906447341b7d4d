import ParserCombinators.Proofs.Parser.Verbatim

/-!
# Grammars that lose nothing

Grammars without functions on values, without separators and without parts that are skipped give
values whose text is exactly what they read: no byte that was read is lost, doubled or moved, and
none stems from an attempt that was given up.
-/

namespace ParserCombinators

open ParserCombinators.Parser

mutual

/-- The grammar keeps the value of each of its parts, and its patterns match only where they
start. -/
def Grammar.Verbatim : Grammar → Prop
  | .literal _ => True
  | .pattern _ search => search.FindsAtStart
  | .matcher _ => True
  | .sequence parts => Grammar.AllVerbatim parts
  | .choice alternatives => Grammar.AllVerbatim alternatives
  | .many item => item.Verbatim
  | .many1 item => item.Verbatim
  | .sepBy _ _ => False
  | .sepBy1 _ _ => False
  | .between _ _ _ => False
  | .optional item => item.Verbatim
  | .success _ => False
  | .fail _ => False
  | .followedBy first second => first.Verbatim ∧ second.Verbatim
  | .skip _ _ => False
  | .skipLeft _ _ => False
  | .label item _ => item.Verbatim
  | .map _ _ => False
  | .chain _ _ => False
  | .reword item _ => item.Verbatim
  | .delay item => item.Verbatim
  | .rule _ => True

/-- All grammars of a list keep the values of their parts. -/
def Grammar.AllVerbatim : List Grammar → Prop
  | [] => True
  | item :: rest => item.Verbatim ∧ Grammar.AllVerbatim rest

end

/-- All rules keep the values of their parts. -/
def Rules.Verbatim (rules : Rules) : Prop :=
  ∀ name body, rules.lookup name = some body → body.Verbatim

/-- The text of a value as a list of characters. -/
def Value.written (value : Value) : Text :=
  value.text.toList

/-- The text of a list is the texts of its items one after another. -/
theorem Value.written_arr (items : List Value) :
    (Value.arr items).written = items.flatMap Value.written := by
  simp only [written, text]
  induction items with
  | nil => rfl
  | cons item rest ih =>
    rw [textOfItems, String.toList_append, List.flatMap_cons, ih]
    rfl

variable {fuel : Nat} {r : String → Parser Value}

/-- Named matchers give what they read. -/
theorem Matcher.verbatim (named : Matcher) :
    named.parser.Verbatim fuel String.toList := by
  cases named with
  | letters => exact matching_verbatim _ (Regex.findsAtStart_of_isAnchored rfl)
  | digits => exact matching_verbatim _ (Regex.findsAtStart_of_isAnchored rfl)
  | lettersOrDigits => exact matching_verbatim _ (Regex.findsAtStart_of_isAnchored rfl)
  | floatingPoint => exact matching_verbatim _ (Regex.findsAtStart_of_isAnchored rfl)
  | whitespace => exact matching_verbatim _ (Regex.findsAtStart_of_isAnchored rfl)
  | optionalWhitespace =>
    apply (matching_verbatim _ (Regex.findsAtStart_of_isAnchored rfl)).optional.map
    intro value
    cases value with
    | none => rfl
    | some text => rfl

mutual

/-- A grammar that keeps the values of its parts gives what it read when its rules do. -/
theorem Grammar.denote_verbatim (hr : ∀ name, (r name).Verbatim fuel Value.written) :
    ∀ g : Grammar, g.Verbatim → (g.denote r).Verbatim fuel Value.written
  | .literal expected, _ => (literal_verbatim expected).map fun _ => rfl
  | .pattern name _, hsearch => (matching_verbatim name hsearch).map fun _ => rfl
  | .matcher named, _ => (Matcher.verbatim named).map fun _ => rfl
  | .sequence parts, hparts =>
    (sequence_verbatim (Grammar.denoteAll_verbatim hr parts hparts)).map Value.written_arr
  | .choice alternatives, halternatives =>
    choice_verbatim (Grammar.denoteAll_verbatim hr alternatives halternatives)
  | .many item, hitem => (Grammar.denote_verbatim hr item hitem).many.map Value.written_arr
  | .many1 item, hitem => (Grammar.denote_verbatim hr item hitem).many1.map Value.written_arr
  | .optional item, hitem => by
    apply (Grammar.denote_verbatim hr item hitem).optional.map
    intro value
    cases value with
    | none => rfl
    | some value => rfl
  | .followedBy first second, ⟨hfirst, hsecond⟩ => by
    have h := Grammar.denote_verbatim hr first hfirst
    apply (h.followedBy (Grammar.denote_verbatim hr second hsecond)).map
    rintro ⟨a, b⟩
    simp [Value.written_arr]
  | .label item _, hitem | .reword item _, hitem => (Grammar.denote_verbatim hr item hitem).reword _
  | .delay item, hitem => Grammar.denote_verbatim hr item hitem
  | .rule name, _ => hr name

/-- Grammars of a list that keep the values of their parts give what they read. -/
theorem Grammar.denoteAll_verbatim (hr : ∀ name, (r name).Verbatim fuel Value.written) :
    ∀ gs : List Grammar, Grammar.AllVerbatim gs →
      ∀ p ∈ Grammar.denoteAll r gs, p.Verbatim fuel Value.written
  | [], _ => fun _ hp => by cases hp
  | item :: rest, h => by
    intro p hp
    rcases List.mem_cons.1 hp with rfl | hmem
    · exact Grammar.denote_verbatim hr item h.1
    · exact Grammar.denoteAll_verbatim hr rest h.2 p hmem

end

/-- Rules that keep the values of their parts give what they read, however often they are
unfolded. -/
theorem Rules.unfold_verbatim {rules : Rules} (h : rules.Verbatim) (n : Nat) (name : String) :
    (rules.unfold n name).Verbatim fuel Value.written := by
  induction n generalizing name with
  | zero => exact never_verbatim
  | succ n ih =>
    unfold Rules.unfold
    cases hbody : rules.lookup name with
    | none => exact never_verbatim
    | some body => exact Grammar.denote_verbatim ih body (h name body hbody)

/-- If a run of a grammar that keeps the values of its parts succeeds from a well-formed place, the
text of its value is what stands between that place and the place where the run ended. -/
theorem Grammar.reads_of_apply {rules : Rules} (hrules : rules.Verbatim) {g : Grammar}
    (hg : g.Verbatim) {pos next : Position} (hpos : pos.WellFormed) {α : Type} {start : α}
    {value : Value}
    (hrun : (g.parser rules).apply fuel (pos.succeed start) = .done (next.succeed value)) :
    pos.Reads value.text.toList next :=
  Grammar.denote_verbatim (r := rules.parser) (fun name => Rules.unfold_verbatim hrules fuel name)
    g hg pos hpos _ hrun value rfl

/-- Lists in parentheses of words and lists. -/
def Rules.wordLists : Rules :=
  [("list", .sequence [.literal "(", .many (.choice [.rule "list",
    .followedBy (.matcher .letters) (.optional (.literal ","))]), .literal ")"])]

/-- A list in a list, behind a character of two bytes. A third list is not closed and given up. -/
theorem Grammar.reads_of_apply_wordLists :
    Rules.wordLists.Verbatim ∧
      (⟨"é(a,(bc)d)(e".toList, 2⟩ : Position).Reads "(a,(bc)d)".toList
        ⟨"é(a,(bc)d)(e".toList, 11⟩ := by
  have hrules : Rules.wordLists.Verbatim := by
    intro name body hbody
    simp only [Rules.wordLists, List.lookup_cons, List.lookup_nil] at hbody
    split at hbody
    · cases hbody
      exact ⟨trivial, ⟨trivial, ⟨trivial, trivial⟩, trivial⟩, trivial, trivial⟩
    · cases hbody
  let value : Value := .arr [.arr [.str "(", .arr [.arr [.str "a", .str ","],
    .arr [.str "(", .arr [.arr [.str "bc", .null]], .str ")"], .arr [.str "d", .null]], .str ")"]]
  have hrun : ((Grammar.many (.rule "list")).parser Rules.wordLists).apply 13
      ((⟨"é(a,(bc)d)(e".toList, 2⟩ : Position).succeed ()) =
        .done ((⟨"é(a,(bc)d)(e".toList, 11⟩ : Position).succeed value) := by
    cbv
  have htext : value.text = "(a,(bc)d)" := by
    decide +kernel
  have hreads := Grammar.reads_of_apply hrules (g := .many (.rule "list")) trivial
    ⟨['é'], "(a,(bc)d)(e".toList, rfl, rfl⟩ hrun
  rw [htext] at hreads
  exact ⟨hrules, hreads⟩

end ParserCombinators
