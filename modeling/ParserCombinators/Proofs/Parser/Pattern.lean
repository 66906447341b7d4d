import ParserCombinators.Proofs.Parser.Outcome
import ParserCombinators.Proofs.Parser.Verbatim
import ParserCombinators.Proofs.Regex.Anchoring
import ParserCombinators.Proofs.Regex.Matching

/-!
# Pattern parsers

A pattern that is an expression by itself is anchored: its parser finds the preferred one of the
matches of that expression at the current position and nothing else.

The text of a pattern is put into a group, so being a pattern and being an expression are not the
same, whatever the engine. A comment at the end of an expression takes the parenthesis of the group,
and a text that closes the group and opens another one is a pattern without being an expression.
-/

namespace ParserCombinators

namespace Regex

/-- Behind the anchor an expression is found where it matches at the beginning. -/
theorem find_anchored (e : Regex Unit) (text : Text) :
    (Regex.seq (.look .start) e).find text = e.matchStart text := by
  rw [find_eq_scan rfl]
  apply scan_congr
  intro after
  simp only [number, ways, Look.holds, Option.isNone_none, if_true]

namespace Engine

variable {engine : Engine} {text : Text} {e : Written} {search : Search}

/-- A pattern that is an expression by itself searches for that expression behind the anchor. -/
theorem search?_eq_seq (hread : engine.read? text = some e)
    (hsearch : engine.search? text = some search) :
    search = (Regex.seq (.look .start) e.expand).search := by
  obtain ⟨anchored, hanchored, rfl⟩ := Option.map_eq_some_iff.1 hsearch
  rw [readPattern?_eq_seq hread hanchored]
  rfl

/-- What such a pattern finds begins the text. -/
theorem findsAtStart_of_read? (hread : engine.read? text = some e)
    (hsearch : engine.search? text = some search) : search.FindsAtStart := by
  rw [search?_eq_seq hread hsearch]
  exact findsAtStart_of_isAnchored rfl

/-- It is the first match of the expression in order of preference. -/
theorem find_of_read? (hread : engine.read? text = some e)
    (hsearch : engine.search? text = some search) (rest : Text) :
    search.find rest = (e.expand.preferences rest).head? := by
  rw [search?_eq_seq hread hsearch, search_find, find_anchored, matchStart_eq_head?]

end Engine

end Regex

namespace Parser

variable {engine : Regex.Engine} {name text : String} {e : Regex.Written} {p : Parser String}
  {pos : Position} {rest : Text}

/-- In front of a text that is not empty, a pattern parser does what its search finds. -/
theorem matching_transition (name : String) (search : Search)
    (hrest : pos.remainder? = some rest) (hne : rest ≠ []) (fuel : Nat) :
    (matching name search).transition fuel pos = .done (match search.find rest with
      | some matched => pos.advance (byteLength matched) (String.ofList matched)
      | none => pos.fail (Failure.patternMismatch pos.index name)) := by
  cases hfind : search.find rest with
  | none => exact matching_mismatch name hrest hne hfind
  | some matched => exact matching_found name hrest hne hfind

/-- In front of a text that is not empty, a pattern that is an expression by itself succeeds exactly
if the expression matches at the beginning of the text. Its value is the first match there in order
of preference, and the parser goes on behind it. Otherwise it fails where it stands. -/
theorem pattern?_anchored (hread : engine.read? text.toList = some e)
    (hpattern : pattern? engine name text = some p) (hrest : pos.remainder? = some rest)
    (hne : rest ≠ []) {α : Type} (value : α) (fuel : Nat) :
    (e.expand.MatchesStart rest ∧ ∃ matched, (e.expand.preferences rest).head? = some matched ∧
      matched <+: rest ∧ pos.Reads matched (pos.ahead (byteLength matched)) ∧
      p.apply fuel (pos.succeed value) =
        .done ((pos.ahead (byteLength matched)).succeed (String.ofList matched))) ∨
    (¬e.expand.MatchesStart rest ∧
      p.apply fuel (pos.succeed value) =
        .done (pos.fail (Failure.patternMismatch pos.index name))) := by
  obtain ⟨search, hsearch, rfl⟩ := Option.map_eq_some_iff.1 hpattern
  have hfind := Regex.Engine.find_of_read? hread hsearch rest
  have happly : (matching name search).apply fuel (pos.succeed value) = _ :=
    matching_transition name search hrest hne fuel
  rw [hfind] at happly
  rw [Regex.matchesStart_iff]
  cases hfound : e.expand.preferences rest with
  | nil =>
    rw [hfound] at happly
    exact .inr ⟨not_not_intro rfl, happly⟩
  | cons matched more =>
    rw [hfound] at happly hfind
    have hprefix : matched <+: rest :=
      Regex.Engine.findsAtStart_of_read? hread hsearch rest matched hfind
    exact .inl ⟨List.cons_ne_nil _ _, matched, rfl, hprefix, Position.reads_of_prefix hrest hprefix,
      happly⟩

/-- An alternative in front of an empty branch, in the middle of a text. -/
theorem pattern?_anchored_emptyBranch :
    ∃ p, pattern? .standard "word" "or|" = some p ∧
      p.apply 0 ((⟨"xor".toList, 1⟩ : Position).succeed ()) =
        .done ((⟨"xor".toList, 3⟩ : Position).succeed "or") := by
  have hread : Regex.Engine.standard.read? "or|".toList =
      some (.alt (.seq (.set (.range 'o' 'o')) (.set (.range 'r' 'r'))) .empty) := rfl
  have hpattern : Regex.Engine.standard.readPattern? "or|".toList = some (.seq (.look .start)
      (.alt (.seq (.set (.range 'o' 'o')) (.set (.range 'r' 'r'))) .empty)) := by
    decide +kernel
  have hrest : (⟨"xor".toList, 1⟩ : Position).remainder? = some "or".toList := by decide
  have hpreferences : (Regex.Written.expand
      (.alt (.seq (.set (.range 'o' 'o')) (.set (.range 'r' 'r'))) .empty)).preferences
        "or".toList = ["or".toList, []] := by
    simp [Regex.Written.expand, Regex.preferences, Regex.number, Regex.backtrack, CharSet.mem]
  have hsome := pattern?_of_readPattern? hpattern "word"
  refine ⟨_, hsome, ?_⟩
  rcases pattern?_anchored hread hsome hrest (by decide) () 0 with
    ⟨_, matched, hfound, _, _, happly⟩ | ⟨hnone, _⟩
  · rw [hpreferences] at hfound
    obtain rfl : "or".toList = matched := Option.some.inj hfound
    exact happly
  · rw [Regex.matchesStart_iff, hpreferences] at hnone
    exact absurd (List.cons_ne_nil _ _) hnone

/-- An expression by itself is a pattern unless a comment at its end takes the parenthesis of the
group, the group is nested too deeply, or the expression behind the anchor is too large. A pattern is
no expression by itself exactly if a parenthesis of it closes the group of the pattern. -/
theorem pattern?_accepts (engine : Regex.Engine) (name text : String) :
    (∀ e, engine.read? text.toList = some e → ∃ final tail,
      engine.ReadInGroup text.toList final tail ∧ final.group.close = e ∧
      (Regex.skip final.verbose tail = [] ∨ Regex.skip final.verbose tail = [')']) ∧
      ((pattern? engine name text).isSome ↔ Regex.skip final.verbose tail = [')'] ∧
        final.group.nesting.alternatives + 2 ≤ Regex.Nesting.limit ∧
        engine.fits (.seq (.look .start) e))) ∧
    ((pattern? engine name text).isSome →
      (engine.read? text.toList = none ↔ engine.ClosesNoGroup text.toList)) := by
  constructor
  · intro e hread
    obtain ⟨final, tail, hgroup, hclose, htail, hpattern⟩ :=
      Regex.Engine.readPattern?_of_read? hread
    refine ⟨final, tail, hgroup, hclose, htail, ?_⟩
    rw [pattern?, Regex.Engine.search?, hpattern, Option.isSome_map, Option.isSome_map]
    simp
  · intro hsome
    rw [pattern?, Regex.Engine.search?, Option.isSome_map, Option.isSome_map] at hsome
    obtain ⟨anchored, hanchored⟩ := Option.isSome_iff_exists.1 hsome
    exact Regex.Engine.read?_eq_none_iff hanchored

/-- A text that closes the group of the pattern is a pattern and no expression, and an expression
that ends in a comment is no pattern. -/
theorem pattern?_not_read? :
    Regex.Engine.standard.read? "a)|(?:b".toList = none ∧
      (pattern? .standard "p" "a)|(?:b").isSome ∧
      (Regex.Engine.standard.read? "(?x)a#b".toList).isSome ∧
      (pattern? .standard "p" "(?x)a#b").isNone := by
  decide +kernel

end Parser

end ParserCombinators
