import ParserCombinators.Parser.Match
import ParserCombinators.Proofs.Parser.Alternatives
import ParserCombinators.Proofs.Parser.Reading

/-!
# What a parser does in front of a text

A parser takes a part of the text in front of a rest if it reads just that part and gives a
certain value, wherever the two stand. It refuses a text if it fails in front of it. How a
combination of parsers takes or refuses a text follows from how its parts do, so the run of a
parser on a text of known form is put together from small pieces.
-/

namespace ParserCombinators

variable {α β γ : Type}

/-- Behind a part of what follows stands the rest. -/
theorem Position.remainder?_ahead {pos : Position} {part rest : Text}
    (h : pos.remainder? = some (part ++ rest)) :
    (pos.ahead (byteLength part)).remainder? = some rest := by
  obtain ⟨before, hinput, hindex⟩ := dropBytes?_eq_some_iff.1 h
  have hdrop := dropBytes?_append (before ++ part) rest
  rwa [byteLength_append, hindex, List.append_assoc, ← hinput] at hdrop

/-- Going on twice. -/
theorem Position.ahead_ahead (pos : Position) (m n : Nat) :
    (pos.ahead m).ahead n = pos.ahead (m + n) := by
  rw [ahead, ahead, ahead, Nat.add_assoc]

namespace Parser

variable {fuel : Nat}

/-- In front of the rest the parser reads the part and gives the value. -/
def Takes (fuel : Nat) (p : Parser α) (part rest : Text) (value : α) : Prop :=
  ∀ pos, pos.remainder? = some (part ++ rest) →
    p.transition fuel pos = .done ((pos.ahead (byteLength part)).succeed value)

/-- In front of the text the parser fails. -/
def Refuses (fuel : Nat) (p : Parser α) (text : Text) : Prop :=
  ∀ pos, pos.remainder? = some text →
    ∃ (next : Position) (e : Failure), p.transition fuel pos = .done (next.fail e)

/-- Where a parser takes a part it does not fail. -/
theorem Takes.not_fails {p : Parser α} {part rest : Text} {value : α}
    (h : p.Takes fuel part rest value) {pos : Position}
    (hpos : pos.remainder? = some (part ++ rest)) : ¬p.FailsAt fuel pos := by
  rintro ⟨next, e, hfail⟩
  have hsame := (h pos hpos).symm.trans hfail
  cases hsame

/-- No word is empty, and none begins another one. -/
def PrefixFree (words : List String) : Prop :=
  "" ∉ words ∧ ∀ first ∈ words, ∀ second ∈ words, first.toList <+: second.toList → first = second

/-- Words none of which begins another one are not empty. -/
theorem PrefixFree.ne_nil {words : List String} (h : PrefixFree words) {word : String}
    (hword : word ∈ words) : word.toList ≠ [] := by
  intro hnil
  rw [String.toList_eq_nil_iff] at hnil
  exact h.1 (hnil ▸ hword)

section Leaves

variable {part rest text : Text}

/-- Succeeding takes nothing. -/
theorem success_takes (value : α) : (success value).Takes fuel [] rest value :=
  fun _ _ => rfl

/-- At the end of the text every parser that looks at the text fails. -/
theorem onRemainder_end (step : Position → Text → State α) {pos : Position}
    (hpos : pos.remainder? = some []) :
    (onRemainder step).transition fuel pos = .done (pos.fail (Failure.endOfInput pos.index)) := by
  simp only [onRemainder, direct, hpos, Run.ofOption, Run.map, List.isEmpty_nil, if_true]

/-- A literal takes its text, if it is not the empty text at the end. -/
theorem literal_takes {expected : String} (h : expected.toList ++ rest ≠ []) :
    (literal expected).Takes fuel expected.toList rest expected := by
  intro pos hpos
  have hempty : (expected.toList ++ rest).isEmpty = false := by simpa using h
  have hstart : expected.toList.isPrefixOf (expected.toList ++ rest) = true := by simp
  simp only [literal, onRemainder, direct, hpos, Run.ofOption, Run.map, hempty, hstart,
    Bool.false_eq_true, if_false, if_true, byteLength_toList]
  rfl

/-- A literal refuses every text that does not begin with its own. -/
theorem literal_refuses {expected : String} (h : ¬ expected.toList <+: text) :
    (literal expected).Refuses fuel text := by
  intro pos hpos
  simp only [literal, onRemainder, direct, hpos, Run.ofOption, Run.map,
    mt List.isPrefixOf_iff_prefix.1 h]
  split
  · exact ⟨_, _, rfl⟩
  · exact ⟨_, _, rfl⟩

/-- Where a search finds something a pattern parser reads it. -/
theorem matching_found (name : String) {search : Search} {pos : Position}
    (hpos : pos.remainder? = some text) (hne : text ≠ []) (hfind : search.find text = some part) :
    (matching name search).transition fuel pos =
      .done ((pos.ahead (byteLength part)).succeed (String.ofList part)) := by
  have hempty : text.isEmpty = false := by simpa using hne
  simp only [matching, onRemainder, direct, hpos, Run.ofOption, Run.map, hempty, hfind,
    Bool.false_eq_true, if_false]
  rfl

/-- Where a search finds nothing a pattern parser fails and names what it looks for. -/
theorem matching_mismatch (name : String) {search : Search} {pos : Position}
    (hpos : pos.remainder? = some text) (hne : text ≠ []) (hfind : search.find text = none) :
    (matching name search).transition fuel pos =
      .done (pos.fail (Failure.patternMismatch pos.index name)) := by
  have hempty : text.isEmpty = false := by simpa using hne
  simp only [matching, onRemainder, direct, hpos, Run.ofOption, Run.map, hempty, hfind,
    Bool.false_eq_true, if_false]

/-- A pattern takes what a search finds at the beginning of the text. -/
theorem matching_takes (name : String) {search : Search} {word : String}
    (h : word.toList ++ rest ≠ []) (hfind : search.find (word.toList ++ rest) = some word.toList) :
    (matching name search).Takes fuel word.toList rest word := by
  intro pos hpos
  rw [matching_found name hpos h hfind, String.ofList_toList]

end Leaves

section Rows

variable {part part' rest text : Text} {value : α} {value' : β}

/-- Mapping takes the same part. -/
theorem Takes.map {p : Parser α} (h : p.Takes fuel part rest value) (f : α → β) :
    (p.map f).Takes fuel part rest (f value) := by
  intro pos hpos
  rw [map_transition, h pos hpos]
  rfl

/-- Mapping refuses the same texts. -/
theorem Refuses.map {p : Parser α} (h : p.Refuses fuel text) (f : α → β) :
    (p.map f).Refuses fuel text := by
  intro pos hpos
  obtain ⟨next, e, hrun⟩ := h pos hpos
  exact ⟨next, e, by rw [map_transition, hrun]; rfl⟩

/-- Rewording takes the same part. -/
theorem Takes.reword {p : Parser α} (h : p.Takes fuel part rest value)
    (message : Failure → String) : (p.reword message).Takes fuel part rest value := by
  intro pos hpos
  rw [reword_transition, h pos hpos]
  rfl

/-- A chain takes what its parsers take one after another. -/
theorem Takes.chain {p : Parser α} {f : α → Parser β} (h : p.Takes fuel part (part' ++ rest) value)
    (h' : (f value).Takes fuel part' rest value') :
    (p.chain f).Takes fuel (part ++ part') rest value' := by
  intro pos hpos
  rw [List.append_assoc] at hpos
  rw [chain_transition, h pos hpos, byteLength_append, ← Position.ahead_ahead]
  exact h' _ (Position.remainder?_ahead hpos)

/-- A chain whose next parser just succeeds takes what its first parser takes. -/
theorem Takes.chain_success {p : Parser α} {f : α → Parser β} (h : p.Takes fuel part rest value)
    (hf : f value = success value') : (p.chain f).Takes fuel part rest value' := by
  have hnext : (f value).Takes fuel [] rest value' := by
    rw [hf]
    exact success_takes value'
  have hwhole : (p.chain f).Takes fuel (part ++ []) rest value' := h.chain hnext
  rwa [List.append_nil] at hwhole

/-- A chain refuses what its first parser refuses. -/
theorem Refuses.chain {p : Parser α} (h : p.Refuses fuel text) (f : α → Parser β) :
    (p.chain f).Refuses fuel text := by
  intro pos hpos
  obtain ⟨next, e, hrun⟩ := h pos hpos
  exact ⟨next, e, by rw [chain_transition, hrun]; rfl⟩

/-- A chain refuses a text if its second parser refuses what the first one leaves. -/
theorem Takes.chain_refuses {p : Parser α} {f : α → Parser β} (h : p.Takes fuel part text value)
    (h' : (f value).Refuses fuel text) : (p.chain f).Refuses fuel (part ++ text) := by
  intro pos hpos
  obtain ⟨next, e, hrun⟩ := h' _ (Position.remainder?_ahead hpos)
  exact ⟨next, e, by rw [chain_transition, h pos hpos]; exact hrun⟩

/-- Two parsers in a row. -/
theorem Takes.followedBy {p : Parser α} {q : Parser β} (h : p.Takes fuel part (part' ++ rest) value)
    (h' : q.Takes fuel part' rest value') :
    (p.followedBy q).Takes fuel (part ++ part') rest (value, value') := by
  rw [followedBy_eq_chain]
  exact h.chain (h'.map _)

/-- Two parsers in a row refuse what the first one refuses. -/
theorem Refuses.followedBy {p : Parser α} (h : p.Refuses fuel text) (q : Parser β) :
    (p.followedBy q).Refuses fuel text := by
  rw [followedBy_eq_chain]
  exact h.chain _

/-- Two parsers in a row refuse a text if the second one refuses what the first one leaves. -/
theorem Takes.followedBy_refuses {p : Parser α} {q : Parser β} (h : p.Takes fuel part text value)
    (h' : q.Refuses fuel text) : (p.followedBy q).Refuses fuel (part ++ text) := by
  rw [followedBy_eq_chain]
  exact h.chain_refuses (h'.map _)

/-- Two parsers in a row with the value of the first. -/
theorem Takes.skip {p : Parser α} {q : Parser β} (h : p.Takes fuel part (part' ++ rest) value)
    (h' : q.Takes fuel part' rest value') : (p.skip q).Takes fuel (part ++ part') rest value :=
  (h.followedBy h').map Prod.fst

/-- Two parsers in a row with the value of the first refuse what the first one refuses. -/
theorem Refuses.skip {p : Parser α} (h : p.Refuses fuel text) (q : Parser β) :
    (p.skip q).Refuses fuel text :=
  (h.followedBy q).map Prod.fst

/-- Two parsers in a row with the value of the second. -/
theorem Takes.skipLeft {p : Parser α} {q : Parser β} (h : p.Takes fuel part (part' ++ rest) value)
    (h' : q.Takes fuel part' rest value') :
    (p.skipLeft q).Takes fuel (part ++ part') rest value' := by
  rw [skipLeft_eq_chain]
  exact h.chain h'

/-- Two parsers in a row with the value of the second refuse what the first one refuses. -/
theorem Refuses.skipLeft {p : Parser α} (h : p.Refuses fuel text) (q : Parser β) :
    (p.skipLeft q).Refuses fuel text := by
  rw [skipLeft_eq_chain]
  exact h.chain _

/-- Content between delimiters. -/
theorem Takes.between {l : Parser α} {r : Parser β} {c : Parser γ} {left right : Text} {opened : α}
    {closed : β} {content : γ} (hl : l.Takes fuel left (part ++ (right ++ rest)) opened)
    (hc : c.Takes fuel part (right ++ rest) content) (hr : r.Takes fuel right rest closed) :
    (Parser.between l r c).Takes fuel (left ++ part ++ right) rest content :=
  (hl.skipLeft hc).skip hr

end Rows

section Alternatives

variable {part rest text : Text} {value : α}

/-- The first of two alternatives. -/
theorem Takes.orElse {p : Parser α} (h : p.Takes fuel part rest value) (q : Parser α) :
    (p.orElse q).Takes fuel part rest value := by
  intro pos hpos
  rw [orElse_of_not_fails (h.not_fails hpos), h pos hpos]

/-- The second of two alternatives, if the first refuses. -/
theorem Refuses.orElse_takes {p q : Parser α} (h : p.Refuses fuel (part ++ rest))
    (h' : q.Takes fuel part rest value) : (p.orElse q).Takes fuel part rest value := by
  intro pos hpos
  rw [orElse_of_fails (h pos hpos) (h'.not_fails hpos), h' pos hpos]

/-- A choice takes what one of its alternatives takes if all earlier ones refuse. -/
theorem choice_takes {before after : List (Parser α)} {p : Parser α}
    (hbefore : ∀ q ∈ before, q.Refuses fuel (part ++ rest)) (h : p.Takes fuel part rest value) :
    (choice (before ++ p :: after)).Takes fuel part rest value := by
  intro pos hpos
  rw [choice_of_first (fun q hq => hbefore q hq pos hpos) (h.not_fails hpos), h pos hpos]

/-- A choice refuses what all its alternatives refuse. -/
theorem choice_refuses {ps : List (Parser α)} (h : ∀ p ∈ ps, p.Refuses fuel text) :
    (choice ps).Refuses fuel text := by
  intro pos hpos
  by_cases hps : ps = []
  · subst hps
    exact ⟨_, _, rfl⟩
  · obtain ⟨_, _, _, next, e, _, _, hchoice⟩ := exists_furthest hps fun p hp => h p hp pos hpos
    exact ⟨next, e, hchoice⟩

/-- Of words none of which begins another one, a choice takes any. -/
theorem choice_literals_takes {words : List String} (hfree : PrefixFree words) {word : String}
    (h : word ∈ words) : (choice (words.map literal)).Takes fuel word.toList rest word := by
  obtain ⟨before, after, hsplit, hfirst⟩ := List.eq_append_cons_of_mem h
  rw [hsplit, List.map_append, List.map_cons]
  apply choice_takes
  · intro q hq
    obtain ⟨other, hother, heq⟩ := List.mem_map.1 hq
    have hmem : other ∈ words := by
      rw [hsplit]
      exact List.mem_append_left _ hother
    have hne : other ≠ word := fun hsame => hfirst (hsame ▸ hother)
    rw [← heq]
    apply literal_refuses
    intro hstart
    -- Both words begin the text, so the shorter one begins the longer one.
    rcases List.prefix_or_prefix_of_prefix hstart (List.prefix_append _ rest) with hle | hle
    · exact hne (hfree.2 other hmem word h hle)
    · exact hne (hfree.2 word h other hmem hle).symm
  · exact literal_takes (List.append_ne_nil_of_left_ne_nil (hfree.ne_nil h) rest)

/-- A choice of words refuses a text that begins with none of them. -/
theorem choice_literals_refuses {words : List String}
    (h : ∀ word ∈ words, ¬ word.toList <+: text) :
    (choice (words.map literal)).Refuses fuel text := by
  apply choice_refuses
  intro p hp
  obtain ⟨word, hword, heq⟩ := List.mem_map.1 hp
  rw [← heq]
  exact literal_refuses (h word hword)

/-- An optional parser takes what the parser takes. -/
theorem Takes.optional {p : Parser α} (h : p.Takes fuel part rest value) :
    p.optional.Takes fuel part rest (some value) := by
  intro pos hpos
  rw [optional_transition, h pos hpos]
  rfl

/-- An optional parser takes nothing in front of what the parser refuses. -/
theorem Refuses.optional {p : Parser α} (h : p.Refuses fuel rest) :
    p.optional.Takes fuel [] rest none := by
  intro pos hpos
  obtain ⟨next, e, hrun⟩ := h pos hpos
  rw [optional_transition, hrun]
  rfl

end Alternatives

section Repetition

variable {ι : Type} {written : ι → Text} {value : ι → α} {rest : Text}

/-- A repetition takes items one after another up to a rest that its parser refuses. -/
theorem repeatFrom_takes {p : Parser α} {items : List ι}
    (hitems : ∀ before x after, items = before ++ x :: after →
      p.Takes fuel (written x) (after.flatMap written ++ rest) (value x))
    (hwritten : ∀ x ∈ items, written x ≠ []) (hrest : p.Refuses fuel rest) {rounds : Nat}
    (hrounds : items.length < rounds) {pos : Position}
    (hpos : pos.remainder? = some (items.flatMap written ++ rest)) :
    p.repeatFrom fuel rounds pos =
      .done (items.map value, pos.ahead (byteLength (items.flatMap written))) := by
  induction items generalizing rounds pos with
  | nil =>
    obtain ⟨n, rfl⟩ : ∃ n, rounds = n + 1 := ⟨rounds - 1, by simp at hrounds; omega⟩
    obtain ⟨next, e, hrun⟩ := hrest pos hpos
    exact repeatFrom_of_fail hrun n
  | cons x items ih =>
    obtain ⟨n, rfl⟩ : ∃ n, rounds = n + 1 := ⟨rounds - 1, by simp at hrounds; omega⟩
    rw [List.flatMap_cons, List.append_assoc] at hpos
    have hmoved : (pos.ahead (byteLength (written x))).index ≠ pos.index := by
      have := mt byteLength_eq_zero.1 (hwritten x List.mem_cons_self)
      rw [Position.ahead_index]
      omega
    have hn : items.length < n := by simpa using hrounds
    have hlater := ih
      (fun before y after hsplit => hitems (x :: before) y after (by rw [hsplit]; rfl))
      (fun y hy => hwritten y (List.mem_cons_of_mem x hy)) hn (Position.remainder?_ahead hpos)
    rw [repeatFrom_of_move (hitems [] x items rfl pos hpos) hmoved, hlater, Position.ahead_ahead,
      List.flatMap_cons, byteLength_append]
    rfl

/-- A repetition takes likewise. -/
theorem many_takes {p : Parser α} {items : List ι}
    (hitems : ∀ before x after, items = before ++ x :: after →
      p.Takes fuel (written x) (after.flatMap written ++ rest) (value x))
    (hwritten : ∀ x ∈ items, written x ≠ []) (hrest : p.Refuses fuel rest)
    (hfuel : items.length < fuel) :
    p.many.Takes fuel (items.flatMap written) rest (items.map value) := by
  intro pos hpos
  rw [many_transition, repeatFrom_takes hitems hwritten hrest hfuel hpos]
  rfl

/-- A sequence of as many copies of a parser as there are items takes them one after another. -/
theorem sequence_takes {p : Parser α} {items : List ι}
    (hitems : ∀ before x after, items = before ++ x :: after →
      p.Takes fuel (written x) (after.flatMap written ++ rest) (value x)) :
    (sequence (List.replicate items.length p)).Takes fuel (items.flatMap written) rest
      (items.map value) := by
  induction items with
  | nil => exact success_takes []
  | cons x items ih =>
    have hfirst := hitems [] x items rfl
    have hlater := ih fun before y after hsplit =>
      hitems (x :: before) y after (by rw [hsplit]; rfl)
    rw [List.length_cons, List.replicate_succ, sequence_cons]
    exact hfirst.chain (hlater.map _)

/-- Separators and items are taken in turns up to a rest where no further turn is. -/
theorem separatedFrom_takes {separator : Parser β} {p : Parser α} {joint : ι → Text}
    {joined : ι → β} {items : List ι}
    (hitems : ∀ before x after, items = before ++ x :: after →
      separator.Takes fuel (joint x) (written x ++ (turns joint written after ++ rest)) (joined x) ∧
        p.Takes fuel (written x) (turns joint written after ++ rest) (value x))
    (hwritten : ∀ x ∈ items, written x ≠ []) (hrest : (separator.skipLeft p).Refuses fuel rest)
    {rounds : Nat} (hrounds : items.length < rounds) {pos : Position}
    (hpos : pos.remainder? = some (turns joint written items ++ rest)) :
    separatedFrom separator p fuel rounds pos =
      .done (items.map value,
        pos.ahead (byteLength (turns joint written items))) := by
  rw [separatedFrom_eq_repeatFrom]
  refine repeatFrom_takes ?_ ?_ hrest hrounds hpos
  · intro before x after hsplit
    obtain ⟨hjoint, hvalue⟩ := hitems before x after hsplit
    exact hjoint.skipLeft hvalue
  · intro x hx
    exact List.append_ne_nil_of_right_ne_nil (joint x) (hwritten x hx)

/-- A separated list takes its first item and then separators and items in turns. -/
theorem sepBy1_takes {separator : Parser β} {p : Parser α} {joint : ι → Text} (joined : ι → β)
    {part : Text} {first : α} {items : List ι}
    (hfirst : p.Takes fuel part (turns joint written items ++ rest) first)
    (hitems : ∀ before x after, items = before ++ x :: after →
      separator.Takes fuel (joint x) (written x ++ (turns joint written after ++ rest)) (joined x) ∧
        p.Takes fuel (written x) (turns joint written after ++ rest) (value x))
    (hwritten : ∀ x ∈ items, written x ≠ []) (hrest : (separator.skipLeft p).Refuses fuel rest)
    (hfuel : items.length < fuel) :
    (sepBy1 separator p).Takes fuel (part ++ turns joint written items) rest
      (first :: items.map value) := by
  intro pos hpos
  rw [List.append_assoc] at hpos
  have hlater := separatedFrom_takes hitems hwritten hrest hfuel (Position.remainder?_ahead hpos)
  rw [sepBy1_transition, separated, hfirst pos hpos]
  simp only [Run.bind, Position.succeed]
  rw [hlater, Position.ahead_ahead, ← byteLength_append]
  rfl

end Repetition

end Parser

end ParserCombinators
