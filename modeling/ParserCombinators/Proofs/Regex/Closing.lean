import Mathlib.Tactic.SplitIfs
import ParserCombinators.Regex.Escape

/-!
# Reading in front of a closing parenthesis

A piece of a regular expression that is read at the end of a text is read alike when a closing
parenthesis stands behind the text. The parenthesis is left over, unless a comment takes it. A
reader that refuses the text because it ends too early may go on with the parenthesis; what it
leaves then leads nowhere.
-/

namespace ParserCombinators.Regex

/-- The second text is the first one, with or without a closing parenthesis behind it. -/
inductive Closes : Text → Text → Prop
  | ended : Closes [] []
  | mark : Closes [] [')']
  | cons (c : Char) {text text' : Text} : Closes text text' → Closes (c :: text) (c :: text')

namespace Closes

/-- A closing parenthesis behind a text. -/
theorem append_mark (text : Text) : Closes text (text ++ [')']) := by
  induction text with
  | nil => exact .mark
  | cons c text ih => exact .cons c ih

variable {text text' : Text}

/-- Skipping layout. A comment at the end takes the parenthesis. -/
theorem skipLayout (h : Closes text text') (inComment : Bool) :
    Closes (skipLayout inComment text) (skipLayout inComment text') := by
  induction h generalizing inComment with
  | ended => exact .ended
  | mark =>
    cases inComment with
    | true => exact .ended
    | false => exact .mark
  | cons c h ih =>
    simp only [Regex.skipLayout]
    split_ifs
    · exact ih _
    · exact ih _
    · exact ih _
    · exact .cons c h

/-- Skipping layout in verbose mode. -/
theorem skip (h : Closes text text') (verbose : Bool) :
    Closes (skip verbose text) (skip verbose text') := by
  cases verbose with
  | true => exact h.skipLayout false
  | false => exact h

/-- Dropping characters other than the parenthesis. -/
theorem dropWhile (h : Closes text text') {p : Char → Bool} (hp : p ')' = false) :
    Closes (text.dropWhile p) (text'.dropWhile p) := by
  induction h with
  | ended => exact .ended
  | mark =>
    rw [List.dropWhile_cons_of_neg (by simp [hp])]
    exact .mark
  | cons c h ih =>
    cases hc : p c with
    | true => simpa only [List.dropWhile_cons_of_pos hc] using ih
    | false =>
      rw [List.dropWhile_cons_of_neg (by simp [hc]), List.dropWhile_cons_of_neg (by simp [hc])]
      exact .cons c h

end Closes

/-- The second answer is there wherever the first is, and they are related. Where only the second
is there it leads nowhere. -/
inductive Tracks {α β : Type} (related : α → β → Prop) (dead : β → Prop) :
    Option α → Option β → Prop
  | read {a : α} {b : β} : related a b → Tracks related dead (some a) (some b)
  | refused : Tracks related dead none none
  | stuck {b : β} : dead b → Tracks related dead none (some b)

namespace Tracks

variable {α β γ δ : Type} {related : α → β → Prop} {dead : β → Prop} {o : Option α} {o' : Option β}

/-- Going on in related ways from related answers. -/
theorem bind {related' : γ → δ → Prop} {dead' : δ → Prop} {f : α → Option γ} {g : β → Option δ}
    (h : Tracks related dead o o') (hread : ∀ a b, related a b → Tracks related' dead' (f a) (g b))
    (hstuck : ∀ b, dead b → Tracks related' dead' none (g b)) :
    Tracks related' dead' (o.bind f) (o'.bind g) := by
  cases h with
  | read hab => exact hread _ _ hab
  | refused => exact .refused
  | stuck hb => exact hstuck _ hb

/-- Applying functions to related answers. -/
theorem map {related' : γ → δ → Prop} {dead' : δ → Prop} {f : α → γ} {g : β → δ}
    (h : Tracks related dead o o') (hread : ∀ a b, related a b → related' (f a) (g b))
    (hstuck : ∀ b, dead b → dead' (g b)) : Tracks related' dead' (o.map f) (o'.map g) := by
  cases h with
  | read hab => exact .read (hread _ _ hab)
  | refused => exact .refused
  | stuck hb => exact .stuck (hstuck _ hb)

/-- Going on with the same value. -/
theorem bind_same {related' : γ → δ → Prop} {dead' : δ → Prop} (o : Option α) {f : α → Option γ}
    {g : α → Option δ} (h : ∀ a, Tracks related' dead' (f a) (g a)) :
    Tracks related' dead' (o.bind f) (o.bind g) := by
  cases o with
  | none => exact .refused
  | some a => exact h a

/-- Where no answer is dead, every dead answer leads anywhere. -/
theorem of_never (h : Tracks related (fun _ => False) o o') : Tracks related dead o o' := by
  cases h with
  | read hab => exact .read hab
  | refused => exact .refused
  | stuck hb => exact hb.elim

end Tracks

/-- The same value, with corresponding texts behind it. -/
def SameValue {α : Type} (first second : α × Text) : Prop :=
  first.1 = second.1 ∧ Closes first.2 second.2

/-- No answer is dead. -/
abbrev Never {α : Type} : α → Prop := fun _ => False

/-- Nothing is left to be read. -/
def AtEnd {α : Type} (found : α × Text) : Prop :=
  found.2 = []

section Layout

variable {text text' : Text}

/-- Nothing is skipped at the end of the text. -/
theorem skip_nil (verbose : Bool) : skip verbose [] = [] := by
  cases verbose <;> rfl

/-- Layout is not made longer by skipping it. -/
theorem length_skipLayout_le (inComment : Bool) (text : Text) :
    (skipLayout inComment text).length ≤ text.length := by
  induction text generalizing inComment with
  | nil => exact Nat.le_refl 0
  | cons c rest ih =>
    simp only [skipLayout]
    split_ifs
    · exact Nat.le_succ_of_le (ih _)
    · exact Nat.le_succ_of_le (ih _)
    · exact Nat.le_succ_of_le (ih _)
    · exact Nat.le_refl _

/-- Skipping layout makes no text longer. -/
theorem length_skip_le (verbose : Bool) (text : Text) :
    (skip verbose text).length ≤ text.length := by
  cases verbose with
  | true => exact length_skipLayout_le false text
  | false => exact Nat.le_refl _

/-- Behind layout either both texts end, or the parenthesis stands at the end of the first, or both
go on with the same character. -/
theorem Closes.skip_cases (h : Closes text text') (verbose : Bool) :
    (Regex.skip verbose text = [] ∧ Regex.skip verbose text' = []) ∨
      (Regex.skip verbose text = [] ∧ Regex.skip verbose text' = [')']) ∨
      ∃ c rest rest', Regex.skip verbose text = c :: rest ∧ Regex.skip verbose text' = c :: rest' ∧
        Closes rest rest' ∧ rest.length < text.length ∧ rest'.length < text'.length := by
  have hle := length_skip_le verbose text
  have hle' := length_skip_le verbose text'
  have hskip := h.skip verbose
  generalize Regex.skip verbose text = t at *
  generalize Regex.skip verbose text' = t' at *
  cases hskip with
  | ended => exact .inl ⟨rfl, rfl⟩
  | mark => exact .inr (.inl ⟨rfl, rfl⟩)
  | cons c hrest => exact .inr (.inr ⟨c, _, _, rfl, rfl, hrest, hle, hle'⟩)

end Layout

section Escapes

variable {mode : Mode} {text text' : Text}

/-- A fixed number of hexadecimal digits. -/
theorem readHexDigits_closes (verbose : Bool) (n value : Nat) (h : Closes text text') :
    Tracks SameValue Never (readHexDigits verbose n value text)
      (readHexDigits verbose n value text') := by
  induction n generalizing value text text' with
  | zero => exact .read ⟨rfl, h⟩
  | succ n ih =>
    rcases h.skip_cases verbose with ⟨ht, ht'⟩ | ⟨ht, ht'⟩ | ⟨c, rest, rest', ht, ht', hrest, _, _⟩
    all_goals simp only [readHexDigits, ht, ht']
    · exact .refused
    · exact .refused
    · exact .bind_same _ fun d => ih _ hrest

/-- One round of reading hexadecimal digits up to a brace. -/
theorem readHexBrace_cons {verbose : Bool} {c : Char} {rest : Text}
    (ht : skip verbose text = c :: rest) (fuel : Nat) (started : Bool) (value : Nat) :
    readHexBrace verbose (fuel + 1) started value text =
      if c = '\x7d' then if started then some (value, rest) else none
      else (hexDigit? c).bind fun d => readHexBrace verbose fuel true (16 * value + d) rest := by
  simp only [readHexBrace, ht]
  split <;> simp_all

/-- Hexadecimal digits up to a brace. -/
theorem readHexBrace_closes (verbose : Bool) {fuel fuel' : Nat} (started : Bool) (value : Nat)
    (h : Closes text text') (hfuel : text.length < fuel) (hfuel' : text'.length < fuel') :
    Tracks SameValue Never (readHexBrace verbose fuel started value text)
      (readHexBrace verbose fuel' started value text') := by
  induction fuel generalizing fuel' started value text text' with
  | zero => omega
  | succ fuel ih =>
    obtain ⟨fuel', rfl⟩ : ∃ n, fuel' = n + 1 := ⟨fuel' - 1, by omega⟩
    rcases h.skip_cases verbose with ⟨ht, ht'⟩ | ⟨ht, ht'⟩ |
      ⟨c, rest, rest', ht, ht', hrest, hlt, hlt'⟩
    · simp only [readHexBrace, ht, ht']
      exact .refused
    · simp only [readHexBrace, ht, ht']
      exact .refused
    · rw [readHexBrace_cons ht, readHexBrace_cons ht']
      split_ifs
      · exact .read ⟨rfl, hrest⟩
      · exact .refused
      · exact .bind_same _ fun d => ih _ _ hrest (by omega) (by omega)

/-- The character of a code point that was read. -/
def codeAtom (code : Nat × Text) : Option (Atom × Text) :=
  (charOfCode? code.1).bind fun c => some (.literal c, code.2)

/-- A code point in braces. -/
theorem readHex_brace {rest : Text} (ht : skip mode.verbose text = '\x7b' :: rest) (digits : Nat) :
    readHex mode digits text =
      (readHexBrace mode.verbose (rest.length + 1) false 0 rest).bind codeAtom := by
  simp only [readHex, ht]
  rfl

/-- A code point without braces. -/
theorem readHex_digits (ht : (skip mode.verbose text).head? ≠ some '\x7b') (digits : Nat) :
    readHex mode digits text =
      ((readHexDigits mode.verbose digits 0 (skip mode.verbose text)).bind
        (fixedCode? mode digits)).bind codeAtom := by
  rw [readHex]
  split
  · next h => exact absurd (by rw [h]; rfl) ht
  · rfl

/-- Code points that correspond have the same character. -/
theorem codeAtom_closes {code code' : Nat × Text} (h : SameValue code code') :
    Tracks SameValue Never (codeAtom code) (codeAtom code') := by
  rw [codeAtom, codeAtom, h.1]
  exact .bind_same _ fun c => .read ⟨rfl, h.2⟩

/-- Code points that correspond are both characters or none is. -/
theorem fixedCode?_closes (mode : Mode) (digits : Nat) {code code' : Nat × Text}
    (h : SameValue code code') :
    Tracks SameValue Never (fixedCode? mode digits code) (fixedCode? mode digits code') := by
  simp only [fixedCode?, h.1]
  split_ifs
  · exact .read h
  · exact .refused

/-- A code point. -/
theorem readHex_closes (mode : Mode) (digits : Nat) (h : Closes text text') :
    Tracks SameValue Never (readHex mode digits text) (readHex mode digits text') := by
  have hdigits : (skip mode.verbose text).head? ≠ some '\x7b' →
      (skip mode.verbose text').head? ≠ some '\x7b' →
      Tracks SameValue Never (readHex mode digits text) (readHex mode digits text') := by
    intro ht ht'
    have hfixed := (readHexDigits_closes mode.verbose digits 0 (h.skip mode.verbose)).bind
      (fun _ _ => fixedCode?_closes mode digits) fun _ => False.elim
    rw [readHex_digits ht, readHex_digits ht']
    exact hfixed.bind (fun _ _ => codeAtom_closes) fun _ => False.elim
  rcases h.skip_cases mode.verbose with ⟨ht, ht'⟩ | ⟨ht, ht'⟩ |
    ⟨c, rest, rest', ht, ht', hrest, _, _⟩
  · exact hdigits (by simp [ht]) (by simp [ht'])
  · exact hdigits (by simp [ht]) (by simp [ht'])
  · by_cases hc : c = '\x7b'
    · subst hc
      rw [readHex_brace ht, readHex_brace ht']
      exact (readHexBrace_closes mode.verbose false 0 hrest (Nat.lt_succ_self _)
        (Nat.lt_succ_self _)).bind (fun _ _ => codeAtom_closes) fun _ => False.elim
    · exact hdigits (by simp [ht, hc]) (by simp [ht', hc])

/-- One round of reading a name in braces. -/
theorem readBraced_cons {verbose : Bool} {c : Char} {rest : Text}
    (ht : skip verbose text = c :: rest) (allowed : Char → Bool) (fuel : Nat) (name : Text) :
    readBraced verbose allowed (fuel + 1) name text =
      if c = '\x7d' then some (name.reverse, rest)
      else if allowed c then readBraced verbose allowed fuel (c :: name) rest
      else none := by
  simp only [readBraced, ht]
  split <;> simp_all

/-- No name in braces ends with the text. -/
theorem readBraced_nil (verbose : Bool) (allowed : Char → Bool) (fuel : Nat) (name : Text) :
    readBraced verbose allowed fuel name [] = none := by
  cases fuel with
  | zero => rfl
  | succ fuel => rw [readBraced, skip_nil]

/-- A name in braces. A parenthesis may belong to it, but then it goes on to the end. -/
theorem readBraced_closes (verbose : Bool) (allowed : Char → Bool) {fuel fuel' : Nat}
    (name : Text) (h : Closes text text') (hfuel : text.length < fuel)
    (hfuel' : text'.length < fuel') :
    Tracks SameValue Never (readBraced verbose allowed fuel name text)
      (readBraced verbose allowed fuel' name text') := by
  induction fuel generalizing fuel' name text text' with
  | zero => omega
  | succ fuel ih =>
    obtain ⟨fuel', rfl⟩ : ∃ n, fuel' = n + 1 := ⟨fuel' - 1, by omega⟩
    rcases h.skip_cases verbose with ⟨ht, ht'⟩ | ⟨ht, ht'⟩ |
      ⟨c, rest, rest', ht, ht', hrest, hlt, hlt'⟩
    · simp only [readBraced, ht, ht']
      exact .refused
    · have hmark : readBraced verbose allowed (fuel' + 1) name text' = none := by
        rw [readBraced_cons ht', if_neg (by decide), readBraced_nil, ite_self]
      rw [hmark, readBraced, ht]
      exact .refused
    · rw [readBraced_cons ht, readBraced_cons ht']
      split_ifs
      · exact .read ⟨rfl, hrest⟩
      · exact ih _ hrest (by omega) (by omega)
      · exact .refused

/-- The atom behind which nothing more can be read: at the end of the text, or in front of a brace
that a parenthesis follows. Only a word boundary is taken there. -/
def DeadAtom (mode : Mode) (found : Atom × Text) : Prop :=
  AtEnd found ∨ found.1 = .look (.wordBoundary mode.unicode) ∧
    ∃ rest, found.2 = '\x7b' :: rest ∧ skip mode.verbose rest = [')']

/-- A word boundary with a brace behind it. -/
theorem readBoundary_brace {c : Char} {text rest : Text}
    (ht : skip mode.verbose text = c :: rest) : readBoundary mode ('\x7b' :: text) =
      if isBoundaryNameChar c then
        (readBraced mode.verbose isBoundaryNameChar (rest.length + 2) [] (c :: rest)).bind
          fun found => (namedBoundary? mode.unicode found.1).bind fun condition =>
            some (.look condition, found.2)
      else some (.look (.wordBoundary mode.unicode), '\x7b' :: text) := by
  simp only [readBoundary, ht]
  rfl

/-- A word boundary. -/
theorem readBoundary_closes (mode : Mode) (h : Closes text text') :
    Tracks SameValue (DeadAtom mode) (readBoundary mode text) (readBoundary mode text') := by
  cases h with
  | ended => exact .read ⟨rfl, .ended⟩
  | mark => exact .read ⟨rfl, .mark⟩
  | @cons c text text' h =>
    by_cases hc : c = '\x7b'
    · subst hc
      rcases h.skip_cases mode.verbose with ⟨ht, ht'⟩ | ⟨ht, ht'⟩ |
        ⟨d, rest, rest', ht, ht', hrest, hlt, hlt'⟩
      · simp only [readBoundary, ht, ht']
        exact .refused
      · rw [readBoundary_brace ht']
        simp only [readBoundary, ht]
        exact .stuck (.inr ⟨rfl, text', rfl, ht'⟩)
      · rw [readBoundary_brace ht, readBoundary_brace ht']
        split_ifs
        · refine (readBraced_closes mode.verbose isBoundaryNameChar [] (.cons d hrest)
            (Nat.lt_succ_self _) (Nat.lt_succ_self _)).bind ?_ fun _ => False.elim
          rintro found found' ⟨hname, hafter⟩
          rw [hname]
          exact .bind_same _ fun condition => .read ⟨rfl, hafter⟩
        · exact .read ⟨rfl, .cons _ h⟩
    · have hplain : ∀ rest, readBoundary mode (c :: rest) =
          some (.look (.wordBoundary mode.unicode), c :: rest) := by
        intro rest
        rw [readBoundary]
        intro after heq
        exact hc (List.cons.inj heq).1
      rw [hplain, hplain]
      exact .read ⟨rfl, .cons c h⟩

/-- What asks for a property, from its first character on. -/
theorem readPropertyName_cons {verbose : Bool} {c : Char} {rest : Text}
    (ht : skip verbose text = c :: rest) :
    readPropertyName verbose text =
      if c = '\x7b' then readBraced verbose (fun _ => true) (rest.length + 1) [] rest
      else if c = '\\' then none
      else some ([c], rest) := by
  simp only [readPropertyName, ht]
  split <;> simp_all

/-- What asks for a property. At the end the parenthesis is taken for the letter of one. -/
theorem readPropertyName_closes (verbose : Bool) (h : Closes text text') :
    Tracks SameValue AtEnd (readPropertyName verbose text) (readPropertyName verbose text') := by
  rcases h.skip_cases verbose with ⟨ht, ht'⟩ | ⟨ht, ht'⟩ | ⟨c, rest, rest', ht, ht', hrest, _, _⟩
  · simp only [readPropertyName, ht, ht']
    exact .refused
  · rw [readPropertyName_cons ht', if_neg (by decide), if_neg (by decide)]
    simp only [readPropertyName, ht]
    exact .stuck rfl
  · rw [readPropertyName_cons ht, readPropertyName_cons ht']
    split_ifs
    · exact (readBraced_closes verbose _ [] hrest (Nat.lt_succ_self _)
        (Nat.lt_succ_self _)).of_never
    · exact .refused
    · exact .read ⟨rfl, hrest⟩

/-- The class of a property. -/
theorem readProperty_closes (mode : Mode) (negated : Bool) (h : Closes text text') :
    Tracks SameValue (DeadAtom mode) (readProperty mode negated text)
      (readProperty mode negated text') := by
  refine (readPropertyName_closes mode.verbose h).bind ?_ ?_
  · rintro ⟨name, rest⟩ ⟨_, rest'⟩ ⟨rfl, hrest⟩
    exact .bind_same _ fun members => .read ⟨rfl, hrest⟩
  · rintro ⟨name, rest⟩ hend
    dsimp only
    cases mode.propertyClass? negated name with
    | none => exact .refused
    | some members => exact .stuck (.inl hend)

/-- An escape. A backslash at the end takes the parenthesis for its own. -/
theorem readEscape_closes (mode : Mode) (h : Closes text text') :
    Tracks SameValue (DeadAtom mode) (readEscape mode text) (readEscape mode text') := by
  cases h with
  | ended => exact .refused
  | mark => exact .stuck (.inl rfl)
  | @cons c rest rest' h =>
    have hhex : ∀ digits, Tracks SameValue (DeadAtom mode) (readHex mode digits rest)
        (readHex mode digits rest') := fun digits => (readHex_closes mode digits h).of_never
    have hclass : ∀ members : Option CharSet, Tracks SameValue (DeadAtom mode)
        (members.map fun members => (Atom.set members, rest))
        (members.map fun members => (Atom.set members, rest')) := by
      intro members
      cases members with
      | none => exact .refused
      | some members => exact .read ⟨rfl, h⟩
    have hsymbol : Tracks SameValue (DeadAtom mode)
        (if c.toNat < 128 ∧ ¬ c.isAlphanum then some (Atom.literal c, rest) else none)
        (if c.toNat < 128 ∧ ¬ c.isAlphanum then some (Atom.literal c, rest') else none) := by
      split_ifs
      · exact .read ⟨rfl, h⟩
      · exact .refused
    simp only [readEscape]
    split
    all_goals first
      | exact hhex _
      | exact hclass _
      | exact readProperty_closes mode _ h
      | exact readBoundary_closes mode h
      | exact .read ⟨rfl, h⟩
      | exact hsymbol

end Escapes

section Lengths

variable {α β : Type} {n : Nat} {text : Text}

/-- At most so many characters are left. -/
def Leaves (n : Nat) (answer : Option (α × Text)) : Prop :=
  ∀ found ∈ answer, found.2.length ≤ n

/-- Going on with what is left. -/
theorem Leaves.bind {m : Nat} {answer : Option (α × Text)} {next : α × Text → Option (β × Text)}
    (h : Leaves m answer) (hnext : ∀ found, found.2.length ≤ m → Leaves n (next found)) :
    Leaves n (answer.bind next) := by
  cases answer with
  | none => intro found hfound; cases hfound
  | some found => exact hnext found (h found rfl)

/-- Nothing is left where there is no answer. -/
theorem leaves_none : Leaves n (none : Option (α × Text)) := by
  intro found hfound
  cases hfound

/-- What an answer leaves. -/
theorem leaves_some {a : α} {rest : Text} (h : rest.length ≤ n) : Leaves n (some (a, rest)) := by
  intro found hfound
  cases hfound
  exact h

/-- Hexadecimal digits are taken from the text. -/
theorem readHexDigits_leaves (verbose : Bool) (digits value : Nat) (h : text.length ≤ n) :
    Leaves n (readHexDigits verbose digits value text) := by
  induction digits generalizing value text with
  | zero => exact leaves_some h
  | succ digits ih =>
    have hle := length_skip_le verbose text
    rw [readHexDigits]
    split
    · exact leaves_none
    · next heq =>
      rw [heq, List.length_cons] at hle
      cases hexDigit? _ with
      | none => exact leaves_none
      | some d => exact ih _ (by omega)

/-- Hexadecimal digits in braces are taken from the text. -/
theorem readHexBrace_leaves (verbose : Bool) (fuel : Nat) (started : Bool) (value : Nat)
    (h : text.length ≤ n) : Leaves n (readHexBrace verbose fuel started value text) := by
  induction fuel generalizing started value text with
  | zero => exact leaves_none
  | succ fuel ih =>
    have hle := length_skip_le verbose text
    cases hskip : skip verbose text with
    | nil =>
      rw [readHexBrace, hskip]
      exact leaves_none
    | cons c rest =>
      rw [hskip, List.length_cons] at hle
      rw [readHexBrace_cons hskip]
      split_ifs
      · exact leaves_some (by omega)
      · exact leaves_none
      · cases hexDigit? c with
        | none => exact leaves_none
        | some d => exact ih _ _ (by omega)

/-- A code point is taken from the text. -/
theorem readHex_leaves (mode : Mode) (digits : Nat) (h : text.length ≤ n) :
    Leaves n (readHex mode digits text) := by
  have hle := length_skip_le mode.verbose text
  have hatom : ∀ code : Nat × Text, code.2.length ≤ n → Leaves n (codeAtom code) := by
    intro code hcode
    rw [codeAtom]
    cases charOfCode? code.1 with
    | none => exact leaves_none
    | some c => exact leaves_some hcode
  have hfixed : ∀ code : Nat × Text, code.2.length ≤ n → Leaves n (fixedCode? mode digits code) := by
    intro code hcode
    rw [fixedCode?]
    split_ifs
    · exact leaves_some hcode
    · exact leaves_none
  by_cases hbrace : (skip mode.verbose text).head? = some '\x7b'
  · obtain ⟨rest, ht⟩ := List.head?_eq_some_iff.1 hbrace
    rw [ht, List.length_cons] at hle
    rw [readHex_brace ht]
    exact (readHexBrace_leaves mode.verbose _ false 0 (by omega)).bind hatom
  · rw [readHex_digits hbrace]
    exact ((readHexDigits_leaves mode.verbose digits 0 (by omega)).bind hfixed).bind hatom

/-- A name in braces is taken from the text. -/
theorem readBraced_leaves (verbose : Bool) (allowed : Char → Bool) (fuel : Nat) (name : Text)
    (h : text.length ≤ n) : Leaves n (readBraced verbose allowed fuel name text) := by
  induction fuel generalizing name text with
  | zero => exact leaves_none
  | succ fuel ih =>
    have hle := length_skip_le verbose text
    cases hskip : skip verbose text with
    | nil =>
      rw [readBraced, hskip]
      exact leaves_none
    | cons c rest =>
      rw [hskip, List.length_cons] at hle
      rw [readBraced_cons hskip]
      split_ifs
      · exact leaves_some (by omega)
      · exact ih _ (by omega)
      · exact leaves_none

/-- A word boundary is taken from the text. -/
theorem readBoundary_leaves (mode : Mode) (h : text.length ≤ n) :
    Leaves n (readBoundary mode text) := by
  unfold readBoundary
  split
  · next rest =>
    have hle := length_skip_le mode.verbose rest
    rw [List.length_cons] at h
    split
    · exact leaves_none
    · next c name heq =>
      rw [heq] at hle
      split_ifs
      · have hname : (c :: name).length ≤ n := by omega
        refine (readBraced_leaves mode.verbose isBoundaryNameChar _ [] hname).bind ?_
        rintro ⟨found, after⟩ hafter
        dsimp only
        cases namedBoundary? mode.unicode found with
        | none => exact leaves_none
        | some condition => exact leaves_some hafter
      · exact leaves_some h
  · exact leaves_some h

/-- The class of a property is taken from the text. -/
theorem readProperty_leaves (mode : Mode) (negated : Bool) (h : text.length ≤ n) :
    Leaves n (readProperty mode negated text) := by
  have hle := length_skip_le mode.verbose text
  have hname : Leaves n (readPropertyName mode.verbose text) := by
    cases hskip : skip mode.verbose text with
    | nil =>
      rw [readPropertyName, hskip]
      exact leaves_none
    | cons c rest =>
      rw [hskip, List.length_cons] at hle
      rw [readPropertyName_cons hskip]
      split_ifs
      · exact readBraced_leaves mode.verbose _ _ [] (by omega)
      · exact leaves_none
      · exact leaves_some (by omega)
  refine hname.bind ?_
  rintro ⟨name, rest⟩ hrest
  dsimp only
  cases mode.propertyClass? negated name with
  | none => exact leaves_none
  | some members => exact leaves_some hrest

/-- An escape is taken from the text. -/
theorem readEscape_leaves (mode : Mode) (h : text.length ≤ n) :
    Leaves n (readEscape mode text) := by
  cases text with
  | nil => exact leaves_none
  | cons c rest =>
    rw [List.length_cons] at h
    have hrest : rest.length ≤ n := by omega
    have hclass : ∀ members : Option CharSet,
        Leaves n (members.map fun members => (Atom.set members, rest)) := by
      intro members
      cases members with
      | none => exact leaves_none
      | some members => exact leaves_some hrest
    have hsymbol : Leaves n
        (if c.toNat < 128 ∧ ¬ c.isAlphanum then some (Atom.literal c, rest) else none) := by
      split_ifs
      · exact leaves_some hrest
      · exact leaves_none
    simp only [readEscape]
    split
    all_goals first
      | exact readHex_leaves mode _ hrest
      | exact hclass _
      | exact readProperty_leaves mode _ hrest
      | exact readBoundary_leaves mode hrest
      | exact leaves_some hrest
      | exact hsymbol

end Lengths

section Counts

variable {text text' : Text}

/-- No digits are read where none stands. -/
theorem readDigits_stop (verbose : Bool) (fuel : Nat) (digits : Text) {text : Text}
    (h : ∀ c ∈ text.head?, c.isDigit = false) :
    readDigits verbose fuel digits text = (digits, text) := by
  cases fuel with
  | zero => rfl
  | succ fuel =>
    cases text with
    | nil => rfl
    | cons c rest => simp [readDigits, h c rfl]

/-- Decimal digits. -/
theorem readDigits_closes (verbose : Bool) {fuel fuel' : Nat} (digits : Text)
    (h : Closes text text') (hfuel : text.length ≤ fuel) (hfuel' : text'.length ≤ fuel') :
    SameValue (readDigits verbose fuel digits text) (readDigits verbose fuel' digits text') := by
  induction hlength : text.length using Nat.strongRecOn
    generalizing text text' fuel fuel' digits with
  | ind length ih =>
    cases h with
    | ended =>
      rw [readDigits_stop _ _ _ (by simp), readDigits_stop _ _ _ (by simp)]
      exact ⟨rfl, .ended⟩
    | mark =>
      have hdigit : ∀ c ∈ [')'].head?, c.isDigit = false := by
        intro c hc
        cases hc
        rfl
      rw [readDigits_stop _ _ _ (by simp), readDigits_stop _ _ _ hdigit]
      exact ⟨rfl, .mark⟩
    | @cons c rest rest' h =>
      have hle := length_skip_le verbose rest
      have hle' := length_skip_le verbose rest'
      rw [List.length_cons] at hfuel hfuel' hlength
      obtain ⟨fuel, rfl⟩ : ∃ n, fuel = n + 1 := ⟨fuel - 1, by omega⟩
      obtain ⟨fuel', rfl⟩ : ∃ n, fuel' = n + 1 := ⟨fuel' - 1, by omega⟩
      simp only [readDigits]
      split_ifs
      · exact ih _ (by omega) _ (h.skip verbose) (by omega) (by omega) rfl
      · exact ⟨rfl, .cons c h⟩

/-- Blanks in front of a parenthesis. -/
theorem Closes.dropBlanks (h : Closes text text') :
    Closes (text.dropWhile Unicode.isBlank) (text'.dropWhile Unicode.isBlank) :=
  h.dropWhile (by decide)

/-- A decimal number. -/
theorem readDecimal_closes (verbose : Bool) (h : Closes text text') :
    Tracks SameValue Never (readDecimal verbose text) (readDecimal verbose text') := by
  have hdigits := readDigits_closes verbose [] h.dropBlanks (Nat.le_refl _) (Nat.le_refl _)
  obtain ⟨hsame, hrest⟩ := hdigits
  simp only [readDecimal, hsame]
  split_ifs
  · exact .refused
  · exact .read ⟨rfl, hrest.dropBlanks.skip verbose⟩

/-- No number begins with a parenthesis. -/
theorem readDecimal_mark (verbose : Bool) : readDecimal verbose [')'] = none := by
  cases verbose <;> rfl

/-- The end of a count that has a greatest number. -/
def closeCount (least : Nat) (most : Nat × Text) : Option ((Nat × Option Nat) × Text) :=
  match most.2 with
  | '\x7d' :: rest => if least ≤ most.1 then some ((least, some most.1), rest) else none
  | _ => none

/-- Counts end at a brace, never at a parenthesis. -/
theorem closeCount_closes (least : Nat) {most most' : Nat × Text} (h : SameValue most most') :
    Tracks SameValue Never (closeCount least most) (closeCount least most') := by
  obtain ⟨most, rest⟩ := most
  obtain ⟨_, rest'⟩ := most'
  obtain ⟨rfl, hrest⟩ := h
  dsimp only [closeCount] at hrest ⊢
  cases hrest with
  | ended => exact .refused
  | mark => exact .refused
  | cons c hrest =>
    split
    · next heq =>
      obtain ⟨rfl, rfl⟩ := List.cons.inj heq
      split_ifs
      · exact .read ⟨rfl, hrest⟩
      · exact .refused
    · next hne =>
      split
      · next heq => exact absurd (congrArg (· :: _) (List.cons.inj heq).1) (hne _)
      · exact .refused

/-- A count from after its comma on. -/
def countFrom (verbose : Bool) (least : Nat) (text : Text) :
    Option ((Nat × Option Nat) × Text) :=
  match text with
  | '\x7d' :: rest => some ((least, none), rest)
  | rest => (readDecimal verbose rest).bind (closeCount least)

/-- The greatest number of a count. -/
theorem countFrom_closes (verbose : Bool) (least : Nat) (h : Closes text text') :
    Tracks SameValue Never (countFrom verbose least text) (countFrom verbose least text') := by
  have hmost := (readDecimal_closes verbose h).bind (fun _ _ => closeCount_closes least)
    fun _ => False.elim
  cases h with
  | ended => exact hmost
  | mark => exact hmost
  | cons c h =>
    by_cases hc : c = '\x7d'
    · subst hc
      exact .read ⟨rfl, h⟩
    · have hplain : ∀ rest, countFrom verbose least (c :: rest) =
          (readDecimal verbose (c :: rest)).bind (closeCount least) := by
        intro rest
        rw [countFrom]
        intro after heq
        exact hc (List.cons.inj heq).1
      rw [hplain, hplain]
      exact hmost

/-- A count in braces. -/
theorem readCount_closes (verbose : Bool) (h : Closes text text') :
    Tracks SameValue Never (readCount verbose text) (readCount verbose text') := by
  refine (readDecimal_closes verbose (h.skip verbose)).bind ?_ fun _ => False.elim
  rintro ⟨least, rest⟩ ⟨_, rest'⟩ ⟨rfl, hrest⟩
  dsimp only at hrest ⊢
  split
  · cases hrest with
    | cons _ hrest => exact .read ⟨rfl, hrest⟩
  · cases hrest with
    | cons _ hrest => exact countFrom_closes verbose least (hrest.skip verbose)
  · next hclose hcomma =>
    cases hrest with
    | ended => exact .refused
    | mark => exact .refused
    | cons c hrest =>
      split
      · next heq => exact absurd (congrArg (· :: _) (List.cons.inj heq).1) (hclose _)
      · next heq => exact absurd (congrArg (· :: _) (List.cons.inj heq).1) (hcomma _)
      · exact .refused

/-- No count begins with a parenthesis. -/
theorem readCount_mark {verbose : Bool} (h : skip verbose text = [')']) :
    readCount verbose text = none := by
  rw [readCount, h, readDecimal_mark]
  rfl

end Counts

end ParserCombinators.Regex
