import Mathlib.Data.List.DropRight
import ParserCombinators.Proofs.Json.Number

/-!
# Printed values are read back

A text writes a value if it is put together from the parts of the value, with any white space
between them. The pretty form of a value writes it, and so does the compact form, and what is read
from a text that writes a value is that value. So no two values have a common text.
-/

namespace ParserCombinators.Value

/-- The text is white space only. -/
def IsGap (gap : Text) : Prop :=
  ∀ c ∈ gap, isSpace c = true

mutual

/-- The text writes the value. -/
inductive Writes : Value → Text → Prop
  | null : Writes .null "null".toList
  | bool (b : Bool) : Writes (.bool b) (if b then "true".toList else "false".toList)
  | number {n : Numeral} : n.WellFormed → Writes (ofNumeral n) n.written
  | str (s : String) : Writes (.str s) (quote s)
  | emptyArr {gap : Text} : IsGap gap → Writes (.arr []) ('[' :: gap ++ [']'])
  | arr {items : List Value} {body : Text} : WritesItems items body →
    Writes (.arr items) ('[' :: body ++ [']'])
  | emptyObj {gap : Text} : IsGap gap → Writes (.obj []) ('\x7b' :: gap ++ ['\x7d'])
  | obj {fields : List (String × Value)} {body : Text} : WritesFields fields body →
    Writes (.obj fields) ('\x7b' :: body ++ ['\x7d'])

/-- The text writes the items, at least one, with a comma between each two. -/
inductive WritesItems : List Value → Text → Prop
  | last {item : Value} {before text after : Text} : IsGap before → Writes item text →
    IsGap after → WritesItems [item] (before ++ text ++ after)
  | more {item : Value} {items : List Value} {before text after rest : Text} : IsGap before →
    Writes item text → IsGap after → WritesItems items rest →
    WritesItems (item :: items) (before ++ text ++ after ++ ',' :: rest)

/-- The text writes the fields, at least one, with a comma between each two. -/
inductive WritesFields : List (String × Value) → Text → Prop
  | last {name : String} {item : Value} {before middle text after : Text} : IsGap before →
    IsGap middle → Writes item text → IsGap after →
    WritesFields [(name, item)] (before ++ quote name ++ ':' :: middle ++ text ++ after)
  | more {name : String} {item : Value} {fields : List (String × Value)}
    {before middle text after rest : Text} : IsGap before → IsGap middle → Writes item text →
    IsGap after → WritesFields fields rest →
    WritesFields ((name, item) :: fields)
      (before ++ quote name ++ ':' :: middle ++ text ++ after ++ ',' :: rest)

end

section Printing

/-- The decimal digits of an integer write it. -/
theorem writes_int (n : Int) : Writes (.int n) (decimal n) := by
  rw [← Numeral.ofNumeral_ofInt, ← Numeral.written_ofInt]
  exact .number (Numeral.ofInt_wellFormed n)

/-- The numeral of a floating point number writes it. -/
theorem writes_float (x : DecimalFloat) : Writes (.float x) x.numeral.written := by
  rw [← x.ofNumeral_numeral]
  exact .number x.numeral_wellFormed

/-- No white space is white space only. -/
theorem isGap_nil : IsGap [] := by
  simp [IsGap]

/-- The space behind a colon. -/
theorem isGap_space : IsGap [' '] := by
  simp [IsGap, isSpace]

/-- The beginning of a line. -/
theorem isGap_lineStart (level : Nat) : IsGap (lineStart level) := by
  intro c hc
  rcases List.mem_cons.1 hc with rfl | hc
  · rfl
  · rw [List.eq_of_mem_replicate hc]
    rfl

mutual

/-- The pretty form writes the value. -/
theorem writes_pretty (level : Nat) : ∀ v : Value, Writes v (pretty level v)
  | .null => .null
  | .bool b => .bool b
  | .int n => writes_int n
  | .float x => writes_float x
  | .str s => .str s
  | .arr [] => .emptyArr isGap_nil
  | .arr (v :: vs) => by
    have hitems := writesItems_pretty (level + 1) (isGap_lineStart level) v vs
    rw [pretty]
    exact .arr hitems
  | .obj [] => .emptyObj isGap_nil
  | .obj ((k, v) :: fs) => by
    have hfields := writesFields_pretty (level + 1) (isGap_lineStart level) k v fs
    have hwrites := Writes.obj hfields
    simpa [pretty] using hwrites
termination_by v => sizeOf v

/-- The pretty form of a first item and those behind it writes them. -/
theorem writesItems_pretty (level : Nat) {after : Text} (hafter : IsGap after) :
    ∀ (v : Value) (vs : List Value),
      WritesItems (v :: vs) (lineStart level ++ pretty level v ++ prettyItems level vs ++ after)
  | v, [] => by
    have hwrites := WritesItems.last (isGap_lineStart level) (writes_pretty level v) hafter
    simpa [prettyItems] using hwrites
  | v, w :: ws => by
    have hrest := writesItems_pretty level hafter w ws
    have hwrites := WritesItems.more (isGap_lineStart level) (writes_pretty level v) isGap_nil hrest
    simpa [prettyItems] using hwrites
termination_by v vs => sizeOf v + sizeOf vs

/-- The pretty form of a first field and those behind it writes them. -/
theorem writesFields_pretty (level : Nat) {after : Text} (hafter : IsGap after) :
    ∀ (k : String) (v : Value) (fs : List (String × Value)),
      WritesFields ((k, v) :: fs) (lineStart level ++ quote k ++ ':' :: ' ' :: pretty level v ++
        prettyFields level fs ++ after)
  | k, v, [] => by
    have hwrites := @WritesFields.last k v (lineStart level) [' '] (pretty level v) after
      (isGap_lineStart level) isGap_space (writes_pretty level v) hafter
    simpa [prettyFields] using hwrites
  | k, v, (l, w) :: fs => by
    have hrest := writesFields_pretty level hafter l w fs
    have hwrites := @WritesFields.more k v ((l, w) :: fs) (lineStart level) [' '] (pretty level v)
      [] _ (isGap_lineStart level) isGap_space (writes_pretty level v) isGap_nil hrest
    simpa [prettyFields] using hwrites
termination_by _ v fs => sizeOf v + sizeOf fs

end

mutual

/-- The compact form writes the value. -/
theorem writes_compact : ∀ v : Value, Writes v (compact v)
  | .null => .null
  | .bool b => .bool b
  | .int n => writes_int n
  | .float x => writes_float x
  | .str s => .str s
  | .arr [] => .emptyArr isGap_nil
  | .arr (v :: vs) => .arr (writesItems_compact v vs)
  | .obj [] => .emptyObj isGap_nil
  | .obj ((k, v) :: fs) => by
    have hwrites := Writes.obj (writesFields_compact k v fs)
    simpa [compact] using hwrites
termination_by v => sizeOf v

/-- The compact form of a first item and those behind it writes them. -/
theorem writesItems_compact : ∀ (v : Value) (vs : List Value),
    WritesItems (v :: vs) (compact v ++ compactItems vs)
  | v, [] => .last isGap_nil (writes_compact v) isGap_nil
  | v, w :: ws => by
    have hrest := writesItems_compact w ws
    have hwrites := WritesItems.more isGap_nil (writes_compact v) isGap_nil hrest
    simpa [compactItems] using hwrites
termination_by v vs => sizeOf v + sizeOf vs

/-- The compact form of a first field and those behind it writes them. -/
theorem writesFields_compact : ∀ (k : String) (v : Value) (fs : List (String × Value)),
    WritesFields ((k, v) :: fs) (quote k ++ ':' :: compact v ++ compactFields fs)
  | k, v, [] => by
    have hwrites := @WritesFields.last k v [] [] (compact v) [] isGap_nil isGap_nil
      (writes_compact v) isGap_nil
    simpa [compactFields] using hwrites
  | k, v, (l, w) :: fs => by
    have hrest := writesFields_compact l w fs
    have hwrites := @WritesFields.more k v ((l, w) :: fs) [] [] (compact v) [] _ isGap_nil
      isGap_nil (writes_compact v) isGap_nil hrest
    simpa [compactFields] using hwrites
termination_by _ v fs => sizeOf v + sizeOf fs

end

end Printing

section Strings

variable {rest : Text}

/-- A backslash and what it stands for. -/
theorem readChars_escape {c : Char} {text : Text} (h : readEscape text = some (c, rest))
    (fuel : Nat) :
    readChars (fuel + 1) ('\\' :: text) =
      (readChars fuel rest).map fun (chars, rest) => (c :: chars, rest) := by
  simp only [readChars, h, bind, Option.bind, Option.map, pure]
  cases readChars fuel rest with
  | none => rfl
  | some _ => rfl

/-- Two hexadecimal digits are enough for a control character. -/
theorem readEscape_control {c : Char} (h : c.toNat < 32) :
    readEscape ('u' :: '0' :: '0' :: hexDigit (c.toNat / 16) :: hexDigit (c.toNat % 16) :: rest) =
      some (c, rest) := by
  have hdigit : ∀ n < 16, Regex.hexDigit? (hexDigit n) = some n := by decide
  have hhigh := hdigit (c.toNat / 16) (by omega)
  have hlow := hdigit (c.toNat % 16) (by omega)
  have hzero : Regex.hexDigit? '0' = some 0 := rfl
  have hcode : readCode ('0' :: '0' :: hexDigit (c.toNat / 16) :: hexDigit (c.toNat % 16) :: rest) =
      some (c.toNat, rest) := by
    simp only [readCode, Regex.readHexDigits, Regex.skip, hzero, hhigh, hlow, Option.bind_some,
      Bool.false_eq_true, if_false, Option.some.injEq, Prod.mk.injEq, and_true]
    omega
  have hsurrogate : ¬ (0xD800 ≤ c.toNat ∧ c.toNat < 0xDC00) := by omega
  have hvalid : Regex.charOfCode? c.toNat = some c := by
    rw [Regex.charOfCode?, if_pos (.inl (by omega)), Char.ofNat_toNat]
  simp only [readEscape, readCoded, hcode, hvalid, if_neg hsurrogate, bind, Option.bind_some, pure]

/-- An escaped character is read back. -/
theorem readChars_escapeChar (c : Char) (fuel : Nat) :
    readChars (fuel + 1) (escapeChar c ++ rest) =
      (readChars fuel rest).map fun (chars, rest) => (c :: chars, rest) := by
  unfold escapeChar
  split_ifs with hquote hslash hback htab hline hfeed hreturn hcontrol
  · subst hquote
    exact readChars_escape rfl fuel
  · subst hslash
    exact readChars_escape rfl fuel
  · subst hback
    exact readChars_escape rfl fuel
  · subst htab
    exact readChars_escape rfl fuel
  · subst hline
    exact readChars_escape rfl fuel
  · subst hfeed
    exact readChars_escape rfl fuel
  · subst hreturn
    exact readChars_escape rfl fuel
  · exact readChars_escape (readEscape_control hcontrol) fuel
  · simp only [List.singleton_append, readChars, if_neg hcontrol]

/-- Escaped characters are read back up to the quotation mark. -/
theorem readChars_escaped (chars rest : Text) {fuel : Nat} (hfuel : chars.length < fuel) :
    readChars fuel (chars.flatMap escapeChar ++ '"' :: rest) = some (chars, rest) := by
  induction chars generalizing fuel with
  | nil =>
    obtain ⟨fuel, rfl⟩ : ∃ n, fuel = n + 1 := ⟨fuel - 1, by omega⟩
    rfl
  | cons c chars ih =>
    rw [List.length_cons] at hfuel
    obtain ⟨fuel, rfl⟩ : ∃ n, fuel = n + 1 := ⟨fuel - 1, by omega⟩
    rw [List.flatMap_cons, List.append_assoc, readChars_escapeChar, ih (by omega), Option.map_some]

/-- No character is left out of a string. -/
theorem escapeChar_ne_nil (c : Char) : escapeChar c ≠ [] := by
  unfold escapeChar
  repeat' split
  all_goals simp

/-- A written string is read back. -/
theorem readString_quote (s : String) (rest : Text) :
    readString (s.toList.flatMap escapeChar ++ '"' :: rest) = some (s, rest) := by
  have hlength := length_le_length_flatMap fun c (_ : c ∈ s.toList) => escapeChar_ne_nil c
  have hfuel : s.toList.length < (s.toList.flatMap escapeChar ++ '"' :: rest).length + 1 := by
    rw [List.length_append]
    omega
  have hread := readChars_escaped s.toList rest hfuel
  simp only [readString, hread, Option.map_some, String.ofList_toList]

end Strings

section Numbers

/-- A digit or a minus sign begins neither a word nor a part of a value. -/
theorem ne_of_head_written {c : Char} (h : c = '-' ∨ c.isDigit = true) (d : Char) (hsign : d ≠ '-')
    (hdigit : d.isDigit = false) : c ≠ d := by
  rintro rfl
  rcases h with h | h
  · exact hsign h
  · rw [hdigit] at h
    cases h

/-- A written number is a plain value. -/
theorem readPlain_written {n : Numeral} {rest : Text} (h : n.WellFormed) (hrest : EndsNumber rest) :
    readPlain (n.written ++ rest) = some (ofNumeral n, rest) := by
  obtain ⟨c, digits, hdigits, hc⟩ := exists_head_written h
  have hnull : 'n' ≠ c := (ne_of_head_written hc 'n' (by decide) (by decide)).symm
  have htrue : 't' ≠ c := (ne_of_head_written hc 't' (by decide) (by decide)).symm
  have hfalse : 'f' ≠ c := (ne_of_head_written hc 'f' (by decide) (by decide)).symm
  have hwords : ∀ entry ∈ wordValues, stripStart? entry.1 (n.written ++ rest) = none := by
    simp [wordValues, hdigits, stripStart?, hnull, htrue, hfalse]
  rw [readPlain, readNumeral_written h hrest, Option.map_some]
  refine (congrArg (Option.or · _) (List.findSome?_eq_none_iff.2 fun entry hentry => ?_)).trans
    Option.none_or
  exact Option.map_eq_none_iff.2 (hwords entry hentry)

end Numbers

section Values

variable {gap rest : Text}

/-- The text begins with a character that may be the first of a value. -/
def BeginsValue (text : Text) : Prop :=
  ∃ c rest, text = c :: rest ∧ isSpace c = false ∧ c ≠ ']' ∧ c ≠ '\x7d'

/-- A value that is written begins with one of its own characters. -/
theorem Writes.begins {v : Value} {text : Text} (h : Writes v text) : BeginsValue text := by
  cases h with
  | null => exact ⟨'n', _, rfl, by decide⟩
  | bool b =>
    cases b with
    | false => exact ⟨'f', _, rfl, by decide⟩
    | true => exact ⟨'t', _, rfl, by decide⟩
  | number hn =>
    obtain ⟨c, digits, hdigits, hc⟩ := exists_head_written hn
    have hne := ne_of_head_written hc
    refine ⟨c, digits, hdigits, ?_, hne ']' (by decide) (by decide),
      hne '\x7d' (by decide) (by decide)⟩
    simp only [isSpace, hne ' ' (by decide) (by decide), hne '\t' (by decide) (by decide),
      hne '\n' (by decide) (by decide), hne '\r' (by decide) (by decide), decide_false,
      Bool.or_false]
  | str s => exact ⟨'"', _, rfl, by decide⟩
  | emptyArr _ => exact ⟨'[', _, rfl, by decide⟩
  | arr _ => exact ⟨'[', _, rfl, by decide⟩
  | emptyObj _ => exact ⟨'\x7b', _, rfl, by decide⟩
  | obj _ => exact ⟨'\x7b', _, rfl, by decide⟩

/-- White space in front of anything else is skipped. -/
theorem skipSpace_gap {c : Char} (hgap : IsGap gap) (hc : isSpace c = false) (rest : Text) :
    skipSpace (gap ++ c :: rest) = c :: rest := by
  rw [skipSpace, List.dropWhile_append_of_pos hgap, List.dropWhile_cons_of_neg (by simp [hc])]

/-- Skipping white space twice is skipping it once. -/
theorem skipSpace_skipSpace (text : Text) : skipSpace (skipSpace text) = skipSpace text :=
  List.dropWhile_idempotent isSpace text

/-- No number goes on with white space or with a mark behind a value. -/
theorem endsNumber_gap {c : Char} (hgap : IsGap gap) (hc : c ∈ [',', ']', '\x7d']) (rest : Text) :
    EndsNumber (gap ++ c :: rest) := by
  have hend : ∀ d ∈ [' ', '\t', '\n', '\r', ',', ']', '\x7d'],
      d.isDigit = false ∧ d ≠ '.' ∧ d ≠ 'e' ∧ d ≠ 'E' := by
    simp only [List.forall_mem_cons, List.not_mem_nil, false_implies, implies_true, and_true]
    decide
  intro d hd
  apply hend
  cases gap with
  | nil =>
    rw [List.nil_append, List.head?_cons, Option.mem_some_iff] at hd
    rw [← hd]
    simp only [List.mem_cons, List.not_mem_nil, or_false] at hc ⊢
    exact .inr (.inr (.inr (.inr hc)))
  | cons space gap =>
    have hspace := hgap space List.mem_cons_self
    rw [List.cons_append, List.head?_cons, Option.mem_some_iff] at hd
    simp only [isSpace, Bool.or_eq_true, decide_eq_true_eq, hd] at hspace
    rcases hspace with ((rfl | rfl) | rfl) | rfl <;> simp

/-- The text goes on with white space and then with a character that may be the first of a value or
of a field. -/
def BeginsItem (body : Text) : Prop :=
  ∃ gap c rest, body = gap ++ c :: rest ∧ IsGap gap ∧ isSpace c = false ∧ c ≠ ']' ∧ c ≠ '\x7d'

/-- Items that are written begin with white space and then with a value. -/
theorem WritesItems.begins {items : List Value} {body : Text} (h : WritesItems items body) :
    BeginsItem body := by
  cases h with
  | @last _ before _ after hbefore hitem _ =>
    obtain ⟨c, rest, rfl, hc⟩ := hitem.begins
    exact ⟨before, c, rest ++ after, by simp, hbefore, hc⟩
  | @more _ _ before _ after rest hbefore hitem _ _ =>
    obtain ⟨c, text, rfl, hc⟩ := hitem.begins
    exact ⟨before, c, text ++ after ++ ',' :: rest, by simp, hbefore, hc⟩

/-- Fields that are written begin with white space and then with a name. -/
theorem WritesFields.begins {fields : List (String × Value)} {body : Text}
    (h : WritesFields fields body) : BeginsItem body := by
  cases h with
  | @last name _ before middle text after hbefore _ _ _ =>
    refine ⟨before, '"', ?_, ?_, hbefore, by decide⟩
    · exact name.toList.flatMap escapeChar ++ '"' :: ':' :: (middle ++ text ++ after)
    · simp [quote]
  | @more name _ _ before middle text after rest hbefore _ _ _ _ =>
    refine ⟨before, '"', ?_, ?_, hbefore, by decide⟩
    · exact name.toList.flatMap escapeChar ++ '"' :: ':' :: (middle ++ text ++ after ++ ',' :: rest)
    · simp [quote]

/-- White space in front of a value is skipped. -/
theorem readValue_skipSpace (fuel : Nat) (text : Text) :
    readValue fuel (skipSpace text) = readValue fuel text := by
  cases fuel with
  | zero => rfl
  | succ fuel => simp only [readValue, skipSpace_skipSpace]

/-- White space in front of items is skipped. -/
theorem readItems_skipSpace (fuel : Nat) (text : Text) :
    readItems fuel (skipSpace text) = readItems fuel text := by
  cases fuel with
  | zero => rfl
  | succ fuel => simp only [readItems, readValue_skipSpace]

/-- White space in front of fields is skipped. -/
theorem readFields_skipSpace (fuel : Nat) (text : Text) :
    readFields fuel (skipSpace text) = readFields fuel text := by
  cases fuel with
  | zero => rfl
  | succ fuel => simp only [readFields, readName, skipSpace_skipSpace]

/-- A value that is neither a string nor in brackets is plain. -/
theorem readValue_plain {c : Char} (hgap : IsGap gap) (hspace : isSpace c = false)
    (hquote : c ≠ '"') (hbracket : c ≠ '[') (hbrace : c ≠ '\x7b') (fuel : Nat) :
    readValue (fuel + 1) (gap ++ c :: rest) = readPlain (c :: rest) := by
  simp only [readValue, skipSpace_gap hgap hspace]
  split <;> simp_all

/-- Behind an opening bracket stand items, unless a closing bracket does. -/
theorem readValue_arr {body : Text} (hgap : IsGap gap) (hbody : BeginsItem body) (rest : Text)
    (fuel : Nat) :
    readValue (fuel + 1) (gap ++ '[' :: (body ++ rest)) =
      (readItems fuel (body ++ rest)).map fun (items, rest) => (arr items, rest) := by
  obtain ⟨space, c, after, rfl, hspace, hc, hbracket, _⟩ := hbody
  rw [← readItems_skipSpace]
  simp only [readValue, skipSpace_gap hgap (show isSpace '[' = false by decide), List.append_assoc,
    List.cons_append, skipSpace_gap hspace hc]
  split <;> simp_all

/-- Behind an opening brace stand fields, unless a closing brace does. -/
theorem readValue_obj {body : Text} (hgap : IsGap gap) (hbody : BeginsItem body) (rest : Text)
    (fuel : Nat) :
    readValue (fuel + 1) (gap ++ '\x7b' :: (body ++ rest)) =
      (readFields fuel (body ++ rest)).map fun (fields, rest) => (obj fields, rest) := by
  obtain ⟨space, c, after, rfl, hspace, hc, _, hbrace⟩ := hbody
  rw [← readFields_skipSpace]
  simp only [readValue, skipSpace_gap hgap (show isSpace '\x7b' = false by decide),
    List.append_assoc, List.cons_append, skipSpace_gap hspace hc]
  split <;> simp_all

/-- A written name is read back with its colon. -/
theorem readName_quote (name : String) (hgap : IsGap gap) (rest : Text) :
    readName (gap ++ (quote name ++ ':' :: rest)) = some (name, rest) := by
  have hstring := readString_quote name (':' :: rest)
  have hcolon : skipSpace (':' :: rest) = ':' :: rest := skipSpace_gap isGap_nil (by decide) rest
  simp only [readName, quote, List.cons_append, List.append_assoc, List.nil_append,
    skipSpace_gap hgap (show isSpace '"' = false by decide), stripStart?, if_true, bind,
    Option.bind_some, hstring, hcolon, pure]

/-- A pair of brackets with white space between them. -/
theorem readValue_emptyArr {space : Text} (hgap : IsGap gap) (hspace : IsGap space) (rest : Text)
    (fuel : Nat) :
    readValue (fuel + 1) (gap ++ '[' :: (space ++ ']' :: rest)) = some (arr [], rest) := by
  simp only [readValue, skipSpace_gap hgap (show isSpace '[' = false by decide),
    skipSpace_gap hspace (show isSpace ']' = false by decide)]

/-- A pair of braces with white space between them. -/
theorem readValue_emptyObj {space : Text} (hgap : IsGap gap) (hspace : IsGap space) (rest : Text)
    (fuel : Nat) :
    readValue (fuel + 1) (gap ++ '\x7b' :: (space ++ '\x7d' :: rest)) = some (obj [], rest) := by
  simp only [readValue, skipSpace_gap hgap (show isSpace '\x7b' = false by decide),
    skipSpace_gap hspace (show isSpace '\x7d' = false by decide)]

/-- A written string is a value. -/
theorem readValue_quote (hgap : IsGap gap) (s : String) (fuel : Nat) :
    readValue (fuel + 1) (gap ++ (quote s ++ rest)) = some (str s, rest) := by
  have hquote : quote s ++ rest = '"' :: (s.toList.flatMap escapeChar ++ '"' :: rest) := by
    simp [quote]
  simp only [readValue, hquote, skipSpace_gap hgap (show isSpace '"' = false by decide),
    readString_quote, Option.map_some]

/-- A written number is a value. -/
theorem readValue_written {n : Numeral} (hgap : IsGap gap) (h : n.WellFormed)
    (hrest : EndsNumber rest) (fuel : Nat) :
    readValue (fuel + 1) (gap ++ (n.written ++ rest)) = some (ofNumeral n, rest) := by
  obtain ⟨c, digits, hdigits, hc⟩ := exists_head_written h
  have hne := ne_of_head_written hc
  obtain ⟨d, after, hbegins, hspace, _⟩ := (Writes.number h).begins
  have hsame : d = c := by
    rw [hdigits, List.cons.injEq] at hbegins
    exact hbegins.1.symm
  rw [← readPlain_written h hrest, hdigits, List.cons_append]
  exact readValue_plain hgap (hsame ▸ hspace) (hne '"' (by decide) (by decide))
    (hne '[' (by decide) (by decide)) (hne '\x7b' (by decide) (by decide)) fuel

mutual

/-- A value is read back from a text that writes it. -/
theorem Writes.readValue {v : Value} {text : Text} (h : Writes v text) {fuel : Nat}
    (hfuel : 2 * text.length ≤ fuel) {gap rest : Text} (hgap : IsGap gap)
    (hrest : EndsNumber rest) : readValue fuel (gap ++ (text ++ rest)) = some (v, rest) := by
  obtain ⟨fuel, rfl⟩ : ∃ n, fuel = n + 1 := by
    obtain ⟨c, after, rfl, _⟩ := h.begins
    rw [List.length_cons] at hfuel
    exact ⟨fuel - 1, by omega⟩
  cases h with
  | null => exact readValue_plain hgap rfl (by decide) (by decide) (by decide) fuel
  | bool b =>
    cases b with
    | false => exact readValue_plain hgap rfl (by decide) (by decide) (by decide) fuel
    | true => exact readValue_plain hgap rfl (by decide) (by decide) (by decide) fuel
  | number hn => exact readValue_written hgap hn hrest fuel
  | str s => exact readValue_quote hgap s fuel
  | emptyArr hspace =>
    simpa using readValue_emptyArr hgap hspace rest fuel
  | emptyObj hspace =>
    simpa using readValue_emptyObj hgap hspace rest fuel
  | @arr _ body hitems =>
    rw [List.length_append, List.length_cons, List.length_singleton] at hfuel
    have hbody : 2 * body.length + 1 ≤ fuel := by omega
    have harr := readValue_arr hgap hitems.begins (']' :: rest) fuel
    rw [hitems.readItems hbody rest, Option.map_some] at harr
    simpa using harr
  | @obj _ body hfields =>
    rw [List.length_append, List.length_cons, List.length_singleton] at hfuel
    have hbody : 2 * body.length + 1 ≤ fuel := by omega
    have hobj := readValue_obj hgap hfields.begins ('\x7d' :: rest) fuel
    rw [hfields.readFields hbody rest, Option.map_some] at hobj
    simpa using hobj

/-- Items are read back from a text that writes them. -/
theorem WritesItems.readItems {items : List Value} {body : Text} (h : WritesItems items body)
    {fuel : Nat} (hfuel : 2 * body.length + 1 ≤ fuel) (rest : Text) :
    readItems fuel (body ++ ']' :: rest) = some (items, rest) := by
  obtain ⟨fuel, rfl⟩ : ∃ n, fuel = n + 1 := ⟨fuel - 1, by omega⟩
  cases h with
  | @last item before text after hbefore hitem hafter =>
    simp only [List.length_append] at hfuel
    have htext : 2 * text.length ≤ fuel := by omega
    have hmark : ']' ∈ [',', ']', '\x7d'] := by decide
    have hread := hitem.readValue htext hbefore (endsNumber_gap hafter hmark rest)
    simp only [List.append_assoc, Value.readItems, hread, bind, Option.bind_some,
      skipSpace_gap hafter (show isSpace ']' = false by decide)]
  | @more item items before text after more hbefore hitem hafter hitems =>
    simp only [List.length_append, List.length_cons] at hfuel
    have htext : 2 * text.length ≤ fuel := by omega
    have hbody : 2 * more.length + 1 ≤ fuel := by omega
    have hmark : ',' ∈ [',', ']', '\x7d'] := by decide
    have hread := hitem.readValue htext hbefore (endsNumber_gap hafter hmark (more ++ ']' :: rest))
    have hmore := hitems.readItems hbody rest
    simp only [List.append_assoc, List.cons_append, Value.readItems, hread, bind, Option.bind_some,
      skipSpace_gap hafter (show isSpace ',' = false by decide), hmore, Option.map_some]

/-- Fields are read back from a text that writes them. -/
theorem WritesFields.readFields {fields : List (String × Value)} {body : Text}
    (h : WritesFields fields body) {fuel : Nat} (hfuel : 2 * body.length + 1 ≤ fuel) (rest : Text) :
    readFields fuel (body ++ '\x7d' :: rest) = some (fields, rest) := by
  obtain ⟨fuel, rfl⟩ : ∃ n, fuel = n + 1 := ⟨fuel - 1, by omega⟩
  cases h with
  | @last name item before middle text after hbefore hmiddle hitem hafter =>
    simp only [List.length_append, List.length_cons] at hfuel
    have hname := readName_quote name hbefore (middle ++ (text ++ (after ++ '\x7d' :: rest)))
    have htext : 2 * text.length ≤ fuel := by omega
    have hmark : '\x7d' ∈ [',', ']', '\x7d'] := by decide
    have hread := hitem.readValue htext hmiddle (endsNumber_gap hafter hmark rest)
    simp only [List.append_assoc, List.cons_append, Value.readFields, hname, hread, bind,
      Option.bind_some, skipSpace_gap hafter (show isSpace '\x7d' = false by decide)]
  | @more name item fields before middle text after more hbefore hmiddle hitem hafter hfields =>
    simp only [List.length_append, List.length_cons] at hfuel
    have hname := readName_quote name hbefore
      (middle ++ (text ++ (after ++ ',' :: (more ++ '\x7d' :: rest))))
    have htext : 2 * text.length ≤ fuel := by omega
    have hbody : 2 * more.length + 1 ≤ fuel := by omega
    have hmark : ',' ∈ [',', ']', '\x7d'] := by decide
    have hread := hitem.readValue htext hmiddle
      (endsNumber_gap hafter hmark (more ++ '\x7d' :: rest))
    have hmore := hfields.readFields hbody rest
    simp only [List.append_assoc, List.cons_append, Value.readFields, hname, hread, bind,
      Option.bind_some, skipSpace_gap hafter (show isSpace ',' = false by decide), hmore,
      Option.map_some]

end

/-- Every text that writes a value is read as that value. -/
theorem Writes.read? {v : Value} {text : Text} (h : Writes v text) : read? text = some v := by
  have hend : EndsNumber [] := by simp [EndsNumber]
  have hfuel : 2 * text.length ≤ 2 * text.length + 1 := by omega
  have hread := h.readValue hfuel isGap_nil hend
  rw [List.append_nil, List.nil_append] at hread
  rw [Value.read?, hread]
  rfl

/-- The pretty form of a value is read as the value. -/
theorem read?_pretty (v : Value) (level : Nat) : Value.read? (pretty level v) = some v :=
  (writes_pretty level v).read?

end Values

end ParserCombinators.Value
