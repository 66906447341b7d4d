/-!
# Text and byte offsets

Text is a list of characters. Positions in it are counted in bytes of its UTF-8 form, so an
offset may fall inside a character, where no suffix begins. `dropBytes?` answers exactly at
the offsets between characters.
-/

namespace ParserCombinators

/-- Text as the sequence of its characters. -/
abbrev Text := List Char

/-- A search in texts. What it finds, if it finds anything, is a part of the text. -/
structure Search where
  find : Text → Option Text
  isInfix {text matched : Text} : find text = some matched → matched <:+: text

/-- Whatever the search finds begins the text. -/
def Search.FindsAtStart (search : Search) : Prop :=
  ∀ text matched, search.find text = some matched → matched <+: text

/-- The number of bytes that the text takes in UTF-8. -/
def byteLength : Text → Nat
  | [] => 0
  | c :: rest => c.utf8Size + byteLength rest

/-- The text from a byte offset on, if the offset falls between characters. -/
def dropBytes? : Nat → Text → Option Text
  | 0, text => some text
  | _ + 1, [] => none
  | n + 1, c :: rest => if c.utf8Size ≤ n + 1 then dropBytes? (n + 1 - c.utf8Size) rest else none

/-- The text without a given beginning. -/
def stripStart? : Text → Text → Option Text
  | [], text => some text
  | _ :: _, [] => none
  | c :: start, d :: rest => if c = d then stripStart? start rest else none

/-- Items with a joint in front of each. -/
def turns {ι : Type} (joint written : ι → Text) (items : List ι) : Text :=
  items.flatMap fun x => joint x ++ written x

@[simp] theorem turns_nil {ι : Type} (joint written : ι → Text) : turns joint written [] = [] := rfl

@[simp] theorem turns_cons {ι : Type} (joint written : ι → Text) (x : ι) (items : List ι) :
    turns joint written (x :: items) = joint x ++ written x ++ turns joint written items := rfl

/-- Nonempty items are no more than their characters. -/
theorem length_le_length_flatMap {ι : Type} {written : ι → Text} {items : List ι}
    (h : ∀ x ∈ items, written x ≠ []) : items.length ≤ (items.flatMap written).length := by
  induction items with
  | nil => exact Nat.le_refl 0
  | cons x items ih =>
    have hx := List.length_pos_iff.2 (h x List.mem_cons_self)
    have hitems := ih fun y hy => h y (List.mem_cons_of_mem x hy)
    simp only [List.flatMap_cons, List.length_append, List.length_cons]
    omega

/-- Nonempty items are no more than the characters of their turns. -/
theorem length_le_length_turns {ι : Type} (joint : ι → Text) {written : ι → Text} {items : List ι}
    (h : ∀ x ∈ items, written x ≠ []) : items.length ≤ (turns joint written items).length :=
  length_le_length_flatMap fun x hx => List.append_ne_nil_of_right_ne_nil (joint x) (h x hx)

@[simp] theorem byteLength_nil : byteLength [] = 0 := rfl

@[simp] theorem byteLength_cons (c : Char) (rest : Text) :
    byteLength (c :: rest) = c.utf8Size + byteLength rest := rfl

/-- Lengths add up. -/
@[simp] theorem byteLength_append (first second : Text) :
    byteLength (first ++ second) = byteLength first + byteLength second := by
  induction first with
  | nil => simp
  | cons c rest ih => simp [ih]; omega

/-- Only the empty text takes no bytes. -/
@[simp] theorem byteLength_eq_zero {text : Text} : byteLength text = 0 ↔ text = [] := by
  cases text with
  | nil => simp
  | cons c rest =>
    have := c.utf8Size_pos
    simp only [byteLength_cons, reduceCtorEq, iff_false]
    omega

/-- A text has no more characters than bytes. -/
theorem length_le_byteLength (text : Text) : text.length ≤ byteLength text := by
  induction text with
  | nil => exact Nat.le_refl 0
  | cons c rest ih =>
    have := c.utf8Size_pos
    rw [List.length_cons, byteLength_cons]
    omega

/-- The length agrees with the size of the string of the same characters. -/
theorem byteLength_toList (s : String) : byteLength s.toList = s.utf8ByteSize := by
  have h : ∀ text : Text, byteLength text = (String.ofList text).utf8ByteSize := by
    intro text
    induction text with
    | nil => rfl
    | cons c rest ih =>
      rw [byteLength_cons, ih, show c :: rest = [c] ++ rest from rfl, String.ofList_append,
        String.utf8ByteSize_append]
      simp
  rw [h, String.ofList_toList]

@[simp] theorem dropBytes?_zero (text : Text) : dropBytes? 0 text = some text := by
  cases text <;> rfl

/-- Dropping the bytes of a beginning leaves the rest. -/
@[simp] theorem dropBytes?_append (before after : Text) :
    dropBytes? (byteLength before) (before ++ after) = some after := by
  induction before with
  | nil => simp
  | cons c rest ih =>
    have := c.utf8Size_pos
    obtain ⟨n, hn⟩ : ∃ n, byteLength (c :: rest) = n + 1 :=
      ⟨c.utf8Size - 1 + byteLength rest, by rw [byteLength_cons]; omega⟩
    rw [hn, List.cons_append, dropBytes?, ← hn, if_pos (by rw [byteLength_cons]; omega)]
    rw [byteLength_cons, Nat.add_sub_cancel_left, ih]

/-- A suffix begins at an offset exactly when the characters before it take that many bytes. -/
theorem dropBytes?_eq_some_iff {n : Nat} {text after : Text} :
    dropBytes? n text = some after ↔
      ∃ before, text = before ++ after ∧ byteLength before = n := by
  constructor
  · intro h
    fun_induction dropBytes? n text with
    | case1 text =>
      exact ⟨[], by simpa using h, rfl⟩
    | case2 => simp at h
    | case3 n c rest hle ih =>
      obtain ⟨before, rfl, hlen⟩ := ih h
      exact ⟨c :: before, rfl, by rw [byteLength_cons, hlen]; omega⟩
    | case4 => simp at h
  · rintro ⟨before, rfl, rfl⟩
    exact dropBytes?_append before after

/-- Stripping succeeds exactly on texts that begin with the given one. -/
theorem stripStart?_eq_some_iff {start text rest : Text} :
    stripStart? start text = some rest ↔ text = start ++ rest := by
  fun_induction stripStart? start text with
  | case1 text => simp [eq_comm]
  | case2 => simp
  | case3 c start rest' ih => simp [ih]
  | case4 c start d rest' hne => simp [Ne.symm hne]

end ParserCombinators
