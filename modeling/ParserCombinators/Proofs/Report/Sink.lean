import ParserCombinators.Report.Sink

/-!
# Buffers and terminals

Without colour a terminal prints each text and a line feed, so it prints the joined texts and a last
line feed. Colour sets off a first word only, so a text that does not begin with the word that
reports a match is printed as it stands.

A buffer that holds something grows like the joined texts. But a buffer does not know how many texts
it was given: as long as it holds nothing, it begins anew with the next text. The line feed behind
an empty text at the beginning is lost, and nothing else is.
-/

namespace ParserCombinators

variable {buffer text : Text} {texts : List Text}

/-- How many line feeds a buffer loses: one for each empty text at the beginning that has a text
behind it. -/
def lostLineFeeds (texts : List Text) : Nat :=
  (texts.dropLast.takeWhile List.isEmpty).length

/-- Without colour a text is printed as it stands. -/
theorem terminalLine_plain (text : Text) : terminalLine false text = text ++ ['\n'] := by
  unfold terminalLine
  cases hstrip : stripStart? (matchedWord ++ [' ']) text with
  | none => rfl
  | some rest =>
    rw [stripStart?_eq_some_iff.1 hstrip]
    simp

/-- The report of a match is printed with its first word set off. -/
theorem terminalLine_matched (colour : Bool) (rest : Text) :
    terminalLine colour (matchedWord ++ ' ' :: rest) =
      (if colour then colouredMatchedWord else matchedWord) ++ ' ' :: rest ++ ['\n'] := by
  have hstrip : stripStart? (matchedWord ++ [' ']) (matchedWord ++ ' ' :: rest) = some rest :=
    stripStart?_eq_some_iff.2 (by simp)
  rw [terminalLine, hstrip]

/-- A text that does not begin with the word that reports a match is printed as it stands. -/
theorem terminalLine_other (colour : Bool) {text : Text} (h : ¬ matchedWord <+: text) :
    terminalLine colour text = text ++ ['\n'] := by
  have hstrip : stripStart? (matchedWord ++ [' ']) text = none := by
    cases hsome : stripStart? (matchedWord ++ [' ']) text with
    | none => rfl
    | some rest =>
      rw [stripStart?_eq_some_iff.1 hsome, List.append_assoc] at h
      exact absurd (List.prefix_append _ _) h
  rw [terminalLine, hstrip]

/-- Without colour a terminal prints the joined texts and a line feed. -/
theorem terminalAll_joined (hne : texts ≠ []) :
    terminalAll false texts = ['\n'].intercalate texts ++ ['\n'] := by
  induction texts with
  | nil => exact absurd rfl hne
  | cons text texts ih =>
    cases texts with
    | nil => simp [terminalAll, terminalLine_plain]
    | cons next rest =>
      have hrest := ih (List.cons_ne_nil next rest)
      rw [terminalAll] at hrest ⊢
      rw [List.flatMap_cons, hrest, terminalLine_plain, List.intercalate_cons_cons]
      simp only [List.append_assoc]

/-- Without its last line feed, what a terminal prints is the joined texts. -/
theorem dropLast_terminalAll (texts : List Text) :
    (terminalAll false texts).dropLast = ['\n'].intercalate texts := by
  cases texts with
  | nil => rfl
  | cons text texts => rw [terminalAll_joined (List.cons_ne_nil text texts), List.dropLast_concat]

/-- A buffer that holds nothing begins with the next text. -/
@[simp] theorem bufferEmit_nil (text : Text) : bufferEmit [] text = text := rfl

/-- A buffer that holds something goes on with a line feed and the next text. -/
theorem bufferEmit_of_ne_nil (hbuffer : buffer ≠ []) (text : Text) :
    bufferEmit buffer text = buffer ++ ['\n'] ++ text := by
  rw [bufferEmit, if_neg (mt List.isEmpty_iff.1 hbuffer)]

/-- A buffer that holds something is joined with all the texts that follow, also with empty ones. -/
theorem foldl_bufferEmit (hbuffer : buffer ≠ []) (texts : List Text) :
    texts.foldl bufferEmit buffer = ['\n'].intercalate (buffer :: texts) := by
  induction texts generalizing buffer with
  | nil => simp
  | cons text texts ih =>
    rw [List.foldl_cons, bufferEmit_of_ne_nil hbuffer, ih (by simp [hbuffer])]
    cases texts <;> simp [List.intercalate_cons_cons]

/-- Texts are joined in a buffer if the first of them is not empty. -/
theorem bufferAll_joined (htext : text ≠ []) (texts : List Text) :
    bufferAll (text :: texts) = ['\n'].intercalate (text :: texts) :=
  foldl_bufferEmit htext texts

/-- The joined texts are what a buffer holds behind the line feeds that it loses. -/
theorem joined_eq_lost_append (texts : List Text) :
    ['\n'].intercalate texts =
      List.replicate (lostLineFeeds texts) '\n' ++ bufferAll texts := by
  induction texts with
  | nil => rfl
  | cons text texts ih =>
    cases texts with
    | nil => simp [lostLineFeeds, bufferAll]
    | cons next rest =>
      by_cases htext : text = []
      · subst htext
        have hlost : lostLineFeeds ([] :: next :: rest) = lostLineFeeds (next :: rest) + 1 := rfl
        have hbuffer : bufferAll ([] :: next :: rest) = bufferAll (next :: rest) := rfl
        rw [List.intercalate_cons_cons, ih, hlost, hbuffer, List.replicate_succ]
        rfl
      · have hlost : lostLineFeeds (text :: next :: rest) = 0 := by simp [lostLineFeeds, htext]
        rw [hlost, bufferAll_joined htext]
        rfl

/-- A buffer loses a line feed exactly if the first text is empty and not the only one. -/
theorem lostLineFeeds_eq_zero_iff :
    lostLineFeeds texts = 0 ↔ ¬∃ next rest, texts = [] :: next :: rest := by
  match texts with
  | [] => simp [lostLineFeeds]
  | [text] => simp [lostLineFeeds]
  | text :: next :: rest => simp [lostLineFeeds, List.takeWhile_cons]

/-- A terminal prints the joined texts and a last line feed. A buffer holds the same without that
line feed, less one line feed for each empty text at the beginning that has a text behind it. So the
two differ exactly if the first text is empty and not the only one. -/
theorem bufferAll_loses_leading (texts : List Text) :
    (terminalAll false texts).dropLast = ['\n'].intercalate texts ∧
      (terminalAll false texts).dropLast =
        List.replicate (lostLineFeeds texts) '\n' ++ bufferAll texts ∧
      (bufferAll texts = (terminalAll false texts).dropLast ↔
        ¬∃ next rest, texts = [] :: next :: rest) := by
  have hlost : (terminalAll false texts).dropLast =
      List.replicate (lostLineFeeds texts) '\n' ++ bufferAll texts :=
    (dropLast_terminalAll texts).trans (joined_eq_lost_append texts)
  refine ⟨dropLast_terminalAll texts, hlost, ?_⟩
  rw [hlost, ← lostLineFeeds_eq_zero_iff, List.self_eq_append_left, List.replicate_eq_nil_iff]

/-- An empty text in front of a letter leaves no trace in a buffer, and a line of its own on a
terminal. -/
theorem bufferAll_not_joined :
    bufferAll ["".toList, "a".toList] = bufferAll ["a".toList] ∧
      bufferAll ["".toList, "a".toList] ≠ ['\n'].intercalate ["".toList, "a".toList] ∧
      terminalAll false ["".toList, "a".toList] = "\na\n".toList := by
  decide

/-- For texts that are not empty, a terminal prints what a buffer holds and then a line feed. -/
theorem terminalAll_plain (hne : texts ≠ []) (htexts : [] ∉ texts) :
    terminalAll false texts = bufferAll texts ++ ['\n'] := by
  cases texts with
  | nil => exact absurd rfl hne
  | cons text texts =>
    have htext : text ≠ [] := fun h => htexts (h ▸ List.mem_cons_self)
    rw [terminalAll_joined hne, bufferAll_joined htext]

end ParserCombinators
