import ParserCombinators.Text.Basic

/-!
# Where output goes

Output is a series of texts. A buffer holds them in one text with line feeds in between. A
terminal prints each text on a line of its own and may set off the word that reports a match.
-/

namespace ParserCombinators

/-- The text of a buffer after one more text is put out. A line feed goes in front unless the
buffer is empty. -/
def bufferEmit (buffer text : Text) : Text :=
  (if buffer.isEmpty then [] else buffer ++ ['\n']) ++ text

/-- The text of a buffer after a series of texts. -/
def bufferAll (texts : List Text) : Text :=
  texts.foldl bufferEmit []

/-- The texts of a buffer after each of a series of texts. -/
def bufferStages (buffer : Text) : List Text → List Text
  | [] => []
  | text :: rest => bufferEmit buffer text :: bufferStages (bufferEmit buffer text) rest

/-- The word that reports a match. -/
def matchedWord : Text :=
  "matched".toList

/-- The word that reports a match, in bold green. -/
def colouredMatchedWord : Text :=
  "\x1b[0m\x1b[1m\x1b[32m".toList ++ matchedWord ++ "\x1b[0m".toList

/-- A text as a terminal prints it. With colour the first word is set off if it reports a match
and a space follows it. -/
def terminalLine (colour : Bool) (text : Text) : Text :=
  match stripStart? (matchedWord ++ [' ']) text with
  | some rest => (if colour then colouredMatchedWord else matchedWord) ++ ' ' :: rest ++ ['\n']
  | none => text ++ ['\n']

/-- A series of texts as a terminal prints them. -/
def terminalAll (colour : Bool) (texts : List Text) : Text :=
  texts.flatMap (terminalLine colour)

end ParserCombinators
