import ParserCombinators.Text.Basic
import ParserCombinators.Unicode.Shown

/-!
# Quoted text

Text between quotation marks on a single line. The usual control characters have short
escapes, and every other character without a visible form of its own is written as its code
point in braces.
-/

namespace ParserCombinators.Quoted

/-- A character as it is written between quotation marks. -/
def escapeChar (c : Char) : Text :=
  if c = '"' then ['\\', '"']
  else if c = '\\' then ['\\', '\\']
  else if c = '\t' then ['\\', 't']
  else if c = '\n' then ['\\', 'n']
  else if c = '\r' then ['\\', 'r']
  else if c = '\x00' then ['\\', '0']
  else if Unicode.isShown c then [c]
  else '\\' :: 'u' :: '\x7b' :: Nat.toDigits 16 c.toNat ++ ['\x7d']

/-- A text between quotation marks. -/
def quote (text : Text) : Text :=
  '"' :: text.flatMap escapeChar ++ ['"']

end ParserCombinators.Quoted
