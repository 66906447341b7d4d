import ParserCombinators.Unicode.Ranges

/-!
# White space

The characters with the White_Space property: the control characters from tab to carriage
return, the space, the next-line control and the wider spaces and separators.
-/

namespace ParserCombinators.Unicode

/-- The code points with the White_Space property. -/
def blankRanges : Ranges :=
   [(9, 13), (32, 32), (133, 133), (160, 160), (5760, 5760), (8192, 8202), (8232, 8233),
    (8239, 8239), (8287, 8287), (12288, 12288)]

/-- Whether the character is white space. -/
def isBlank (c : Char) : Bool :=
  inRanges blankRanges c.toNat

end ParserCombinators.Unicode
