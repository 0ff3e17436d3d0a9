import LineEditor.Unicode.Ranges

/-!
# White space

The characters with the property White_Space.  The no-break spaces belong to it, the zero-width
space does not.
-/

namespace LineEditor.Unicode

/-- The code points with the property White_Space. -/
def whiteSpaceRanges : Ranges :=
  [(0x0009, 0x000D), (0x0020, 0x0020), (0x0085, 0x0085), (0x00A0, 0x00A0), (0x1680, 0x1680),
   (0x2000, 0x200A), (0x2028, 0x2029), (0x202F, 0x202F), (0x205F, 0x205F), (0x3000, 0x3000)]

/-- Whether `c` has the property White_Space. -/
def isWhiteSpace (c : Char) : Bool :=
  whiteSpaceRanges.contains c

end LineEditor.Unicode
