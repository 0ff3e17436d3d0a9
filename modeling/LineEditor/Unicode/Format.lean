import LineEditor.Unicode.Ranges

/-!
# Controls and leading marks

Characters that act on the text around them: those with the cluster break property Control, which
stand alone, those with the property Prepend, which belong to the cluster after them, and those that
are ignored where they cannot be drawn.
-/

namespace LineEditor.Unicode

/-- The code points with the cluster break property Control, the two line break characters apart. -/
def controlRanges : Ranges :=
  [(0x0000, 0x0009), (0x000B, 0x000C), (0x000E, 0x001F), (0x007F, 0x009F), (0x00AD, 0x00AD),
   (0x061C, 0x061C), (0x180E, 0x180E), (0x200B, 0x200B), (0x200E, 0x200F), (0x2028, 0x202E),
   (0x2060, 0x206F), (0xFEFF, 0xFEFF), (0xFFF0, 0xFFFB), (0x13430, 0x1343F), (0x1BCA0, 0x1BCA3),
   (0x1D173, 0x1D17A), (0xE0000, 0xE001F), (0xE0080, 0xE00FF), (0xE01F0, 0xE0FFF)]

/-- Whether `c` has the cluster break property Control and is no line break. -/
def isClusterControl (c : Char) : Bool :=
  controlRanges.contains c

/-- The code points with the cluster break property Prepend. -/
def leadingMarkRanges : Ranges :=
  [(0x0600, 0x0605), (0x06DD, 0x06DD), (0x070F, 0x070F), (0x0890, 0x0891), (0x08E2, 0x08E2),
   (0x0D4E, 0x0D4E), (0x110BD, 0x110BD), (0x110CD, 0x110CD), (0x111C2, 0x111C3),
   (0x113D1, 0x113D1), (0x1193F, 0x1193F), (0x11941, 0x11941), (0x11A84, 0x11A89),
   (0x11D46, 0x11D46), (0x11F02, 0x11F02)]

/-- Whether `c` has the cluster break property Prepend. -/
def isLeadingMark (c : Char) : Bool :=
  leadingMarkRanges.contains c

/-- The leading marks that are drawn around or over the digits after them. -/
def spanningMarkRanges : Ranges :=
  [(0x0600, 0x0605), (0x06DD, 0x06DD), (0x070F, 0x070F), (0x0890, 0x0891), (0x08E2, 0x08E2),
   (0x110BD, 0x110BD), (0x110CD, 0x110CD)]

/-- Whether `c` is drawn around or over the digits after it. -/
def isSpanningMark (c : Char) : Bool :=
  spanningMarkRanges.contains c

/-- The code points with the property Default_Ignorable_Code_Point. -/
def ignorableRanges : Ranges :=
  [(0x00AD, 0x00AD), (0x034F, 0x034F), (0x061C, 0x061C), (0x115F, 0x1160), (0x17B4, 0x17B5),
   (0x180B, 0x180F), (0x200B, 0x200F), (0x202A, 0x202E), (0x2060, 0x206F), (0x3164, 0x3164),
   (0xFE00, 0xFE0F), (0xFEFF, 0xFEFF), (0xFFA0, 0xFFA0), (0xFFF0, 0xFFF8), (0x1BCA0, 0x1BCA3),
   (0x1D173, 0x1D17A), (0xE0000, 0xE0FFF)]

/-- Whether `c` has the property Default_Ignorable_Code_Point. -/
def isIgnorable (c : Char) : Bool :=
  ignorableRanges.contains c

end LineEditor.Unicode
