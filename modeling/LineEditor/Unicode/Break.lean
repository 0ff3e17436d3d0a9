import LineEditor.Unicode.Format
import LineEditor.Unicode.GraphemeExtend
import LineEditor.Unicode.SpacingMark

/-!
# Cluster break classes

Whether two neighbouring characters belong to one display cluster depends on their classes.  The
class of a character is its value of the property Grapheme_Cluster_Break.
-/

namespace LineEditor.Unicode

/-! ## Single characters with a part of their own -/

/-- The zero-width joiner, which ties two pictures or two letters together. -/
def joinerChar : Char := '\u200d'

/-- Whether `c` is one of the five skin tones. -/
def isSkinTone (c : Char) : Bool :=
  0x1F3FB ≤ c.toNat && c.toNat ≤ 0x1F3FF

/-- Whether `c` is a regional indicator, two of which name a flag. -/
def isRegionalIndicator (c : Char) : Bool :=
  0x1F1E6 ≤ c.toNat && c.toNat ≤ 0x1F1FF

/-- Whether `c` is a control character, of the general category Cc. -/
def isControl (c : Char) : Bool :=
  c.toNat < 0x20 || (0x7F ≤ c.toNat && c.toNat < 0xA0)

/-! ## Classes -/

/-- The class of a character, by which clusters are told apart. -/
inductive Break where
  | carriageReturn
  | lineFeed
  | control
  | extend
  | joiner
  | regional
  | leading
  | spacing
  | hangulL
  | hangulV
  | hangulT
  | hangulLV
  | hangulLVT
  | other
  deriving Repr, DecidableEq, Inhabited

namespace Break

/-- The class of a character at or above U+0300 that is neither a mark nor a control: the parts
of Hangul syllables, the syllables themselves, of which every twenty-eighth has no final
consonant, and the Kirat Rai vowel signs, which join like Hangul vowels. -/
def ofLetter (n : Nat) : Break :=
  if n < 0x1100 then .other
  else if n ≤ 0x115F then .hangulL
  else if n ≤ 0x11A7 then .hangulV
  else if n ≤ 0x11FF then .hangulT
  else if n < 0xA960 then .other
  else if n ≤ 0xA97C then .hangulL
  else if n < 0xAC00 then .other
  else if n ≤ 0xD7A3 then
    if (n - 0xAC00) % 28 = 0 then .hangulLV else .hangulLVT
  else if n < 0xD7B0 then .other
  else if n ≤ 0xD7C6 then .hangulV
  else if n < 0xD7CB then .other
  else if n ≤ 0xD7FB then .hangulT
  else if n = 0x16D63 || (0x16D67 ≤ n && n ≤ 0x16D6A) then .hangulV
  else .other

/-- The class of `c`. -/
def ofChar (c : Char) : Break :=
  if c = '\r' then .carriageReturn
  else if c = '\n' then .lineFeed
  else if isClusterControl c then .control
  else if c.toNat < 0x300 then .other
  else if c = joinerChar then .joiner
  else if isGraphemeExtend c || isSkinTone c then .extend
  else if isRegionalIndicator c then .regional
  else if isLeadingMark c then .leading
  else if isSpacingMark c then .spacing
  else ofLetter c.toNat

/-- Whether a character of the class always stands alone, next to anything but the other half
of a line break. -/
def isAlone : Break → Bool
  | .carriageReturn | .lineFeed | .control => true
  | _ => false

/-- Whether a character of the class always belongs to the cluster before it. -/
def isTrailing : Break → Bool
  | .extend | .joiner | .spacing => true
  | _ => false

/-- Whether two characters of the classes form parts of one Hangul syllable. -/
def formSyllable : Break → Break → Bool
  | .hangulL, .hangulL | .hangulL, .hangulV | .hangulL, .hangulLV | .hangulL, .hangulLVT => true
  | .hangulV, .hangulV | .hangulV, .hangulT | .hangulLV, .hangulV | .hangulLV, .hangulT => true
  | .hangulT, .hangulT | .hangulLVT, .hangulT => true
  | _, _ => false

end Break

end LineEditor.Unicode
