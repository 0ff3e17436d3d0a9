import LineEditor.Unicode.Break
import LineEditor.Unicode.Emoji
import LineEditor.Unicode.Joining
import LineEditor.Unicode.Wide

/-!
# Width in cells

How many cells of the screen a text takes.  A character has a width of its own (`charWidth`), but
some characters change the width of the one before them: a selector makes a picture of a character
or plain text of a picture, a skin tone or a joiner melts into the picture before it, two regional
indicators make one flag, and in some scripts two letters are written as one sign.  So a text is
measured from its end: `step` gives the width of one character before a known sequel, and the
sequel that it makes in turn.

* the width of a single character (`isZeroWidth`, `charWidth`);
* what follows a character (`Sequel`, `Following`);
* the width of a text (`step`, `textWidth`).
-/

namespace LineEditor.Unicode

/-! ## Single characters -/

/-- Whether `c` takes no cell of its own: it cannot be seen, or it is drawn on the character
before or after it. -/
def isZeroWidth (c : Char) : Bool :=
  let n := c.toNat
  isIgnorable c
    || (isGraphemeExtend c && n ≠ 0xFF9E && n ≠ 0xFF9F)
    || (0x1160 ≤ n && n ≤ 0x11FF) || (0xD7B0 ≤ n && n ≤ 0xD7C6) || (0xD7CB ≤ n && n ≤ 0xD7FB)
    || n = 0x0605 || n = 0x070F || n = 0x0890 || n = 0x0891 || n = 0x08E2 || n = 0xA8FA
    || (isLeadingMark c && !isSpanningMark c)

/-- The cells that `c` takes on its own.  Two fillers that stand for a letter, the sign of a
consonant joiner and one three-part abbreviation are drawn although their kind is invisible. -/
def charWidth (c : Char) : Nat :=
  let n := c.toNat
  if n ≤ 0xA0 then 1
  else if n = 0x2D7F then 1
  else if n = 0x115F || n = 0x17A4 then 2
  else if n = 0x17D8 then 3
  else if isZeroWidth c then 0
  else if isWide c then 2
  else 1

/-! ## What follows a character -/

/-- Letters that may be written together with a letter before them. -/
inductive Ligature where
  /-- Hebrew lamed, which a joiner ties to an alef. -/
  | lamed
  /-- A Khmer consonant, written below the one before it after a coeng. -/
  | khmerConsonant
  /-- Buginese ya, which a joiner ties to a vowel sign. -/
  | ya
  /-- Buginese ya with the vowel sign before it. -/
  | vowelYa
  /-- A Tifinagh consonant. -/
  | tifinagh
  /-- A Tifinagh consonant with the consonant joiner before it. -/
  | joinedTifinagh
  /-- One of the two Lisu tone letters that end a pair. -/
  | lisuTone
  /-- Old Turkic orkhon i. -/
  | orkhonI
  deriving Repr, DecidableEq, Inhabited

/-- What the text after a character begins with, as far as the width of the character depends
on it. -/
inductive Sequel where
  /-- Nothing that changes a width. -/
  | plain
  | lineFeed
  | skinTone
  /-- One regional indicator. -/
  | regional
  /-- Two or more regional indicators. -/
  | regionals
  /-- A picture. -/
  | emoji
  /-- A joiner and a picture. -/
  | joinedEmoji
  /-- A keycap sign, a joiner and a picture. -/
  | joinedKeycap
  /-- One regional indicator, a joiner and a picture. -/
  | joinedRegional
  /-- An even number of regional indicators, a joiner and a picture. -/
  | joinedEven
  /-- An odd number of regional indicators above one, a joiner and a picture. -/
  | joinedOdd
  /-- The end tag, a joiner and a picture, with this many digit tags before it and before them
  this many letter tags. -/
  | joinedTag (digits letters : Nat)
  /-- Arabic alef, with marks at most before it. -/
  | alef
  /-- A letter that may be written with the one before it; whether a joiner stands between. -/
  | letter (kind : Ligature) (joined : Bool)
  /-- The Kirat Rai vowel sign e. -/
  | kiratE
  /-- The Kirat Rai vowel sign ai. -/
  | kiratAi
  deriving Repr, DecidableEq, Inhabited

namespace Sequel

/-- Whether the sequel is a picture that a joiner waits to tie to another. -/
def awaitsPicture : Sequel → Bool
  | .joinedEmoji | .joinedKeycap => true
  | _ => false

/-- Whether the sequel is a letter to be written with the one before it. -/
def isLetter : Sequel → Bool
  | .letter _ _ | .alef => true
  | _ => false

end Sequel

/-- A sequel with the selectors in front of it. -/
structure Following where
  sequel : Sequel
  /-- Whether a selector asks for the picture form of the character before. -/
  asPicture : Bool := false
  /-- Whether a selector asks for the text form of the character before. -/
  asText : Bool := false
  /-- Whether a selector asks for the wide form of the character before. -/
  asWide : Bool := false
  deriving Repr, DecidableEq, Inhabited

namespace Following

/-- A sequel without selectors. -/
def of (sequel : Sequel) : Following := { sequel }

/-- Nothing that changes a width. -/
def nothing : Following := of .plain

/-- The picture selector in front. -/
def selectPicture (f : Following) : Following :=
  if f.sequel.isLetter || f.sequel.awaitsPicture then { f with asPicture := true }
  else { sequel := .plain, asPicture := true }

/-- The text selector in front. -/
def selectText (f : Following) : Following :=
  if f.sequel.isLetter then { f with asText := true }
  else { sequel := .plain, asText := true }

/-- The wide selector in front. -/
def selectWide (f : Following) : Following :=
  if f.sequel.isLetter then { f with asWide := true }
  else { sequel := .plain, asWide := true }

/-- The picture selector without effect: only a letter behind it still matters. -/
def dropPicture (f : Following) : Following :=
  if f.sequel.isLetter then { f with asPicture := false } else nothing

end Following

/-! ## The width of a text -/

/-- Whether the Khmer consonant `n` may be written below another one. -/
def isKhmerStacking (n : Nat) : Bool :=
  Ranges.containsCode
    [(0x1780, 0x1782), (0x1784, 0x1787), (0x1789, 0x178C), (0x178E, 0x1793), (0x1795, 0x1798),
     (0x179B, 0x179D), (0x17A0, 0x17A0), (0x17A2, 0x17A2), (0x17A7, 0x17A7), (0x17AB, 0x17AC),
     (0x17AF, 0x17AF)] n

/-- Whether `n` is a Tifinagh letter. -/
def isTifinagh (n : Nat) : Bool :=
  (0x2D31 ≤ n && n ≤ 0x2D65) || n = 0x2D6F

/-- Whether `c` may stand between two letters that are written together. -/
def isTransparentMark (c : Char) : Bool :=
  Ranges.contains
    [(0x034F, 0x034F), (0x17B4, 0x17B5), (0x180B, 0x180D), (0x180F, 0x180F), (0xFE00, 0xFE0F),
     (0xE0100, 0xE01EF)] c

/-- The sequel that a character makes for the one before it, when the text after it changes
nothing. -/
def sequelOf (c : Char) : Following :=
  let n := c.toNat
  if n = 0xFE0F then { sequel := .plain, asPicture := true }
  else if n = 0xFE0E then { sequel := .plain, asText := true }
  else if n = 0xFE01 then { sequel := .plain, asWide := true }
  else if n = 0x05DC then .of (.letter .lamed false)
  else if isAlef c then .of .alef
  else if isKhmerStacking n then .of (.letter .khmerConsonant false)
  else if n = 0x1A10 then .of (.letter .ya false)
  else if isTifinagh n then .of (.letter .tifinagh false)
  else if n = 0xA4FC || n = 0xA4FD then .of (.letter .lisuTone false)
  else if n = 0x10C03 then .of (.letter .orkhonI false)
  else if n = 0x16D67 then .of .kiratE
  else if n = 0x16D68 then .of .kiratAi
  else if isSkinTone c then .of .skinTone
  else if isRegionalIndicator c then .of .regional
  else if isEmoji c then .of .emoji
  else .nothing

/-- The width of `c` before text that changes nothing. -/
def stepPlain (c : Char) : Int × Following :=
  (charWidth c, sequelOf c)

/-- The change of width where `c` is written together with the letter after it, if it is. -/
def stepLetter? (c : Char) (kind : Ligature) (joined : Bool) : Option (Int × Following) :=
  let n := c.toNat
  match kind with
  | .lamed => if joined && n = 0x05D0 then some (0, .nothing) else none
  | .khmerConsonant => if !joined && n = 0x17D2 then some (-1, .nothing) else none
  | .ya => if joined && n = 0x1A17 then some (0, .of (.letter .vowelYa false)) else none
  | .vowelYa => if !joined && n = 0x1A15 then some (0, .nothing) else none
  | .tifinagh =>
    if n = 0x2D7F then some (1, .of (.letter .joinedTifinagh false))
    else if joined && isTifinagh n then some (0, .nothing)
    else none
  | .joinedTifinagh => if !joined && isTifinagh n then some (-1, .nothing) else none
  | .lisuTone =>
    if !joined && 0xA4F8 ≤ n && n ≤ 0xA4FB then some (0, .nothing) else none
  | .orkhonI => if joined && n = 0x10C32 then some (0, .nothing) else none

/-- The width of `c` where it is a tag of a flag whose end tag is known, or the flag itself. -/
def stepTag? (c : Char) (digits letters : Nat) : Option (Int × Following) :=
  let n := c.toNat
  if 0xE0061 ≤ n && n ≤ 0xE007A then
    if digits = 0 && letters < 6 then some (0, .of (.joinedTag 0 (letters + 1))) else none
  else if 0xE0030 ≤ n && n ≤ 0xE0039 then
    if digits < 3 && letters < 5 then some (0, .of (.joinedTag (digits + 1) letters)) else none
  else if n = 0x1F3F4 then
    if digits = 3 || (digits = 0 && 3 ≤ letters) then some (0, .of .emoji) else none
  else none

/-- The width of `c` where it melts into its sequel, if it does. -/
def stepSequel? (c : Char) : Sequel → Option (Int × Following)
  | .plain | .lineFeed => none
  | .skinTone =>
    if isModifierBase c then some (0, .of .emoji)
    else if c = joinerChar then some (0, .of .joinedEmoji)
    else none
  | .regional => if isRegionalIndicator c then some (1, .of .regionals) else none
  | .regionals =>
    if isRegionalIndicator c then some (1, .of .regionals)
    else if c = joinerChar then some (0, .of .joinedEmoji)
    else none
  | .emoji => if c = joinerChar then some (0, .of .joinedEmoji) else none
  | .joinedEmoji =>
    if c.toNat = 0x20E3 then some (0, .of .joinedKeycap)
    else if isRegionalIndicator c then some (1, .of .joinedRegional)
    else if isSkinTone c then some (0, .of .skinTone)
    else if c.toNat = 0xE007F then some (0, .of (.joinedTag 0 0))
    else if isEmoji c then some (0, .of .emoji)
    else none
  | .joinedKeycap => none
  | .joinedRegional => if isRegionalIndicator c then some (-1, .of .joinedEven) else none
  | .joinedEven =>
    if isRegionalIndicator c then some (3, .of .joinedOdd)
    else if c = joinerChar then some (0, .of .joinedEmoji)
    else none
  | .joinedOdd =>
    if isRegionalIndicator c then some (-1, .of .joinedEven)
    else if c = joinerChar then some (0, .of .joinedEmoji)
    else none
  | .joinedTag digits letters => stepTag? c digits letters
  | .alef =>
    if isLam c then some (0, .nothing)
    else if isZeroWidth c && !isSeparating c then some (0, .of .alef)
    else none
  | .letter kind joined => stepLetter? c kind joined
  | .kiratE =>
    if c.toNat = 0x16D63 || c.toNat = 0x16D69 then some (0, .nothing)
    else if c.toNat = 0x16D67 then some (0, .of .kiratAi)
    else if c.toNat = 0x16D68 then some (1, .of .kiratE)
    else none
  | .kiratAi => if c.toNat = 0x16D63 then some (0, .nothing) else none

/-- The width of a character above U+00A0 before text that may change it. -/
def stepBefore (c : Char) (f : Following) : Int × Following :=
  let n := c.toNat
  if n = 0xFE0F then (0, f.selectPicture)
  else if n = 0xFE0E then (0, f.selectText)
  else if n = 0xFE01 then (0, f.selectWide)
  else if f.asText && hasNarrowText c then (1, .nothing)
  else if f.asWide && (n = 0x2018 || n = 0x2019 || n = 0x201C || n = 0x201D) then (2, .nothing)
  else
    let f : Following := .of f.sequel
    match f.sequel with
    | .letter kind joined =>
      if c = joinerChar then (0, .of (.letter kind true))
      else if isTransparentMark c then (0, f)
      else (stepLetter? c kind joined).getD (stepPlain c)
    | sequel => (stepSequel? c sequel).getD (stepPlain c)

/-- The width that `c` adds in front of a text, which a ligature may make negative, and what the
text then begins with. -/
def step (c : Char) (f : Following) : Int × Following :=
  if f.asPicture && isSelectable c then
    (if f.sequel.awaitsPicture then 0 else 2, .of .emoji)
  else
    let f := if f.asPicture then f.dropPicture else f
    if c.toNat ≤ 0xA0 then
      if c = '\n' then (1, .of .lineFeed)
      else if c = '\r' && f = .of .lineFeed then (0, .nothing)
      else (1, .nothing)
    else if f = .nothing then stepPlain c
    else stepBefore c f

/-- The width of a text and what it begins with. -/
def measure (text : List Char) : Int × Following :=
  text.foldr (fun c (width, f) => let (more, f) := step c f; (width + more, f)) (0, .nothing)

/-- The cells that a text takes, seen as one whole. -/
def textWidth (text : List Char) : Nat :=
  (measure text).1.toNat

end LineEditor.Unicode
