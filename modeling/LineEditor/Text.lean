/-!
# Text

Text is a list of characters.  Offsets into it are counted in bytes of its UTF-8 encoding, so an
offset may fall inside a character; the functions here say what an offset means and how a text
falls into lines.

* sizes and cuts at byte offsets (`size`, `splitAt?`, `takeBytes`);
* lines (`lines`, `unlines`, `firstLine`, `lastLine`), with `unlines_lines`: the lines of a text make
  up the text;
* line breaks in text from outside (`normalizeBreaks`).
-/

namespace LineEditor

/-- Text, character by character. -/
abbrev Text := List Char

namespace Text

/-! ## Byte offsets -/

/-- The length of a text in bytes. -/
def size : Text → Nat
  | [] => 0
  | c :: rest => c.utf8Size + size rest

/-- The two parts of a text around byte `n`, unless `n` lies past its end or inside a
character. -/
def splitAt? : Text → Nat → Option (Text × Text)
  | [], n => if n = 0 then some ([], []) else none
  | c :: rest, n =>
    if n = 0 then some ([], c :: rest)
    else if c.utf8Size ≤ n then
      (splitAt? rest (n - c.utf8Size)).map fun (left, right) => (c :: left, right)
    else none

/-- The longest prefix of at most `n` bytes. -/
def takeBytes : Text → Nat → Text
  | [], _ => []
  | c :: rest, n => if c.utf8Size ≤ n then c :: takeBytes rest (n - c.utf8Size) else []

/-! ## Lines -/

/-- Puts a character in front of the first line. -/
def consFirst (c : Char) : List Text → List Text
  | [] => [[c]]
  | line :: rest => (c :: line) :: rest

/-- The lines of a text, without the line feeds between them.  There is always at least one. -/
def lines : Text → List Text
  | [] => [[]]
  | c :: rest => if c = '\n' then [] :: lines rest else consFirst c (lines rest)

/-- Lines joined by line feeds. -/
def unlines : List Text → Text
  | [] => []
  | [line] => line
  | line :: rest => line ++ '\n' :: unlines rest

theorem lines_ne_nil (text : Text) : text.lines ≠ [] := by
  cases text with
  | nil => simp [lines]
  | cons c rest =>
    simp only [lines]
    split
    · simp
    · cases lines rest <;> simp [consFirst]

/-- Joining the lines of a text gives the text again. -/
theorem unlines_lines (text : Text) : unlines text.lines = text := by
  induction text with
  | nil => rfl
  | cons c rest ih =>
    have hne := lines_ne_nil rest
    simp only [lines]
    split
    · next hc =>
      cases hrest : lines rest with
      | nil => exact absurd hrest hne
      | cons line more => simp [unlines, ← hrest, ih, hc]
    · cases hrest : lines rest with
      | nil => exact absurd hrest hne
      | cons line more =>
        rw [hrest] at ih
        cases more with
        | nil => simp_all [consFirst, unlines]
        | cons next more => simp_all [consFirst, unlines]

/-- The text up to the first line feed. -/
def firstLine (text : Text) : Text :=
  text.takeWhile (· ≠ '\n')

/-- The text after the last line feed. -/
def lastLine (text : Text) : Text :=
  (text.reverse.takeWhile (· ≠ '\n')).reverse

/-! ## Line breaks from outside -/

/-- The text with each carriage return, and each carriage return with the line feed after it,
replaced by one line feed. -/
def normalizeBreaks : Text → Text
  | [] => []
  | '\r' :: '\n' :: rest => '\n' :: normalizeBreaks rest
  | c :: rest => (if c = '\r' then '\n' else c) :: normalizeBreaks rest

/-- The text `n` times in a row. -/
def times (text : Text) (n : Nat) : Text :=
  if text.isEmpty then [] else (List.replicate n text).flatten

end Text

end LineEditor
