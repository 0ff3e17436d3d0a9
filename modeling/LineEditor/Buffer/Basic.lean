import LineEditor.Cluster
import LineEditor.Position

/-!
# The buffer

The text being edited, with the cursor in it.  A buffer holds the text before the cursor and the
text after it; lines and positions are views of the two.  Every buffer made by the functions here
is free of carriage returns, so a line feed is the only line break in it.  How the text is stored, line
by line, is left to `LineBuffer`, of which every operation comes to the one here.

* views (`text`, `lines`, `cursor`, `currentLine`);
* places (`isValid`, `clamp`, `place`);
* insertion and erasure (`insert`, `erase`);
* motion to the ends of the line and of the text.
-/

namespace LineEditor

/-- A use of the buffer that its caller must rule out. -/
inductive Misuse where
  /-- The cursor was to be put where there is no text. -/
  | cursorOutside (place : Position)
  /-- A range was to be erased that does not lie in the text. -/
  | rangeOutside (start stop : Position)
  deriving Repr, DecidableEq, Inhabited

/-- What is said of a misuse. -/
def Misuse.message : Misuse → String
  | .cursorOutside place => "cursor " ++ place.describe ++ " outside buffer"
  | .rangeOutside start stop =>
    "erase range outside buffer: " ++ start.describe ++ ".." ++ stop.describe

/-- The text being edited, parted by the cursor. -/
structure Buffer where
  before : Text
  after : Text
  deriving Repr, DecidableEq, Inhabited

namespace Buffer

/-- A buffer without text. -/
def empty : Buffer := { before := [], after := [] }

/-! ## Views -/

/-- The whole text. -/
def text (b : Buffer) : Text := b.before ++ b.after

/-- The lines of the text. -/
def lines (b : Buffer) : List Text := b.text.lines

/-- The position of the cursor. -/
def cursor (b : Buffer) : Position := .endOf b.before

/-- The line that the cursor is on. -/
def currentLine (b : Buffer) : Text := b.before.lastLine ++ b.after.firstLine

/-- Whether the buffer holds no text. -/
def isEmpty (b : Buffer) : Bool := b.text.isEmpty

/-! ## Places -/

/-- Whether the text has the position `p`. -/
def isValid (b : Buffer) (p : Position) : Bool := (b.text.offset? p).isSome

/-- The buffer with the cursor after the first `n` characters. -/
def atOffset (b : Buffer) (n : Nat) : Buffer :=
  { before := b.text.take n, after := b.text.drop n }

/-- The start of the cluster that contains byte `offset` of a line, or `offset` itself between
two clusters. -/
def clusterFloor (offset : Nat) : List Text → Nat
  | [] => 0
  | cluster :: rest =>
    if cluster.size ≤ offset then cluster.size + clusterFloor (offset - cluster.size) rest else 0

/-- The place in a text that `p` is put back to: the last line at most, the end of the line at most,
and the start of the cluster there. -/
def clampIn (lines : List Text) (p : Position) : Position :=
  let line := min p.line (lines.length - 1)
  let text := lines.getD line []
  { offset := clusterFloor (min p.offset text.size) text.clusters, line }

/-- The place in the buffer that `p` is put back to. -/
def clamp (b : Buffer) (p : Position) : Position := clampIn b.lines p

/-- Puts the cursor at `p`, which must be a position of the text. -/
def place (b : Buffer) (p : Position) : Except Misuse Buffer :=
  match b.text.offset? p with
  | some n => .ok (b.atOffset n)
  | none => .error (.cursorOutside p)

/-- Puts the cursor at `p`, or as near to it as the text allows. -/
def setCursor (b : Buffer) (p : Position) : Buffer :=
  match b.text.offset? (b.clamp p) with
  | some n => b.atOffset n
  | none => b

/-! ## Insertion -/

/-- Inserts text before the cursor.  Carriage returns in it count as line breaks. -/
def insert (b : Buffer) (text : Text) : Buffer :=
  { b with before := b.before ++ text.normalizeBreaks }

/-- A buffer that holds `text`, with the cursor at its end. -/
def ofText (text : Text) : Buffer := empty.insert text

/-! ## Erasure -/

/-- Erases the characters from the `start`-th to before the `stop`-th.  The cursor stays between
the same characters, or where the erased text stood. -/
def eraseSpan (b : Buffer) (start stop : Nat) : Buffer :=
  let n := b.before.length
  { before := b.before.take start ++ b.before.drop stop
    after := b.after.take (start - n) ++ b.after.drop (stop - n) }

/-- Erases the text between two positions, given in either order, and returns it.  Two different
positions must both lie in the text. -/
def erase (b : Buffer) (p q : Position) : Except Misuse (Text × Buffer) :=
  if p = q then .ok ([], b)
  else
    let (start, stop) := if q < p then (q, p) else (p, q)
    match b.text.offset? start, b.text.offset? stop with
    | some i, some j => .ok ((b.text.take j).drop i, b.eraseSpan i j)
    | _, _ => .error (.rangeOutside start stop)

/-- Erases the last `n` characters before the cursor and returns them. -/
def cutBefore (b : Buffer) (n : Nat) : Text × Buffer :=
  let kept := b.before.length - n
  (b.before.drop kept, { b with before := b.before.take kept })

/-- Erases the first `n` characters after the cursor and returns them. -/
def cutAfter (b : Buffer) (n : Nat) : Text × Buffer :=
  (b.after.take n, { b with after := b.after.drop n })

/-! ## Motion to the ends -/

/-- Moves the cursor back over `n` characters. -/
def retreat (b : Buffer) (n : Nat) : Buffer :=
  let kept := b.before.length - n
  { before := b.before.take kept, after := b.before.drop kept ++ b.after }

/-- Moves the cursor on over `n` characters. -/
def advance (b : Buffer) (n : Nat) : Buffer :=
  { before := b.before ++ b.after.take n, after := b.after.drop n }

/-- Moves to the start of the line; whether the cursor moved. -/
def toLineStart (b : Buffer) : Bool × Buffer :=
  (!b.before.lastLine.isEmpty, b.retreat b.before.lastLine.length)

/-- Moves to the end of the line; whether the cursor moved. -/
def toLineEnd (b : Buffer) : Bool × Buffer :=
  (!b.after.firstLine.isEmpty, b.advance b.after.firstLine.length)

/-- Moves to the start of the text; whether the cursor moved. -/
def toStart (b : Buffer) : Bool × Buffer :=
  (!b.before.isEmpty, { before := [], after := b.text })

/-- Moves to the end of the text; whether the cursor moved. -/
def toEnd (b : Buffer) : Bool × Buffer :=
  (!b.after.isEmpty, { before := b.text, after := [] })

end Buffer

end LineEditor
