import LineEditor.Text

/-!
# Positions

A position names a place in a text by the number of its line and a byte offset into that line.
Positions are ordered as they stand in a text: by line first, by offset within a line.

* order of positions;
* places in a text (`Position.endOf`, `Text.offset?`);
* the span of a yank (`YankExtent`).
-/

namespace LineEditor

/-- A place in a text: a byte offset into a line. -/
structure Position where
  offset : Nat
  line : Nat
  deriving Repr, DecidableEq, Inhabited

namespace Position

/-! ## Order -/

/-- The first position of every text. -/
def zero : Position := { offset := 0, line := 0 }

instance : LT Position where
  lt p q := p.line < q.line ∨ (p.line = q.line ∧ p.offset < q.offset)

instance : LE Position where
  le p q := p.line < q.line ∨ (p.line = q.line ∧ p.offset ≤ q.offset)

instance (p q : Position) : Decidable (p < q) :=
  inferInstanceAs (Decidable (p.line < q.line ∨ (p.line = q.line ∧ p.offset < q.offset)))

instance (p q : Position) : Decidable (p ≤ q) :=
  inferInstanceAs (Decidable (p.line < q.line ∨ (p.line = q.line ∧ p.offset ≤ q.offset)))

instance : Min Position where
  min p q := if p ≤ q then p else q

instance : Max Position where
  max p q := if p ≤ q then q else p

instance : Ord Position where
  compare p q := (compare p.line q.line).then (compare p.offset q.offset)

/-! ## Notation in messages -/

/-- The position as it is written in messages. -/
def describe (p : Position) : String :=
  "Position \x7b x: " ++ toString p.offset ++ ", y: " ++ toString p.line ++ " \x7d"

/-! ## Places in a text -/

/-- The position at the end of a text. -/
def endOf (text : Text) : Position :=
  { offset := text.lastLine.size, line := text.count '\n' }

end Position

namespace Text

/-- The number of characters before position `(offset, line)` in a text with the given lines, if
there is such a position: a line with that number, and a place between two of its characters or
at one of its ends. -/
def offsetInLines? : List Text → Nat → Nat → Option Nat
  | [], _, _ => none
  | first :: _, offset, 0 => (first.splitAt? offset).map fun (left, _) => left.length
  | first :: rest, offset, line + 1 =>
    (offsetInLines? rest offset line).map (first.length + 1 + ·)

/-- The number of characters before a position of a text, if the text has the position. -/
def offset? (text : Text) (p : Position) : Option Nat :=
  offsetInLines? text.lines p.offset p.line

end Text

/-! ## Yanked text -/

/-- Where the text stands that the last yank inserted. -/
structure YankExtent where
  start : Position
  stop : Position
  deriving Repr, DecidableEq, Inhabited

/-- The extent before any yank. -/
def YankExtent.initial : YankExtent := { start := .zero, stop := .zero }

end LineEditor
