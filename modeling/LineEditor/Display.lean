import LineEditor.Cluster
import LineEditor.Escape
import LineEditor.Unicode.Width

/-!
# Text on the screen

A text is shown piece by piece: an escape sequence takes no cell, a display cluster takes as many
as its width.  Neither is ever split.

* pieces of a text (`Piece`, `Text.pieces`);
* width of a text in cells (`clusterWidth`, `Text.visibleWidth`);
* longest prefix that fits in a number of cells (`Piece.fit`, `Text.truncate`).
-/

namespace LineEditor

open Unicode

/-! ## Pieces -/

/-- The cells that a cluster takes.  Control characters are not drawn, so a cluster of nothing
else takes none. -/
def clusterWidth (cluster : Text) : Nat :=
  if cluster.all isControl then 0 else textWidth cluster

/-- A part of a text that is shown as a whole. -/
inductive Piece where
  | escape (text : Text)
  | cluster (text : Text)
  deriving Repr, DecidableEq, Inhabited

namespace Piece

/-- The text of a piece. -/
def text : Piece → Text
  | .escape text | .cluster text => text

/-- The cells that a piece takes. -/
def width : Piece → Nat
  | .escape _ => 0
  | .cluster text => clusterWidth text

/-- The text of a row of pieces. -/
def textOf (pieces : List Piece) : Text :=
  (pieces.map text).flatten

/-- The cells that a row of pieces takes. -/
def widthOf : List Piece → Nat
  | [] => 0
  | piece :: rest => piece.width + widthOf rest

/-- The longest row of leading pieces that fits in `room` cells, and the pieces after it. -/
def fit (room : Nat) : List Piece → List Piece × List Piece
  | [] => ([], [])
  | piece :: rest =>
    if piece.width ≤ room then
      let (kept, left) := fit (room - piece.width) rest
      (piece :: kept, left)
    else ([], piece :: rest)

end Piece

namespace Text

/-- The stretch of text up to the next escape character, and the text from there on. -/
def splitEscape (text : Text) : Text × Text :=
  (text.takeWhile (· ≠ escapeChar), text.dropWhile (· ≠ escapeChar))

theorem length_splitEscape (c : Char) (rest : Text) (h : c ≠ escapeChar) :
    (splitEscape (c :: rest)).2.length < (c :: rest).length := by
  have hle : (rest.dropWhile (· ≠ escapeChar)).length ≤ rest.length :=
    (List.dropWhile_suffix _).length_le
  simp only [splitEscape, List.length_cons]
  rw [List.dropWhile_cons_of_pos (by simpa using h)]
  omega

/-- The pieces of a text, from left to right.  Stretches between escape sequences fall into
clusters. -/
def pieces : Text → List Piece
  | [] => []
  | c :: rest =>
    match h : Escape.split? (c :: rest) with
    | some (sequence, after) => .escape sequence :: pieces after
    | none =>
      let parts := splitEscape (c :: rest)
      (clusters parts.1).map .cluster ++ pieces parts.2
  termination_by text => text.length
  decreasing_by
    · exact Escape.length_lt_of_split? h
    · exact length_splitEscape c rest
        (by simpa using (Escape.split?_eq_none_iff (c :: rest)).1 h)

/-! ## Width and truncation -/

/-- The cells that a text takes on the screen. -/
def visibleWidth (text : Text) : Nat :=
  Piece.widthOf text.pieces

/-- The longest prefix of a text that fits in `room` cells, and its width. -/
def truncate (text : Text) (room : Nat) : Text × Nat :=
  let kept := (Piece.fit room text.pieces).1
  (Piece.textOf kept, Piece.widthOf kept)

end Text

end LineEditor
