import LineEditor.Position
import LineEditor.Prompt

/-!
# Layout

Lines are laid out on the rows of a screen: the first row of a line begins with its prompt, and a
line that does not fit goes on in further rows.  Rows are cut between pieces only, each as late as
possible; a piece wider than a whole row gets a row of its own.  The layout depends on nothing but
the lines, the cursor, the prompts and the width of the screen.

* rows and the cursor on them (`Row`, `RowCursor`);
* rows of a line (`Piece.wrap`, `Row.ofPieces`, `Row.placeCursor`);
* layout of all lines (`layout`, `cursorRow`);
* places reached by moving up or down (`positionOnRow`, `verticalTarget`).
-/

namespace LineEditor

/-! ## Rows -/

/-- Where the cursor is on a row: the cell that it is shown in, and the byte of the row's text
that it stands before. -/
structure RowCursor where
  cell : Nat
  offset : Nat
  deriving Repr, DecidableEq, Inhabited

/-- One row of the screen. -/
structure Row where
  /-- The number of the line that the row shows a part of. -/
  line : Nat
  /-- The byte of the line at which the row begins. -/
  offset : Nat
  text : Text
  /-- The cells that the text takes. -/
  width : Nat
  /-- The prompt in front of the text. -/
  prompt : Option Prompt
  /-- The cursor, if it is on this row. -/
  cursor : Option RowCursor
  /-- Whether the row is the first of its line. -/
  startsLine : Bool
  deriving Repr, DecidableEq, Inhabited

namespace Row

/-- The cells that the prompt takes. -/
def promptWidth (row : Row) : Nat :=
  match row.prompt with
  | some prompt => prompt.width
  | none => 0

/-- The byte of the line at which the row ends. -/
def stop (row : Row) : Nat := row.offset + row.text.size

end Row

/-! ## Rows of a line -/

namespace Piece

/-- The cells left of `room` after a piece, or none if the piece does not fit. -/
def roomAfter (piece : Piece) (room : Nat) : Option Nat :=
  if piece.width ≤ room then some (room - piece.width) else none

/-- Fills rows of `width` cells with pieces.  `room` is what is left of the row under way, whose
pieces so far are given in reverse; there is nothing left after a piece too wide for its row. -/
def wrapFrom (width : Nat) (room : Option Nat) (current : List Piece) :
    List Piece → List (List Piece)
  | [] => [current.reverse]
  | piece :: rest =>
    match room.bind piece.roomAfter with
    | some left => wrapFrom width (some left) (piece :: current) rest
    | none => current.reverse :: wrapFrom width (piece.roomAfter width) [piece] rest

/-- Fills a first row of `first` cells and then rows of `width` cells with pieces.  Every row but
the row of no pieces at all gets at least one. -/
def wrap (first width : Nat) : List Piece → List (List Piece)
  | [] => [[]]
  | piece :: rest => wrapFrom width (piece.roomAfter first) [piece] rest

end Piece

namespace Row

/-- The rows that show the given groups of pieces of a line, the first of which begins at byte
`offset`. -/
def ofPieces (line offset : Nat) (prompt : Option Prompt) (startsLine : Bool) :
    List (List Piece) → List Row
  | [] => []
  | pieces :: rest =>
    let text := Piece.textOf pieces
    { line, offset, text, width := Piece.widthOf pieces, prompt, cursor := none, startsLine } ::
      ofPieces line (offset + text.size) none false rest

/-- The rows of a line on a screen `width` cells wide. -/
def ofLine (width line : Nat) (text : Text) (prompt : Prompt) : List Row :=
  ofPieces line 0 (some prompt) true (Piece.wrap (width - prompt.width) width text.pieces)

/-- The empty row that shows a cursor for which the last row of its line has no cell left. -/
def overflow (line offset : Nat) : Row :=
  { line, offset, text := [], width := 0, prompt := none
    cursor := some { cell := 0, offset := 0 }, startsLine := false }

/-- The cell in front of byte `offset` of the row's text. -/
def cellAt (row : Row) (offset : Nat) : Nat :=
  row.promptWidth + Text.visibleWidth (Text.takeBytes row.text offset)

/-- Shows the cursor before byte `x` of a line on one of the line's rows.  A cursor at the right
edge of the screen is shown on the next row, or on an extra row after the last one; a cursor that
a wide prompt pushes off the screen is shown in the last cell. -/
def placeCursor (width x : Nat) : List Row → List Row
  | [] => []
  | row :: rest =>
    if row.offset ≤ x && x ≤ row.stop then
      let offset := x - row.offset
      let cell := row.cellAt offset
      if cell < width then
        { row with cursor := some { cell, offset } } :: rest
      else if x < row.stop then
        { row with cursor := some { cell := width - 1, offset } } :: rest
      else if rest.isEmpty then [row, overflow row.line row.stop]
      else row :: placeCursor width x rest
    else row :: placeCursor width x rest

end Row

/-! ## Layout of all lines -/

/-- The rows of the lines from number `line` on. -/
def layoutFrom (width : Nat) (cursor : Position) (prompts : Prompts) (line : Nat) :
    List Text → List Row
  | [] => []
  | text :: rest =>
    let rows := Row.ofLine width line text (prompts.forLine line)
    (if line = cursor.line then Row.placeCursor width cursor.offset rows else rows) ++
      layoutFrom width cursor prompts (line + 1) rest

/-- The rows that show lines and a cursor on a screen `width` cells wide. -/
def layout (lines : List Text) (cursor : Position) (prompts : Prompts) (width : Nat) : List Row :=
  layoutFrom width cursor prompts 0 lines

/-- The number of the row that the cursor is on, or of the first row if it is on none. -/
def cursorRow (rows : List Row) : Nat :=
  (rows.findIdx? fun row => row.cursor.isSome).getD 0

/-! ## Moving up and down -/

/-- The place on the row `target` below or above the cursor on the row `source`: as many cells
after the prompt, or the end of the row's text if that is nearer. -/
def positionOnRow (source target : Row) : Position :=
  let cell := match source.cursor with
    | some cursor => cursor.cell
    | none => 0
  let passed := (target.text.truncate (cell - source.promptWidth)).1
  { offset := target.offset + passed.size, line := target.line }

/-- The number of the row that is `rows` rows below `current`, or above it for a negative number,
among `count` rows; at most the last and at least the first. -/
def rowBelow (count current : Nat) (rows : Int) : Nat :=
  min (current + rows).toNat (count - 1)

/-- Where the cursor goes when it moves down the given number of rows, or up for a negative
number.  There is no such place if it is on the last or the first row already. -/
def verticalTarget (rows : List Row) (amount : Int) : Option Position :=
  let current := cursorRow rows
  let target := rowBelow rows.length current amount
  if target = current then none
  else
    match rows[current]?, rows[target]? with
    | some source, some target => some (positionOnRow source target)
    | _, _ => none

end LineEditor
