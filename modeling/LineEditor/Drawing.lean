import LineEditor.Layout
import LineEditor.Terminal.Basic

/-!
# Drawing

Rows are drawn in place of the rows drawn before: the terminal's cursor goes up to the first row of
the earlier drawing, everything from there on is cleared, the rows are printed, and the cursor is
parked in its cell.  All of it is one write.
-/

namespace LineEditor

/-- The width below which nothing can be drawn that makes sense. -/
def minDrawWidth : Nat := 4

/-- Colours a row: given its text, the byte of the line at which it begins and the number of the
line, the text to print. -/
abbrev Highlighter := Text → Nat → Nat → Text

/-- How rows are drawn. -/
structure DrawStyle where
  /-- The width of the screen. -/
  width : Nat
  /-- The row of the earlier drawing that the terminal's cursor is on. -/
  previousRow : Nat
  /-- Whether rows that go on with a line get a marker. -/
  mark : Bool
  highlighter : Option Highlighter

namespace Row

/-- The commands that print a row: its prompt or marker and its text. -/
def commands (row : Row) (mark : Bool) (highlighter : Option Highlighter) : List Command :=
  let lead : List Command :=
    if row.startsLine then
      match row.prompt with
      | some prompt => [.print prompt.text]
      | none => []
    else if mark then [.print continuationMarker] else []
  let text := match highlighter with
    | some highlight => highlight row.text row.offset row.line
    | none => row.text
  lead ++ [.print text]

end Row

/-- The commands that print rows below each other. -/
def printRows (rows : List Row) (mark : Bool) (highlighter : Option Highlighter) : List Command :=
  [Command.newLine].intercalate (rows.map fun row => row.commands mark highlighter)

/-- The number of rows below the cursor. -/
def rowsBelowCursor (rows : List Row) : Nat :=
  rows.length - (cursorRow rows + 1)

/-- The cell of the cursor. -/
def cursorCell (rows : List Row) : Nat :=
  match rows.findSome? Row.cursor with
  | some cursor => cursor.cell
  | none => 0

/-- The commands that draw rows in place of the rows drawn before. -/
def frame (rows : List Row) (style : DrawStyle) : List Command :=
  let below := rowsBelowCursor rows
  (if style.previousRow > 0 then [.up style.previousRow] else []) ++
    [.carriageReturn, .clearBelow, .disableWrap] ++
    printRows rows style.mark style.highlighter ++
    [.enableWrap] ++
    (if below > 0 then [.up below] else []) ++
    [.column (cursorCell rows)]

/-- Draws rows and returns the row that the cursor is on.  A screen that is too narrow is left as
it is. -/
def draw (rows : List Row) (style : DrawStyle) : TerminalM Nat :=
  if style.width < minDrawWidth then pure style.previousRow
  else do
    TerminalM.request (.write (frame rows style))
    pure (cursorRow rows)

end LineEditor
