import LineEditor.Escape

/-!
# Terminal commands

What can be written to a terminal: text to print, and commands that move the cursor, clear parts of
the screen, or switch a mode.  `Command.encode` gives the bytes of each.
-/

namespace LineEditor

/-- One command to a terminal. -/
inductive Command where
  /-- Prints text, which may hold escape sequences of its own. -/
  | print (text : Text)
  /-- Goes to the first column. -/
  | carriageReturn
  /-- Goes to the first column of the next row. -/
  | newLine
  | moveUp (rows : Nat)
  | moveDown (rows : Nat)
  /-- Goes to a column, counted from zero. -/
  | toColumn (column : Nat)
  /-- Goes to the first column of the first row. -/
  | home
  /-- Clears the screen from the cursor on. -/
  | clearBelow
  | clearAll
  | disableWrap
  | enableWrap
  /-- Shows the cursor as a bar. -/
  | barCursor
  /-- Shows the cursor as the user has set it up. -/
  | defaultCursor
  /-- Makes the terminal bracket pasted text. -/
  | enablePaste
  | disablePaste
  /-- Makes the terminal hold back changes of the screen. -/
  | beginUpdate
  | endUpdate
  | bell
  deriving Repr, DecidableEq, Inhabited

namespace Command

/-- The largest number that a command takes. -/
def maxCount : Nat := 65535

/-- Moves up, by as many rows as a command can. -/
def up (rows : Nat) : Command := .moveUp (min rows maxCount)

/-- Moves down, by as many rows as a command can. -/
def down (rows : Nat) : Command := .moveDown (min rows maxCount)

/-- Goes to a column, as far to the right as a command can. -/
def column (n : Nat) : Command := .toColumn (min n maxCount)

/-- A control sequence with the given rest. -/
def control (rest : String) : Text := escapeChar :: '[' :: rest.toList

/-- The bytes of a command. -/
def encode : Command → Text
  | .print text => text
  | .carriageReturn => ['\r']
  | .newLine => ['\r', '\n']
  | .moveUp rows => control (toString rows ++ "A")
  | .moveDown rows => control (toString rows ++ "B")
  | .toColumn column => control (toString (column + 1) ++ "G")
  | .home => control "1;1H"
  | .clearBelow => control "J"
  | .clearAll => control "2J"
  | .disableWrap => control "?7l"
  | .enableWrap => control "?7h"
  | .barCursor => control "6 q"
  | .defaultCursor => control "0 q"
  | .enablePaste => control "?2004h"
  | .disablePaste => control "?2004l"
  | .beginUpdate => control "?2026h"
  | .endUpdate => control "?2026l"
  | .bell => [bellChar]

/-- The bytes of commands in a row. -/
def encodeAll (commands : List Command) : Text :=
  (commands.map encode).flatten

end Command

end LineEditor
