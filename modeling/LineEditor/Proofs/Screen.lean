import LineEditor.Drawing

/-!
# The cursor of the screen

Of a screen only the place of its cursor is looked at here, and where it was cleared.  What is printed
is not: it moves the cursor along its row, and how far is left open.

* Commands and what they do to a screen (`Screen.exec`, `Screen.run`).
* Drawing.  Printing rows goes down by one row less than there are (`exists_run_printRows`), and
  `run_frame` says where a drawing begins and where it leaves the cursor (`Screen.draw`).
-/

namespace LineEditor

/-- A screen, as far as its cursor goes.  Rows are counted from the one that clearing the whole screen
goes to. -/
structure Screen where
  /-- The row of the cursor. -/
  row : Int
  column : Nat
  /-- The first row of what was drawn last: the one from which the screen was cleared. -/
  top : Int
  /-- All rows from which the screen was cleared for a drawing, in this order. -/
  cleared : List Int
  deriving Repr, DecidableEq, Inhabited

namespace Screen

/-- The screen after a command, as the bytes of `Command.encode` have it on a terminal.  Text may hold
anything but what leaves the row: after it is printed in a column, the cursor is in the column that
`advance` says. -/
def exec (advance : Text → Nat → Nat) (screen : Screen) : Command → Screen
  | .print text => { screen with column := advance text screen.column }
  | .carriageReturn => { screen with column := 0 }
  | .newLine => { screen with row := screen.row + 1, column := 0 }
  | .moveUp rows => { screen with row := screen.row - rows }
  | .moveDown rows => { screen with row := screen.row + rows }
  | .toColumn column => { screen with column }
  | .home => { screen with row := 0, column := 0, top := 0 }
  | .clearBelow => { screen with top := screen.row, cleared := screen.cleared ++ [screen.row] }
  | .clearAll | .disableWrap | .enableWrap | .barCursor | .defaultCursor | .enablePaste
  | .disablePaste | .beginUpdate | .endUpdate | .bell => screen

/-- The screen after commands. -/
def run (advance : Text → Nat → Nat) (screen : Screen) (commands : List Command) : Screen :=
  commands.foldl (exec advance) screen

variable (advance : Text → Nat → Nat) (screen : Screen)

@[simp]
theorem run_nil : screen.run advance [] = screen :=
  rfl

@[simp]
theorem run_cons (command : Command) (commands : List Command) :
    screen.run advance (command :: commands) = (screen.exec advance command).run advance commands :=
  rfl

@[simp]
theorem run_append (first second : List Command) :
    screen.run advance (first ++ second) = (screen.run advance first).run advance second :=
  List.foldl_append

/-! ## Drawing -/

/-- A row is printed without leaving it. -/
theorem exists_run_rowCommands (row : Row) (mark : Bool) (highlighter : Option Highlighter) :
    ∃ column, screen.run advance (row.commands mark highlighter) = { screen with column } := by
  unfold Row.commands
  dsimp only
  rw [run_append]
  split
  · cases row.prompt with
    | some prompt => exact ⟨_, rfl⟩
    | none => exact ⟨_, rfl⟩
  · split
    · exact ⟨_, rfl⟩
    · exact ⟨_, rfl⟩

/-- Rows are printed below each other. -/
theorem exists_run_printRows {rows : List Row} (hne : rows ≠ []) (mark : Bool)
    (highlighter : Option Highlighter) :
    ∃ column, screen.run advance (printRows rows mark highlighter) =
      { screen with row := screen.row + (rows.length - 1), column } := by
  unfold printRows
  induction rows generalizing screen with
  | nil => exact absurd rfl hne
  | cons row rows ih =>
    obtain ⟨column, hrow⟩ := exists_run_rowCommands advance screen row mark highlighter
    cases rows with
    | nil =>
      refine ⟨column, ?_⟩
      simp only [List.map_cons, List.map_nil, List.intercalate_singleton, hrow]
      simp
    | cons next rows =>
      obtain ⟨column', hrest⟩ := ih { screen with row := screen.row + 1, column := 0 } (by simp)
      refine ⟨column', ?_⟩
      rw [List.map_cons, List.map_cons, List.intercalate_cons_cons, run_append, run_append, hrow]
      refine hrest.trans ?_
      simp only [List.length_cons, Screen.mk.injEq, and_true]
      omega

/-- A way up by some rows, if there are any, is gone as long as their number fits a command. -/
theorem run_up {rows : Nat} (h : rows ≤ Command.maxCount) :
    screen.run advance (if rows > 0 then [.up rows] else []) =
      { screen with row := screen.row - rows } := by
  split
  · rw [Command.up, Nat.min_eq_left h]
    rfl
  · next hnot =>
    obtain rfl : rows = 0 := by omega
    simp

theorem run_down {rows : Nat} (h : rows ≤ Command.maxCount) :
    screen.run advance (if rows > 0 then [.down rows] else []) =
      { screen with row := screen.row + rows } := by
  split
  · rw [Command.down, Nat.min_eq_left h]
    rfl
  · next hnot =>
    obtain rfl : rows = 0 := by omega
    simp

/-- The screen when rows have been drawn on it from the row `first` on. -/
def draw (rows : List Row) (first : Int) : Screen where
  row := first + cursorRow rows
  column := cursorCell rows
  top := first
  cleared := screen.cleared ++ [first]

/-- A drawing goes back by the row of the one before, and clears the screen from there. -/
theorem run_frame {rows : List Row} {style : DrawStyle} (hrow : cursorRow rows < rows.length)
    (hrows : rows.length ≤ Command.maxCount) (hcell : cursorCell rows ≤ Command.maxCount)
    (hprevious : style.previousRow ≤ Command.maxCount) :
    screen.run advance (frame rows style) = screen.draw rows (screen.row - style.previousRow) := by
  have hne : rows ≠ [] := List.ne_nil_of_length_pos (Nat.zero_lt_of_lt hrow)
  have hbelow : rowsBelowCursor rows ≤ Command.maxCount :=
    Nat.le_trans (Nat.sub_le _ _) hrows
  unfold frame
  dsimp only
  simp only [run_append]
  rw [run_up advance _ hprevious]
  obtain ⟨column, hprint⟩ := exists_run_printRows advance
    (Screen.run advance { screen with row := screen.row - style.previousRow }
      [.carriageReturn, .clearBelow, .disableWrap]) hne style.mark style.highlighter
  rw [hprint, run_up advance _ hbelow, Command.column, Nat.min_eq_left hcell]
  simp only [run_cons, run_nil, exec, draw, Screen.mk.injEq, and_true]
  unfold rowsBelowCursor
  omega

end Screen

end LineEditor
