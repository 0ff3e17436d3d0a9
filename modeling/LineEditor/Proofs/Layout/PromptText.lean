import LineEditor.Drawing
import LineEditor.Proofs.Pieces

/-!
# The layout does not read prompts

Of a prompt the layout takes nothing but its width, so rows, the row of the cursor and the places that
motions up and down go to are the same for prompts of one width.  The marker of a prompt is an escape
sequence, so prompts with and without it are of one width.

* Blank prompts.  `Prompts.blank` and `Row.blank` leave out the texts of prompts, and `layout_blank`
  says that the layout goes with it.
* What is read off rows: `cursorRow_blank`, `rowsBelowCursor_blank` and `verticalTarget_blank`.
* Markers.  `visibleWidth_promptMarker_append` says that a marker takes no cell in front of any text,
  and `blank_ofText` that it makes no difference to a blank prompt.
-/

namespace LineEditor

/-! ## Blank prompts -/

/-- The prompt with its text left out. -/
def Prompt.blank (prompt : Prompt) : Prompt := { prompt with text := [] }

/-- The prompts with their texts left out. -/
def Prompts.blank (prompts : Prompts) : Prompts :=
  { primary := prompts.primary.blank, continuation := prompts.continuation.blank }

/-- The row with the text of its prompt left out. -/
def Row.blank (row : Row) : Row := { row with prompt := row.prompt.map Prompt.blank }

theorem Prompts.forLine_blank (prompts : Prompts) (line : Nat) :
    prompts.blank.forLine line = (prompts.forLine line).blank := by
  unfold forLine
  split <;> rfl

namespace Row

@[simp] theorem blank_promptWidth (row : Row) : row.blank.promptWidth = row.promptWidth := by
  unfold promptWidth blank
  cases row.prompt <;> rfl

@[simp] theorem blank_cellAt (row : Row) (offset : Nat) :
    row.blank.cellAt offset = row.cellAt offset := by
  rw [cellAt, cellAt, blank_promptWidth]
  rfl

theorem map_blank_ofPieces (line offset : Nat) (prompt : Option Prompt) (startsLine : Bool)
    (groups : List (List Piece)) :
    (ofPieces line offset prompt startsLine groups).map blank =
      ofPieces line offset (prompt.map Prompt.blank) startsLine groups := by
  induction groups generalizing offset prompt startsLine with
  | nil => rfl
  | cons pieces groups ih =>
    rw [ofPieces, ofPieces, List.map_cons, ih]
    rfl

theorem map_blank_ofLine (width line : Nat) (text : Text) (prompt : Prompt) :
    (ofLine width line text prompt).map blank = ofLine width line text prompt.blank :=
  map_blank_ofPieces _ _ _ _ _

theorem map_blank_placeCursor (width x : Nat) (rows : List Row) :
    (placeCursor width x rows).map blank = placeCursor width x (rows.map blank) := by
  induction rows with
  | nil => rfl
  | cons row rest ih =>
    have hoffset : row.blank.offset = row.offset := rfl
    have hstop : row.blank.stop = row.stop := rfl
    rw [List.map_cons, placeCursor, placeCursor, hoffset, hstop]
    dsimp only
    rw [blank_cellAt, List.isEmpty_map, ← ih]
    -- both sides take the same way
    repeat' split
    all_goals rfl

end Row

theorem layoutFrom_blank (width : Nat) (cursor : Position) (prompts : Prompts) (line : Nat)
    (lines : List Text) :
    layoutFrom width cursor prompts.blank line lines =
      (layoutFrom width cursor prompts line lines).map Row.blank := by
  induction lines generalizing line with
  | nil => rfl
  | cons text rest ih =>
    rw [layoutFrom, layoutFrom, List.map_append, ih, Prompts.forLine_blank]
    split
    · rw [Row.map_blank_placeCursor, Row.map_blank_ofLine]
    · rw [Row.map_blank_ofLine]

/-- The layout for blank prompts has the rows of the layout with their prompts left blank. -/
theorem layout_blank (lines : List Text) (cursor : Position) (prompts : Prompts) (width : Nat) :
    layout lines cursor prompts.blank width =
      (layout lines cursor prompts width).map Row.blank :=
  layoutFrom_blank width cursor prompts 0 lines

/-! ## What is read off rows -/

section

variable (rows : List Row)

theorem cursorRow_blank : cursorRow (rows.map Row.blank) = cursorRow rows := by
  rw [cursorRow, cursorRow, List.findIdx?_map]
  rfl

theorem rowsBelowCursor_blank : rowsBelowCursor (rows.map Row.blank) = rowsBelowCursor rows := by
  rw [rowsBelowCursor, rowsBelowCursor, List.length_map, cursorRow_blank]

theorem positionOnRow_blank (source target : Row) :
    positionOnRow source.blank target.blank = positionOnRow source target := by
  rw [positionOnRow, positionOnRow, Row.blank_promptWidth]
  rfl

theorem verticalTarget_blank (amount : Int) :
    verticalTarget (rows.map Row.blank) amount = verticalTarget rows amount := by
  unfold verticalTarget
  rw [cursorRow_blank, List.length_map]
  dsimp only
  rw [List.getElem?_map, List.getElem?_map]
  split
  · rfl
  · cases rows[cursorRow rows]? with
    | none => rfl
    | some source =>
      cases rows[rowBelow rows.length (cursorRow rows) amount]? with
      | none => rfl
      | some target => exact congrArg some (positionOnRow_blank source target)

variable {rows} {rows' : List Row}

/-- Rows that differ in the texts of their prompts only have the same places for motions. -/
theorem verticalTarget_eq_of_blank (h : rows.map Row.blank = rows'.map Row.blank) (amount : Int) :
    verticalTarget rows amount = verticalTarget rows' amount := by
  rw [← verticalTarget_blank, h, verticalTarget_blank]

end

/-! ## Markers -/

/-- A prompt marker is an escape sequence of its own in front of any text. -/
theorem split?_promptMarker_append (secondary : Bool) (text : Text) :
    Escape.split? (promptMarker secondary ++ text) = some (promptMarker secondary, text) := by
  cases secondary <;> rfl

/-- A prompt marker takes no cell in front of any text. -/
theorem visibleWidth_promptMarker_append (secondary : Bool) (text : Text) :
    Text.visibleWidth (promptMarker secondary ++ text) = text.visibleWidth := by
  rw [Text.visibleWidth, Text.pieces_of_split? (split?_promptMarker_append secondary text),
    Piece.widthOf]
  exact Nat.zero_add _

/-- Blank, a prompt is the same with its marker and without it. -/
theorem blank_ofText (text : Text) (secondary mark mark' : Bool) :
    (Prompt.ofText text secondary mark).blank = (Prompt.ofText text secondary mark').blank := by
  have hwidth : ∀ mark, (Prompt.ofText text secondary mark).blank =
      { text := [], width := text.visibleWidth } := by
    intro mark
    cases mark with
    | false => rfl
    | true =>
      show Prompt.mk [] (Text.visibleWidth (promptMarker secondary ++ text)) = _
      rw [visibleWidth_promptMarker_append]
  rw [hwidth, hwidth]

end LineEditor
