import LineEditor.Proofs.Buffer
import LineEditor.Proofs.Layout.Vertical

/-!
# Lines, cuts and rows in range

The operations on a buffer look up lines by their numbers, cut texts at byte offsets, take
characters off either side of the cursor, and look up rows of the screen.  `Buffer.InRange` says
that each of these numbers is in range, and `Buffer.inRange` that this is so in every buffer.  An
operation that goes through several buffers is thus in range all the way.
-/

namespace LineEditor

/-- A row shows a part of a line: there is a line with its number, the line is cut between
characters where the row begins and ends, and so is the row's text at its cursor. -/
def Row.IsSlice (row : Row) (lines : List Text) : Prop :=
  (∃ line left right, lines[row.line]? = some line ∧ line = left ++ (row.text ++ right) ∧
    left.size = row.offset) ∧
  ∀ place, row.cursor = some place →
    ∃ left right, row.text = left ++ right ∧ left.size = place.offset

/-- Every row of a layout shows a part of its line. -/
theorem isSlice_of_mem_layout {lines : List Text} {cursor : Position} (h : cursor.InLines lines)
    {prompts : Prompts} {width : Nat} {row : Row} (hrow : row ∈ layout lines cursor prompts width) :
    row.IsSlice lines := by
  obtain ⟨line, left, right, hline, -, hsplit, hleft⟩ := exists_slice_of_mem_layout hrow
  exact ⟨⟨line, left, right, hline, hsplit, hleft⟩, fun place hplace =>
    (showsAt_of_mem_layout h hrow hplace).boundary⟩

namespace Buffer

/-- Every number that an operation on the buffer uses is in range. -/
structure InRange (b : Buffer) : Prop where
  /-- The cursor is on a line. -/
  line : b.lines[b.cursor.line]? = some b.currentLine
  /-- The line can be cut at the cursor. -/
  cut : b.currentLine.splitAt? b.cursor.offset = some (b.before.lastLine, b.after.firstLine)
  /-- A position put back into the text is in it. -/
  clamped : ∀ p, b.isValid (b.clamp p) = true
  /-- The cursor can be put at a position of the text. -/
  placed : ∀ p, b.isValid p = true → ∃ b', b.place p = .ok b'
  /-- The text between two positions can be erased, and the first of them stays a position. -/
  erased : ∀ p q, b.isValid p = true → b.isValid q = true →
    ∃ cut b', b.erase p q = .ok (cut, b') ∧ b'.isValid (min p q) = true
  /-- What is erased before the cursor lies between two positions of the text. -/
  erasedBack : ∀ n, b.erase (b.retreat n).cursor b.cursor = .ok (b.cutBefore n)
  /-- What is erased after the cursor lies between two positions of the text. -/
  erasedOn : ∀ n, b.erase b.cursor (b.advance n).cursor = .ok (b.cutAfter n)
  /-- A way back is no longer than the text before the cursor. -/
  back : ∀ n across, (((b.behind across).take n).flatten).length ≤ b.before.length
  /-- A way on is no longer than the text after the cursor. -/
  on : ∀ n across, (((b.ahead across).take n).flatten).length ≤ b.after.length
  wordBack : ∀ n across cls, (b.wordStart n across cls).2 ≤ b.before.length
  wordOn : ∀ n across cls, (b.wordEnd n across cls).2 ≤ b.after.length
  /-- The rows on the screen show parts of the lines. -/
  rows : ∀ prompts width, ∀ row ∈ layout b.lines b.cursor prompts width, row.IsSlice b.lines
  /-- A motion up or down goes from a row to a row. -/
  moved : ∀ prompts width amount,
    let rows := layout b.lines b.cursor prompts width
    cursorRow rows < rows.length ∧ rowBelow rows.length (cursorRow rows) amount < rows.length
  /-- A motion up or down goes to a position of the text. -/
  target : ∀ prompts width amount p,
    verticalTarget (layout b.lines b.cursor prompts width) amount = some p → b.isValid p = true

theorem inRange (b : Buffer) : b.InRange where
  line := b.lines_cursor
  cut := b.splitAt?_cursor
  clamped p := (b.isValid_iff _).2 (b.clamp_inLines p)
  placed p hp := (exists_place_eq hp).imp fun _ h => h.1
  erased p q hp hq := by
    obtain ⟨left, cut, right, b', herase, -, htext', hleft, -⟩ :=
      exists_erase_eq ((b.isValid_iff p).1 hp) ((b.isValid_iff q).1 hq)
    refine ⟨cut, b', herase, ?_⟩
    rw [isValid, htext', ← hleft, Text.offset?_append]
    rfl
  erasedBack := b.erase_retreat
  erasedOn := b.erase_advance
  back := b.length_behind_le
  on := b.length_ahead_le
  wordBack := b.wordStart_le
  wordOn := b.wordEnd_le
  rows _ _ _ hrow := isSlice_of_mem_layout b.cursor_inLines hrow
  moved prompts width amount := by
    intro rows
    obtain ⟨text, row, -, hrow, -⟩ := exists_cursorRow_takes b.cursor_inLines prompts width
    have hlt : cursorRow rows < rows.length := (List.getElem?_eq_some_iff.1 hrow).1
    refine ⟨hlt, ?_⟩
    rw [rowBelow]
    omega
  target _ _ _ _ h := (b.isValid_iff _).2 (verticalTarget_inLines h)

end Buffer

end LineEditor
