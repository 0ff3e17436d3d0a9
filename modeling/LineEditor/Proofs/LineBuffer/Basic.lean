import LineEditor.LineBuffer.Basic
import LineEditor.Proofs.LinesAndText
import LineEditor.Proofs.WordStops

/-!
# A buffer and its lines

A buffer is stored as its lines and the position of its cursor.  The lines of a buffer always have its
cursor, so nothing that looks for it among them fails; and lines in order are those of one buffer only.

* Access.  `cutLineAt_append` says that two texts are parted again on the line on which they meet.
* Buffers and lines.  `Buffer.stored` are the lines and the cursor of a buffer; `wellFormed_iff` says that
  they are all lines and cursors that are in order.
* Views, places and motion to the ends.  Each of them gives for the lines what it gives for the buffer.
-/

namespace LineEditor

/-! ## Access -/

namespace Panic

variable {α β : Type}

@[simp] theorem ok_bind (a : α) (f : α → Except Panic β) : (Except.ok a >>= f) = f a := rfl

@[simp] theorem error_bind (panic : Panic) (f : α → Except Panic β) :
    (Except.error panic >>= f) = .error panic := rfl

@[simp] theorem pure_eq (a : α) : (pure a : Except Panic α) = .ok a := rfl

end Panic

theorem lineAt_eq_ok_iff {lines : List Text} {n : Nat} {line : Text} :
    lineAt lines n = .ok line ↔ lines[n]? = some line := by
  rw [lineAt]
  split
  · next found hfound => rw [hfound, Except.ok.injEq, Option.some.injEq]
  · next hnone => simp [hnone]

theorem cutAt_eq_ok_iff {line front back : Text} {n : Nat} :
    cutAt line n = .ok (front, back) ↔ line = front ++ back ∧ front.size = n := by
  rw [← Text.splitAt?_eq_some_iff, cutAt]
  split
  · next parts hparts => rw [hparts, Except.ok.injEq, Option.some.injEq]
  · next hnone => simp [hnone]

theorem cutAt_append (front back : Text) : cutAt (front ++ back) front.size = .ok (front, back) :=
  cutAt_eq_ok_iff.2 ⟨rfl, rfl⟩

theorem minus_eq {m n : Nat} (h : n ≤ m) : minus m n = .ok (m - n) :=
  if_pos h

theorem lineAt_append (above : List Text) (line : Text) (below : List Text) :
    lineAt (above ++ line :: below) above.length = .ok line :=
  lineAt_eq_ok_iff.2 (by simp)

theorem set_append (above : List Text) (line new : Text) (below : List Text) :
    (above ++ line :: below).set above.length new = above ++ new :: below := by
  simp

/-- The lines of a text with more lines below them have its last line between the two. -/
theorem Text.lines_append_below (text : Text) (below : List Text) :
    text.lines ++ below = text.lines.dropLast ++ text.lastLine :: below := by
  rw [List.append_cons, ← Text.lines_eq_append_lastLine]

/-- The line on which two texts meet is parted where they do. -/
theorem cutLineAt_append (left right : Text) :
    cutLineAt (Text.lines (left ++ right)) (.endOf left) = .ok (left.lastLine, right.firstLine) := by
  have hline : lineAt (Text.lines (left ++ right)) (Position.endOf left).line =
      .ok (left.lastLine ++ right.firstLine) :=
    lineAt_eq_ok_iff.2 (Text.lines_getElem?_append left right)
  rw [cutLineAt, hline]
  exact cutAt_append _ _

/-! ## Buffers and lines -/

/-- The lines of a buffer and the position of its cursor in them. -/
def Buffer.stored (b : Buffer) : LineBuffer := { lines := b.lines, cursor := b.cursor }

/-- What is asked of lines and of the cursor in them. -/
structure LineBuffer.WellFormed (b : LineBuffer) : Prop where
  lines : b.lines ≠ []
  breaks : ∀ line ∈ b.lines, '\n' ∉ line
  cursor : b.cursor.InLines b.lines

namespace Buffer

@[simp] theorem stored_lines (b : Buffer) : b.stored.lines = b.lines := rfl

@[simp] theorem stored_cursor (b : Buffer) : b.stored.cursor = b.cursor := rfl

theorem stored_injective : Function.Injective stored := fun _ _ h =>
  eq_of_lines_cursor (congrArg LineBuffer.lines h) (congrArg LineBuffer.cursor h)

/-- As long as the text is kept only the cursor is stored anew. -/
theorem stored_eq_of_text {b b' : Buffer} (h : b'.text = b.text) :
    b'.stored = { b.stored with cursor := b'.cursor } := by
  rw [stored, lines, h]
  rfl

theorem stored_mk (before after : Text) :
    stored { before, after } = { lines := Text.lines (before ++ after), cursor := .endOf before } :=
  rfl

theorem wellFormed_stored (b : Buffer) : b.stored.WellFormed where
  lines := b.text.lines_ne_nil
  breaks _ hline := Text.newline_notMem_of_mem_lines hline
  cursor := b.cursor_inLines

end Buffer

/-- Lines in order, with a cursor in them, are those of a buffer. -/
theorem LineBuffer.wellFormed_iff {b : LineBuffer} : b.WellFormed ↔ ∃ z : Buffer, z.stored = b := by
  constructor
  · intro h
    have hlines : Text.lines (Text.unlines b.lines) = b.lines := Text.lines_unlines h.lines h.breaks
    have hcursor := h.cursor
    rw [← hlines] at hcursor
    obtain ⟨n, hn⟩ := Option.isSome_iff_exists.1 (Text.offset?_isSome_iff.2 hcursor)
    obtain ⟨-, hend⟩ := Text.endOf_take_of_offset? hn
    refine ⟨{ before := (Text.unlines b.lines).take n, after := (Text.unlines b.lines).drop n }, ?_⟩
    rw [Buffer.stored_mk, List.take_append_drop, hlines, hend]
  · rintro ⟨z, rfl⟩
    exact z.wellFormed_stored

namespace Buffer

variable (b : Buffer)

/-! ## Views -/

theorem cutLineAt_cursor :
    cutLineAt b.lines b.cursor = .ok (b.before.lastLine, b.after.firstLine) :=
  cutLineAt_append b.before b.after

theorem lineAt_cursor : lineAt b.lines b.cursor.line = .ok b.currentLine :=
  lineAt_eq_ok_iff.2 b.lines_cursor

/-- Another line in place of that of the cursor stands between the lines above and the lines below. -/
theorem set_lines (line : Text) :
    b.lines.set b.cursor.line line = b.before.lines.dropLast ++ line :: b.after.lines.tail := by
  have hnumber : b.cursor.line = b.before.lines.dropLast.length :=
    (Text.length_dropLast_lines b.before).symm
  rw [lines, text, Text.lines_append, hnumber, set_append]

theorem stored_currentLine : b.stored.currentLine = .ok b.currentLine :=
  b.lineAt_cursor

theorem stored_text : b.stored.text = b.text :=
  Text.unlines_lines b.text

theorem stored_isEmpty : b.stored.isEmpty = b.isEmpty := by
  rw [LineBuffer.isEmpty, stored_lines, lines, isEmpty]
  cases b.text with
  | nil => rfl
  | cons c rest =>
    by_cases hc : c = '\n'
    · subst hc
      rw [Text.lines_cons_newline, Text.lines_eq_cons rest]
      rfl
    · rw [Text.lines_cons hc, Text.lines_eq_cons rest]
      cases (Text.lines rest).tail <;> rfl

theorem stored_textBefore : b.stored.textBefore = .ok b.before := by
  have htake : b.lines.take b.cursor.line = b.before.lines.dropLast :=
    Text.take_lines_append b.before b.after
  show (cutLineAt b.lines b.cursor >>= _) = _
  rw [b.cutLineAt_cursor]
  show Except.ok ((b.lines.take b.cursor.line).flatMap (· ++ ['\n']) ++ b.before.lastLine) = _
  rw [htake]
  exact congrArg Except.ok (Text.breakAfterEach_append_lastLine b.before)

theorem stored_textAfter : b.stored.textAfter = .ok b.after := by
  have hdrop : b.lines.drop (b.cursor.line + 1) = b.after.lines.tail :=
    Text.drop_lines_append b.before b.after
  show (cutLineAt b.lines b.cursor >>= _) = _
  rw [b.cutLineAt_cursor]
  show Except.ok (b.after.firstLine ++ (b.lines.drop (b.cursor.line + 1)).flatMap ('\n' :: ·)) = _
  rw [hdrop]
  exact congrArg Except.ok (Text.firstLine_append_breakBeforeEach b.after)

/-! ## Places -/

theorem stored_isValid (p : Position) : b.stored.isValid p = b.isValid p := by
  rw [Bool.eq_iff_iff, isValid_iff, LineBuffer.isValid, Option.isSome_iff_exists]
  constructor
  · rintro ⟨⟨front, back⟩, hparts⟩
    obtain ⟨line, hline, hcut⟩ := Option.bind_eq_some_iff.1 hparts
    exact ⟨line, hline, front, back, Text.splitAt?_eq_some_iff.1 hcut⟩
  · rintro ⟨line, hline, front, back, hcut⟩
    exact ⟨(front, back), Option.bind_eq_some_iff.2 ⟨line, hline, Text.splitAt?_eq_some_iff.2 hcut⟩⟩

theorem minus_length_lines : minus b.lines.length 1 = .ok (b.lines.length - 1) :=
  minus_eq (List.length_pos_iff.2 b.text.lines_ne_nil)

theorem stored_clamp (p : Position) : b.stored.clamp p = .ok (b.clamp p) := by
  obtain ⟨line, hline, -⟩ := b.clamp_inLines p
  have hoffset := offset_clamp hline
  have hat : lineAt b.lines (min p.line (b.lines.length - 1)) = .ok line := lineAt_eq_ok_iff.2 hline
  simp only [LineBuffer.clamp, stored_lines, minus_length_lines, Panic.ok_bind, hat, ← hoffset]
  rfl

theorem stored_setCursor (p : Position) : b.stored.setCursor p = .ok (b.setCursor p).stored := by
  obtain ⟨htext, hcursor⟩ := of_place (b.place_clamp p)
  rw [LineBuffer.setCursor, stored_clamp, stored_eq_of_text htext, hcursor]
  rfl

theorem stored_place (p : Position) :
    b.stored.place p = ((b.place p).map stored).mapError Panic.misuse := by
  rw [LineBuffer.place, stored_isValid]
  cases hplace : b.place p with
  | ok b' =>
    obtain ⟨htext, hcursor⟩ := of_place hplace
    have hvalid : b.isValid p = true := by
      rw [isValid_iff, lines, ← htext, ← hcursor]
      exact b'.cursor_inLines
    rw [if_pos hvalid, ← hcursor, ← stored_eq_of_text htext]
    rfl
  | error misuse =>
    rw [place] at hplace
    split at hplace
    · cases hplace
    · next hnone =>
      cases hplace
      rw [isValid, hnone, if_neg (by simp)]
      rfl

/-! ## Motion to the ends -/

theorem stored_toLineStart :
    b.stored.toLineStart = (b.toLineStart.1, b.toLineStart.2.stored) := by
  obtain ⟨front, hfront, -, hend⟩ := b.exists_append_reachBack false
  have hretreat : b.retreat b.before.lastLine.length =
      { before := front, after := b.before.lastLine ++ b.after } := retreat_of_before_eq hfront
  have hoffset : b.cursor.offset = 0 ↔ b.before.lastLine = [] := Text.size_eq_zero_iff
  rw [LineBuffer.toLineStart, toLineStart, stored_eq_of_text (b.text_retreat _), hretreat]
  show _ = (_, { b.stored with cursor := Position.endOf front })
  rw [hend, stored_cursor, LineBuffer.toFront]
  by_cases hnil : b.before.lastLine = []
  · rw [if_pos (hoffset.2 hnil), hnil, hoffset.2 hnil]
    rfl
  · rw [if_neg (mt hoffset.1 hnil), List.isEmpty_eq_false_iff.2 hnil]
    rfl

/-- The cursor is at the end of its line if there is nothing after it there. -/
theorem size_currentLine_le_iff :
    b.currentLine.size ≤ b.cursor.offset ↔ b.after.firstLine = [] := by
  have hsize : b.currentLine.size = b.cursor.offset + b.after.firstLine.size := Text.size_append _ _
  rw [hsize, ← Text.size_eq_zero_iff]
  omega

theorem stored_toLineEnd :
    b.stored.toLineEnd = .ok (b.toLineEnd.1, b.toLineEnd.2.stored) := by
  obtain ⟨back, hback, -⟩ := b.after.exists_eq_firstLine_append
  have hadvance : b.advance b.after.firstLine.length =
      { before := b.before ++ b.after.firstLine, after := back } := advance_of_after_eq hback
  have hend := Position.endOf_append_of_notMem (Text.newline_notMem_firstLine b.after) b.before
  have hsize : b.currentLine.size = b.cursor.offset + b.after.firstLine.size := Text.size_append _ _
  have hoffset := b.size_currentLine_le_iff
  rw [LineBuffer.toLineEnd, toLineEnd, stored_eq_of_text (b.text_advance _), hadvance]
  show _ = Except.ok (_, { b.stored with cursor := Position.endOf (b.before ++ b.after.firstLine) })
  rw [hend, stored_currentLine, Panic.ok_bind, stored_cursor, LineBuffer.toBack]
  by_cases hnil : b.after.firstLine = []
  · rw [if_pos (hoffset.2 hnil), hnil]
    rfl
  · rw [if_neg (mt hoffset.1 hnil), List.isEmpty_eq_false_iff.2 hnil, hsize]
    rfl

theorem stored_toStart : b.stored.toStart = (b.toStart.1, b.toStart.2.stored) := by
  have hzero : b.cursor = .zero ↔ b.before = [] := @Text.endOf_append_eq_iff [] b.before
  have hstart : b.toStart.2.stored = { b.stored with cursor := .zero } := rfl
  rw [LineBuffer.toStart, hstart, stored_cursor]
  by_cases hnil : b.before = []
  · rw [if_pos (hzero.2 hnil), toStart, hnil, ← hzero.2 hnil]
    rfl
  · rw [if_neg (mt hzero.1 hnil), toStart, List.isEmpty_eq_false_iff.2 hnil]
    rfl

theorem stored_toEnd : b.stored.toEnd = .ok (b.toEnd.1, b.toEnd.2.stored) := by
  have hlines : 0 < b.lines.length := List.length_pos_iff.2 b.text.lines_ne_nil
  obtain ⟨line, hline⟩ : ∃ line, b.lines[b.lines.length - 1]? = some line :=
    ⟨_, List.getElem?_eq_getElem (by omega)⟩
  have hend : Position.endOf b.text = { offset := line.size, line := b.lines.length - 1 } := by
    have hreach := b.endOf_append_reachOn true
    dsimp only at hreach
    rwa [List.getD_eq_getElem?_getD, if_pos rfl, hline] at hreach
  have hstop : b.stored.toEnd =
      .ok (if b.cursor = .endOf b.text then (false, b.stored)
        else (true, { b.stored with cursor := .endOf b.text })) := by
    rw [LineBuffer.toEnd, stored_lines, minus_length_lines, Panic.ok_bind,
      lineAt_eq_ok_iff.2 hline, Panic.ok_bind, hend]
    rfl
  have hcursor : b.cursor = .endOf b.text ↔ b.after = [] :=
    eq_comm.trans Text.endOf_append_eq_iff
  have hstored : b.toEnd.2.stored = { b.stored with cursor := .endOf b.text } :=
    stored_eq_of_text (List.append_nil b.text)
  rw [hstop, hstored]
  by_cases hnil : b.after = []
  · rw [if_pos (hcursor.2 hnil), toEnd, hnil, ← hcursor.2 hnil]
    rfl
  · rw [if_neg (mt hcursor.1 hnil), toEnd, List.isEmpty_eq_false_iff.2 hnil]
    rfl

end Buffer

end LineEditor
