import LineEditor.Proofs.LineBuffer.Erasure

/-!
# Insertion, line by line

To insert text into lines is to cut the line of the cursor, to put the first line of the text after the
front of it and the others below it, and to put what was cut off after the last of them.  A line break at
the end of the text is taken off before the text is split into lines, and makes one more line, without
text.

* Line breaks.  `withLineFeeds_eq` says that putting line breaks right is replacing them twice, and
  `segments_eq` that taking the last line break off makes no difference to the lines.
* Buffers.  `splice_lines` says what the lines are before what was cut off is put back, and `stored_insert`
  that insertion into lines is insertion into the buffer.
* The result.  `insert_at_cursor` says what an insertion does to the text on both sides of the cursor and to
  the lines, and that an erasure takes it back.
-/

namespace LineEditor

namespace Text

/-! ## Line breaks -/

/-- To replace a character is to replace it wherever it stands. -/
theorem replace_singleton (text : Text) (c d : Char) :
    text.replace [c] [d] = text.map fun e => if e = c then d else e := by
  unfold replace
  induction text with
  | nil => rfl
  | cons e text ih =>
    rw [replaceFrom, List.map_cons, ← ih]
    by_cases he : e = c
    · rw [if_pos he, if_pos (by simp [he])]
      rfl
    · rw [if_neg he, if_neg (by simpa using he)]

/-- Line breaks are put right by replacing first the pairs, then the carriage returns that are left. -/
theorem normalizeBreaks_eq_replace (text : Text) :
    text.normalizeBreaks = (text.replace ['\r', '\n'] ['\n']).replace ['\r'] ['\n'] := by
  rw [replace_singleton]
  unfold replace
  fun_induction normalizeBreaks text with
  | case1 => rfl
  | case2 rest ih =>
    rw [ih]
    rfl
  | case3 c rest hpair ih =>
    have hother : (c :: rest).take ['\r', '\n'].length ≠ ['\r', '\n'] := by
      intro heq
      cases rest with
      | nil => simp at heq
      | cons d more =>
        obtain ⟨hc, hd⟩ : c = '\r' ∧ d = '\n' := by simpa using heq
        exact hpair more hc (by rw [hd])
    rw [replaceFrom, if_neg hother, List.map_cons, ih]

/-- Text without carriage returns is not looked through twice. -/
theorem withLineFeeds_eq (text : Text) : text.withLineFeeds = text.normalizeBreaks := by
  rw [withLineFeeds]
  split
  · exact (normalizeBreaks_eq_replace text).symm
  · next h => exact (normalizeBreaks_eq_self h).symm

/-- The segments of a text are its lines: a line break at the end makes a line without text after those of
the text without it. -/
theorem segments_eq (text : Text) : text.segments = (text.firstLine, text.lines.tail) := by
  have hlines : text.stripBreak.1.lines ++ (if text.stripBreak.2 then [[]] else []) = text.lines := by
    rw [stripBreak]
    split
    · next hlast =>
      obtain ⟨body, rfl⟩ := List.getLast?_eq_some_iff.1 hlast
      rw [List.dropLast_concat, if_pos rfl]
      exact (lines_append_newline body []).symm
    · exact List.append_nil _
  show (text.stripBreak.1.lines.headD [],
    text.stripBreak.1.lines.tail ++ if text.stripBreak.2 then [[]] else []) = _
  rw [lines_eq_cons text.stripBreak.1, List.cons_append, lines_eq_cons text, List.cons.injEq] at hlines
  rw [lines_eq_cons text.stripBreak.1, List.headD_cons, List.tail_cons, hlines.1, hlines.2]

end Text

namespace Buffer

/-! ## Buffers -/

/-- The line of the cursor with the first line of a text at its front, and the other lines of the text below
it. -/
theorem splice_lines (b : Buffer) (inserted : Text) :
    splice (b.lines.set b.cursor.line (b.before.lastLine ++ inserted.firstLine)) (b.cursor.line + 1)
        inserted.lines.tail =
      .ok ((b.before ++ inserted).lines ++ b.after.lines.tail) := by
  have hnumber : b.cursor.line = b.before.lines.dropLast.length :=
    (Text.length_dropLast_lines b.before).symm
  have hle : b.before.lines.dropLast.length + 1 ≤ (b.before.lines.dropLast ++
      (b.before.lastLine ++ inserted.firstLine) :: b.after.lines.tail).length := by
    rw [List.length_append, List.length_cons]
    omega
  rw [set_lines, hnumber, splice, if_pos hle, Text.lines_append b.before inserted,
    List.take_length_add_append, List.drop_length_add_append, List.take_succ_cons, List.take_zero,
    List.drop_succ_cons, List.drop_zero, List.append_assoc, List.append_assoc, List.append_assoc]
  rfl

/-- Insertion into lines is insertion into the buffer. -/
theorem stored_insert (b : Buffer) (text : Text) :
    b.stored.insert text = .ok (b.insert text).stored := by
  by_cases hnil : text = []
  · subst hnil
    show Except.ok b.stored = .ok (stored { before := b.before ++ [], after := b.after })
    rw [List.append_nil]
  let inserted := text.normalizeBreaks
  have hempty : text.isEmpty = false := List.isEmpty_eq_false_iff.2 hnil
  have hsegments : text.withLineFeeds.segments = (inserted.firstLine, inserted.lines.tail) := by
    rw [Text.withLineFeeds_eq, Text.segments_eq]
  have hlast : b.cursor.line + inserted.lines.tail.length =
      (b.before ++ inserted).lines.dropLast.length := by
    show b.before.count '\n' + inserted.lines.tail.length = _
    rw [Text.length_dropLast_lines, List.count_append, List.length_tail, Text.length_lines,
      Nat.add_sub_cancel]
  -- the line that what was cut off is put after
  have hlines := (b.before ++ inserted).lines_append_below b.after.lines.tail
  rw [LineBuffer.insert, hempty, if_neg Bool.false_ne_true, stored_lines, stored_cursor,
    cutLineAt_cursor, Panic.ok_bind]
  dsimp only
  rw [hsegments]
  dsimp only
  rw [splice_lines, Panic.ok_bind, hlast, hlines, lineAt_append, Panic.ok_bind, set_append]
  show Except.ok _ = Except.ok (stored { before := b.before ++ inserted, after := b.after })
  rw [stored_mk, Text.lines_append (b.before ++ inserted), Text.length_dropLast_lines]
  rfl

end Buffer

namespace LineBuffer

/-! ## The result -/

/-- Into lines in order any text can be inserted, and the lines are in order afterwards.  Before the cursor
there is the text that was there and what was inserted, with a line feed for each pair of carriage return
and line feed and for each carriage return that is left; after it there is the text that was there.  The
lines are the pieces between the line feeds of all that.  So to erase from the old cursor to the new one
takes out just what was inserted, and brings back lines and cursor. -/
theorem insert_at_cursor {b : LineBuffer} (h : b.WellFormed) (text : Text) :
    let inserted := (text.replace ['\r', '\n'] ['\n']).replace ['\r'] ['\n']
    ∃ before after b', b.textBefore = .ok before ∧ b.textAfter = .ok after ∧
      b.insert text = .ok b' ∧ b'.WellFormed ∧
      b'.textBefore = .ok (before ++ inserted) ∧ b'.textAfter = .ok after ∧
      b'.text = before ++ inserted ++ after ∧ b'.lines = b'.text.splitOn '\n' ∧
      b'.erase b.cursor b'.cursor = .ok (inserted, b) := by
  intro inserted
  obtain ⟨z, rfl⟩ := wellFormed_iff.1 h
  have hinsert : z.insert text = { before := z.before ++ inserted, after := z.after } := by
    rw [Buffer.insert, Text.normalizeBreaks_eq_replace]
  let z' : Buffer := { before := z.before ++ inserted, after := z.after }
  refine ⟨z.before, z.after, z'.stored, z.stored_textBefore, z.stored_textAfter, ?_,
    z'.wellFormed_stored, z'.stored_textBefore, z'.stored_textAfter, z'.stored_text, ?_, ?_⟩
  · rw [Buffer.stored_insert, hinsert]
  · rw [Buffer.stored_text]
    exact Text.lines_eq_splitOn z'.text
  · have herase : z'.stored.erase (.endOf z.before) (.endOf (z.before ++ inserted)) = _ :=
      Buffer.stored_erase_append rfl
    have hspan : z'.eraseSpan z.before.length (z.before ++ inserted).length =
        { z' with before := (z.before ++ inserted).take z.before.length } :=
      z'.eraseSpan_before (n := z.before.length) (by simp [z'])
    rw [hspan, List.take_left] at herase
    exact herase

/-- Text with line breaks of each kind comes between two lines and into one of them. -/
theorem insert_at_cursor_line_breaks :
    let b : LineBuffer := { lines := ["ab".toList, "cdé".toList], cursor := { offset := 1, line := 1 } }
    let text : Text := "x\r\n\ry\n\r\n".toList
    b.WellFormed ∧
      ∃ before after b', b.textBefore = .ok before ∧ b.textAfter = .ok after ∧
        b.insert text = .ok b' ∧ b'.WellFormed ∧
        b'.textBefore = .ok (before ++ "x\n\ny\n\n".toList) ∧ b'.textAfter = .ok after ∧
        b'.text = before ++ "x\n\ny\n\n".toList ++ after ∧ b'.lines = b'.text.splitOn '\n' ∧
        b'.erase b.cursor b'.cursor = .ok ("x\n\ny\n\n".toList, b) := by
  intro b text
  have hwell : b.WellFormed := by
    refine { lines := List.cons_ne_nil _ _, breaks := by decide, cursor := ?_ }
    exact ⟨"cdé".toList, rfl, "c".toList, "dé".toList, rfl, rfl⟩
  exact ⟨hwell, insert_at_cursor hwell text⟩

end LineBuffer

end LineEditor
