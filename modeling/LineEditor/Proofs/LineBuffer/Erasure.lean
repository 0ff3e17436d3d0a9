import LineEditor.Proofs.LineBuffer.Basic

/-!
# Erasure, line by line

Between two places on the same line only that line is cut.  Between two places on different lines the last
one is cut, the lines down to it are taken out, and what was cut off is put after the front of the first
one.  Either way the lines are those of the text that is left, the text that is returned is that between
the places, and the cursor is put where it stands in the text that is left.

* The cursor.  `cursorWithin_eq` and `cursorAcross_eq` say that both ways put it where it is found after an
  erasure.
* The lines.  `eraseWithin_eq` and `eraseAcross_eq` say what both ways make of two places in a text;
  `drain_lines` says which lines are taken out on the second way.
* The result.  `stored_erase` says that erasure of lines is erasure of the buffer, misuse included.
-/

namespace LineEditor

/-! ## The cursor -/

namespace LineBuffer

theorem cursorWithin_eq {start stop cursor : Position} {erased : Text}
    (hline : start.line = stop.line) (hoffset : start.offset + erased.size = stop.offset) :
    cursorWithin cursor start stop erased = .ok (cursor.afterErasure start stop) := by
  obtain ⟨x, y⟩ := cursor
  obtain ⟨startX, startY⟩ := start
  obtain ⟨stopX, stopY⟩ := stop
  dsimp only at hline hoffset
  have hback (h : stopX ≤ x) : minus x erased.size = .ok (x - erased.size) := minus_eq (by omega)
  simp only [cursorWithin, Position.afterErasure, Position.le_iff]
  split_ifs
  -- once the difference is known to exist, every case is about numbers only
  all_goals
    first
    | rw [Except.ok.injEq, Position.mk.injEq]
      omega
    | rw [hback (by omega), Panic.ok_bind, Panic.pure_eq, Except.ok.injEq, Position.mk.injEq]
      omega

theorem cursorAcross_eq {start stop : Position} (hline : start.line < stop.line) (cursor : Position) :
    cursorAcross cursor start stop = .ok (cursor.afterErasure start stop) := by
  obtain ⟨x, y⟩ := cursor
  obtain ⟨startX, startY⟩ := start
  obtain ⟨stopX, stopY⟩ := stop
  dsimp only at hline
  have hback (h : stopX ≤ x) : minus (startX + x) stopX = .ok (startX + x - stopX) :=
    minus_eq (by omega)
  have hlines : minus stopY startY = .ok (stopY - startY) := minus_eq (by omega)
  have hup (h : stopY < y) : minus y (stopY - startY) = .ok (y - (stopY - startY)) :=
    minus_eq (by omega)
  simp only [cursorAcross, Position.afterErasure, Position.le_iff, hlines, Panic.ok_bind]
  split_ifs
  all_goals
    first
    | rw [Except.ok.injEq, Position.mk.injEq]
      omega
    | rw [hback (by omega), Panic.ok_bind, Panic.pure_eq, Except.ok.injEq, Position.mk.injEq]
      omega
    | rw [hup (by omega), Panic.ok_bind, Panic.pure_eq, Except.ok.injEq, Position.mk.injEq]
      omega

/-- The order of the two places does not matter. -/
theorem erase_comm (b : LineBuffer) (p q : Position) : b.erase p q = b.erase q p := by
  by_cases heq : p = q
  · rw [heq]
  · unfold erase
    rcases Position.le_total p q with hle | hle
    · rw [if_neg (Position.not_lt_of_le hle), if_pos (Position.lt_of_le_of_ne hle heq)]
    · rw [if_neg (Position.not_lt_of_le hle), if_pos (Position.lt_of_le_of_ne hle (Ne.symm heq))]

end LineBuffer

namespace Buffer

/-! ## The lines -/

variable {b : Buffer} {left cut right : Text}

theorem stored_eraseSpan (h : b.text = left ++ cut ++ right) :
    (b.eraseSpan left.length (left ++ cut).length).stored =
      { lines := Text.lines (left ++ right)
        cursor := b.cursor.afterErasure (.endOf left) (.endOf (left ++ cut)) } := by
  rw [← cursor_eraseSpan h, ← text_eraseSpan_append h]
  rfl

/-- Without a line break between two places the line is cut at both of them. -/
theorem eraseWithin_eq (h : b.text = left ++ cut ++ right) (hcut : '\n' ∉ cut) :
    b.stored.eraseWithin (.endOf left) (.endOf (left ++ cut)) =
      .ok (cut, (b.eraseSpan left.length (left ++ cut).length).stored) := by
  have hstop := Position.endOf_append_of_notMem hcut left
  have hlines : b.lines = left.lines.dropLast ++
      (left.lastLine ++ cut ++ right.firstLine) :: right.lines.tail := by
    rw [lines, h, List.append_assoc, Text.lines_append, Text.lines_append_of_notMem hcut,
      Text.firstLine_append hcut, List.tail_cons, List.append_assoc]
  have hnumber : (Position.endOf left).line = left.lines.dropLast.length :=
    (Text.length_dropLast_lines left).symm
  have hfront : cutAt (left.lastLine ++ cut ++ right.firstLine) (Position.endOf (left ++ cut)).offset =
      .ok (left.lastLine ++ cut, right.firstLine) := by
    rw [hstop]
    exact cutAt_eq_ok_iff.2 ⟨rfl, Text.size_append _ _⟩
  have hcursor : LineBuffer.cursorWithin b.cursor (.endOf left) (.endOf (left ++ cut)) cut = _ :=
    LineBuffer.cursorWithin_eq (congrArg Position.line hstop).symm (congrArg Position.offset hstop).symm
  rw [stored_eraseSpan h, Text.lines_append, LineBuffer.eraseWithin, stored_lines, hlines, hnumber,
    lineAt_append, Panic.ok_bind, hfront, Panic.ok_bind]
  dsimp only
  rw [show cutAt (left.lastLine ++ cut) (Position.endOf left).offset = _ from cutAt_append _ _,
    Panic.ok_bind]
  dsimp only
  rw [stored_cursor, hcursor, Panic.ok_bind, set_append, Panic.pure_eq]

/-- The lines from the one after that of the first place to that of the second one are taken out. -/
theorem drain_lines (left cut right : Text) :
    drain ((left ++ cut).lines ++ right.lines.tail) ((Position.endOf left).line + 1)
        ((Position.endOf (left ++ cut)).line + 1) =
      .ok (cut.lines.tail,
        left.lines.dropLast ++ (left.lastLine ++ cut.firstLine) :: right.lines.tail) := by
  have hnumber : (Position.endOf left).line = left.lines.dropLast.length :=
    (Text.length_dropLast_lines left).symm
  have hlength : (Position.endOf (left ++ cut)).line + 1 = (left ++ cut).lines.length := by
    rw [Text.length_lines]
    rfl
  have hle : (Position.endOf left).line + 1 ≤ (left ++ cut).lines.length := by
    show left.count '\n' + 1 ≤ _
    rw [Text.length_lines, List.count_append]
    omega
  have hlower : (left ++ cut).lines.drop ((Position.endOf left).line + 1) = cut.lines.tail :=
    Text.drop_lines_append left cut
  have hupper : ((left ++ cut).lines ++ right.lines.tail).take ((Position.endOf left).line + 1) =
      left.lines.dropLast ++ [left.lastLine ++ cut.firstLine] := by
    rw [Text.lines_append left cut, hnumber, List.append_assoc, List.take_length_add_append]
    rfl
  rw [hlength, drain, if_pos ⟨hle, by rw [List.length_append]; omega⟩, List.take_left,
    List.drop_left, hlower, hupper, List.append_assoc, List.singleton_append]

/-- With line breaks between two places the lines of both are joined. -/
theorem eraseAcross_eq (h : b.text = left ++ cut ++ right) (hcut : '\n' ∈ cut) :
    b.stored.eraseAcross (.endOf left) (.endOf (left ++ cut)) =
      .ok (cut, (b.eraseSpan left.length (left ++ cut).length).stored) := by
  have hnumber : (Position.endOf left).line = left.lines.dropLast.length :=
    (Text.length_dropLast_lines left).symm
  have hnumber' : (Position.endOf (left ++ cut)).line = (left ++ cut).lines.dropLast.length :=
    (Text.length_dropLast_lines _).symm
  have hstop : cutLineAt b.lines (.endOf (left ++ cut)) = .ok ((left ++ cut).lastLine, right.firstLine) := by
    rw [lines, h]
    exact cutLineAt_append (left ++ cut) right
  -- the line of the second place without what stands after it
  have hkept : b.lines.set (Position.endOf (left ++ cut)).line (left ++ cut).lastLine =
      (left ++ cut).lines ++ right.lines.tail := by
    rw [lines, h, Text.lines_append, hnumber', set_append, Text.lines_append_below]
  have hstart : cutLineAt (left.lines.dropLast ++ (left.lastLine ++ cut.firstLine) :: right.lines.tail)
      (.endOf left) = .ok (left.lastLine, cut.firstLine) := by
    rw [cutLineAt, hnumber, lineAt_append]
    exact cutAt_append _ _
  have hcursor : LineBuffer.cursorAcross b.cursor (.endOf left) (.endOf (left ++ cut)) = _ :=
    LineBuffer.cursorAcross_eq (Position.line_endOf_lt hcut left) b.cursor
  have hback : cut.firstLine ++ cut.lines.tail.flatMap ('\n' :: ·) = cut :=
    Text.firstLine_append_breakBeforeEach cut
  rw [stored_eraseSpan h, Text.lines_append, LineBuffer.eraseAcross, stored_lines, stored_cursor, hstop,
    Panic.ok_bind]
  dsimp only
  rw [hkept, drain_lines, Panic.ok_bind]
  dsimp only
  rw [hstart, Panic.ok_bind]
  dsimp only
  rw [hcursor, Panic.ok_bind, hback, hnumber, set_append, Panic.pure_eq]

/-! ## The result -/

/-- The two ways of erasure come to the same. -/
theorem stored_erase_append (h : b.text = left ++ cut ++ right) :
    b.stored.erase (.endOf left) (.endOf (left ++ cut)) =
      .ok (cut, (b.eraseSpan left.length (left ++ cut).length).stored) := by
  have hle := Position.endOf_le_append left cut
  rw [LineBuffer.erase, if_neg (Position.not_lt_of_le hle)]
  dsimp only
  by_cases heq : Position.endOf left = Position.endOf (left ++ cut)
  · obtain rfl : cut = [] := Text.endOf_append_eq_iff.1 heq.symm
    rw [if_pos heq, List.append_nil, eraseSpan_self]
  · have hvalid : (b.isValid (.endOf left) && b.isValid (.endOf (left ++ cut))) = true := by
      rw [isValid, isValid, h, Text.offset?_append, List.append_assoc, Text.offset?_append]
      rfl
    rw [if_neg heq, stored_isValid, stored_isValid, hvalid, if_neg (by simp)]
    by_cases hcut : '\n' ∈ cut
    · rw [if_neg (Nat.ne_of_lt (Position.line_endOf_lt hcut left)), eraseAcross_eq h hcut]
    · rw [if_pos (congrArg Position.line (Position.endOf_append_of_notMem hcut left)).symm,
        eraseWithin_eq h hcut]

/-- Two different places that are not both in the text are misuse. -/
theorem erase_eq_error {b : Buffer} {p q : Position} (hle : p ≤ q) (hne : p ≠ q)
    (hvalid : (b.isValid p && b.isValid q) = false) :
    b.erase p q = .error (.rangeOutside p q) := by
  rw [erase, if_neg hne, if_neg (Position.not_lt_of_le hle)]
  dsimp only
  split
  · next i j hi hj =>
    rw [isValid, isValid, hi, hj] at hvalid
    exact absurd hvalid Bool.noConfusion
  · rfl

theorem stored_erase_of_le {b : Buffer} {p q : Position} (hle : p ≤ q) :
    b.stored.erase p q =
      ((b.erase p q).map fun (cut, b') => (cut, b'.stored)).mapError Panic.misuse := by
  cases hvalid : b.isValid p && b.isValid q with
  | true =>
    obtain ⟨hp, hq⟩ := Bool.and_eq_true_iff.1 hvalid
    obtain ⟨left, cut, right, htext, rfl, rfl⟩ :=
      Text.exists_parts ((b.isValid_iff p).1 hp) ((b.isValid_iff q).1 hq) hle
    rw [stored_erase_append htext, erase_endOf htext]
    rfl
  | false =>
    by_cases heq : p = q
    · rw [erase, if_pos heq, LineBuffer.erase, if_neg (Position.not_lt_of_le hle)]
      exact if_pos heq
    · rw [erase_eq_error hle heq hvalid, LineBuffer.erase, if_neg (Position.not_lt_of_le hle)]
      dsimp only
      rw [if_neg heq, stored_isValid, stored_isValid, hvalid]
      rfl

/-- Erasure of lines is erasure of the buffer; what is misuse of one is misuse of the other. -/
theorem stored_erase (b : Buffer) (p q : Position) :
    b.stored.erase p q =
      ((b.erase p q).map fun (cut, b') => (cut, b'.stored)).mapError Panic.misuse := by
  rcases Position.le_total p q with hle | hle
  · exact stored_erase_of_le hle
  · rw [LineBuffer.erase_comm, erase_comm]
    exact stored_erase_of_le hle

end Buffer

end LineEditor
