import LineEditor.Proofs.Layout.Cover
import LineEditor.Proofs.Position

/-!
# The cursor of a layout

A layout of lines that have the cursor's position shows the cursor once, in the right cell.

* The row of the cursor.  `Takes` says which row that is: the first row of its line that takes it,
  or the extra row below the line.  `Placed.exists_takes` finds it among the rows of a line, and
  `exists_takes_layout` in every layout.
* The cell of the cursor.  `ShowsAt` says where on its row the cursor is; `Takes.showsAt` proves
  it, and `layout_has_one_cursor` is the result.
* The number of its row.  `cursorRow_eq` says that `cursorRow` finds the row.
-/

namespace LineEditor

namespace Row

/-! ## The row of the cursor -/

/-- Which row has the cursor before byte `x` of a line with the given rows: the first one that
takes it, or else the row below them. -/
inductive Takes (width x : Nat) (rows : List Row) : Row → Prop
  | onRow {before : List Row} {row : Row} {after : List Row} (hrows : rows = before ++ row :: after)
      (hbefore : ∀ r ∈ before, ¬ r.Shows width x) (hrow : row.Shows width x) :
      Takes width x rows (row.withCursor width x)
  | below {before : List Row} {last : Row} (hrows : rows = before ++ [last])
      (hnone : ∀ r ∈ rows, ¬ r.Shows width x) (hoffset : last.offset ≤ x) (hx : x = last.stop) :
      Takes width x rows (overflow last.line last.stop)

/-- Whether the row has no cell left for a cursor after its text. -/
def IsFull (row : Row) (width : Nat) : Prop :=
  width ≤ row.cellAt row.text.size

theorem sub_offset_of_eq_stop {row : Row} {x : Nat} (h : x = row.stop) :
    x - row.offset = row.text.size := by
  rw [h, stop, Nat.add_sub_cancel_left]

/-- After the text of a row there is a cell for the cursor, or the row is full. -/
theorem shows_stop_iff {row : Row} {width x : Nat} (hx : x = row.stop) :
    row.Shows width x ↔ ¬ row.IsFull width := by
  rw [Shows, sub_offset_of_eq_stop hx, IsFull, Nat.not_le]
  constructor
  · rintro ⟨-, -, h | h⟩
    · exact h
    · omega
  · intro h
    refine ⟨?_, hx.le, .inl h⟩
    rw [hx, stop]
    exact Nat.le_add_right _ _

/-- A cursor in the text of a line is placed on one row, and on no other; on the row below the
line only if the last row of the line is full. -/
theorem Placed.exists_takes {width x line : Nat} {rows placed : List Row}
    (h : Placed width x rows placed) (hchained : Chained line 0 rows) (hne : rows ≠ [])
    (hx : x ≤ (shown rows).size) (hcursor : ∀ r ∈ rows, r.cursor = none)
    (hoverflow : ∀ r ∈ rows, r.isOverflow = false) :
    ∃ before row after, placed = before ++ row :: after ∧ Takes width x rows row ∧
      (∀ r ∈ before ++ after, r.cursor = none) ∧
      (row.isOverflow = true → x = (shown rows).size ∧
        ∃ above, before.getLast? = some above ∧ above.stop = x ∧ above.IsFull width) := by
  cases h with
  | @onRow before row after hbefore hrow =>
    refine ⟨before, row.withCursor width x, after, rfl, .onRow rfl hbefore hrow,
      fun r hr => hcursor r ?_, fun hover => ?_⟩
    · rcases List.mem_append.1 hr with hr | hr
      · exact List.mem_append_left _ hr
      · exact List.mem_append_right _ (List.mem_cons_of_mem _ hr)
    · have hno := hoverflow row (List.mem_append_right _ List.mem_cons_self)
      have hsame : (row.withCursor width x).isOverflow = row.isOverflow := rfl
      rw [hsame, hno] at hover
      exact absurd hover Bool.false_ne_true
  | @below before last hnone hoffset hstop =>
    refine ⟨before ++ [last], overflow last.line last.stop, [], rfl,
      .below rfl hnone hoffset hstop, fun r hr => hcursor r (by simpa using hr), fun _ => ?_⟩
    have hend := (chained_append.1 hchained).2
    refine ⟨?_, last, by simp, hstop.symm, ?_⟩
    · rw [hstop, stop, hend.2.1, shown_append, Text.size_append, shown_cons, shown_nil,
        List.append_nil, Nat.zero_add]
    · have hlast := hnone last (List.mem_append_right _ List.mem_cons_self)
      rw [shows_stop_iff hstop] at hlast
      exact Classical.not_not.1 hlast
  | nowhere hnone hlast =>
    exfalso
    rcases hchained.exists_has hne (Nat.zero_le x) (by rwa [Nat.zero_add]) with
      ⟨row, hrow, hoffset, hlt⟩ | ⟨last, h, hoffset, hstop⟩
    · exact hnone row hrow ⟨hoffset, hlt.le, .inr hlt⟩
    · exact hlast last h ⟨hoffset, hstop⟩

end Row

theorem cursor_of_mem_lineRows {width line : Nat} {cursor : Position} {prompts : Prompts}
    {text : Text} {row : Row} (hline : line ≠ cursor.line)
    (h : row ∈ lineRows width cursor prompts line text) : row.cursor = none := by
  rw [lineRows, if_neg hline] at h
  exact Row.cursor_ofLine h

/-- Among the rows of a layout there is one that has the cursor, in the line of the cursor. -/
theorem exists_takes_layout {lines : List Text} {cursor : Position} {text : Text}
    (htext : lines[cursor.line]? = some text) (hoffset : cursor.offset ≤ text.size)
    (prompts : Prompts) (width : Nat) :
    ∃ before row after, layout lines cursor prompts width = before ++ row :: after ∧
      Row.Takes width cursor.offset
        (Row.ofLine width cursor.line text (prompts.forLine cursor.line)) row ∧
      (∀ r ∈ before ++ after, r.cursor = none) ∧
      (row.isOverflow = true → cursor.offset = text.size ∧
        ∃ above, before.getLast? = some above ∧ above.stop = cursor.offset ∧
          above.IsFull width) := by
  obtain ⟨before, after, hlayout, hbefore, hafter⟩ :=
    exists_layoutFrom_eq_append width cursor prompts (n := 0) htext
  rw [Nat.zero_add] at hlayout hbefore hafter
  have hother : ∀ r ∈ layout lines cursor prompts width, r.line ≠ cursor.line →
      r.cursor = none := by
    intro r hr hline
    obtain ⟨k, found, -, hmem⟩ := exists_of_mem_layoutFrom width cursor prompts hr
    rw [line_of_mem_lineRows width cursor prompts hmem] at hline
    exact cursor_of_mem_lineRows hline hmem
  rcases lineRows_cases width cursor prompts cursor.line text with ⟨hne, -⟩ | ⟨-, hplaced⟩
  · exact absurd rfl hne
  · have hshown := Row.shown_ofLine width cursor.line text (prompts.forLine cursor.line)
    have hnone := List.filter_eq_nil_iff.1 (filter_isOverflow_ofLine width prompts cursor.line text)
    obtain ⟨first, row, last, hrows, htakes, hcursor, hover⟩ :=
      hplaced.exists_takes (Row.ofLine_chained _ _ _ _) (Row.ofLine_ne_nil _ _ _ _)
        (by rwa [hshown]) (fun r hr => Row.cursor_ofLine hr)
        (fun r hr => Bool.not_eq_true _ ▸ hnone r hr)
    refine ⟨before ++ first, row, last ++ after, ?_, htakes, fun r hr => ?_, fun h => ?_⟩
    · rw [layout, hlayout, hrows]
      simp only [List.append_assoc, List.cons_append]
    · simp only [List.mem_append] at hr
      rcases hr with (hmem | hmem) | (hmem | hmem)
      · refine hother r ?_ (hbefore r hmem)
        rw [layout, hlayout]
        exact List.mem_append_left _ (List.mem_append_left _ hmem)
      · exact hcursor r (List.mem_append_left _ hmem)
      · exact hcursor r (List.mem_append_right _ hmem)
      · refine hother r ?_ (hafter r hmem)
        rw [layout, hlayout]
        exact List.mem_append_right _ hmem
    · obtain ⟨hsize, above, habove, hfull⟩ := hover h
      rw [hshown] at hsize
      refine ⟨hsize, above, ?_, hfull⟩
      rw [List.getLast?_append, habove, Option.some_or]

/-! ## The cell of the cursor -/

namespace Row

/-- Where the row shows a cursor before byte `x` of its line: in the cell after the text before
it, if the screen has that cell; otherwise in the last cell, if there is text after it on the row;
and otherwise in the first cell of an extra row. -/
structure ShowsAt (row : Row) (width x : Nat) (place : RowCursor) : Prop where
  cursor_eq : row.cursor = some place
  offset_add : row.offset + place.offset = x
  boundary : ∃ left right, row.text = left ++ right ∧ left.size = place.offset
  cell_lt : place.cell < max width 1
  cell_eq : row.cellAt place.offset < width → place.cell = row.cellAt place.offset
  cell_eq_last : width ≤ row.cellAt place.offset → place.offset < row.text.size →
    place.cell = width - 1
  cell_eq_zero : width ≤ row.cellAt place.offset → place.offset = row.text.size →
    place.cell = 0 ∧ row.isOverflow = true ∧ row.prompt = none

/-- The row of a line that has byte `x` is cut there between two characters if the line is. -/
theorem Chained.exists_eq_append {line x : Nat} {before after : List Row} {row : Row}
    (h : Chained line 0 (before ++ row :: after)) {left right : Text}
    (htext : shown (before ++ row :: after) = left ++ right) (hleft : left.size = x)
    (hoffset : row.offset ≤ x) (hstop : x ≤ row.stop) :
    ∃ a b, row.text = a ++ b ∧ a.size = x - row.offset := by
  have hstart : row.offset = (shown before).size := by
    rw [h.offset_eq, Nat.zero_add]
  rw [shown_append, shown_cons] at htext
  obtain ⟨a, rfl, hrest⟩ := Text.exists_append_of_size_le htext (by omega)
  rw [Text.size_append] at hleft
  rw [stop] at hstop
  obtain ⟨b, hb, -⟩ := Text.exists_append_of_size_le hrest.symm (by omega)
  exact ⟨a, b, hb, by omega⟩

theorem Takes.showsAt {width x line : Nat} {rows : List Row} {row : Row}
    (h : Takes width x rows row) (hchained : Chained line 0 rows) {left right : Text}
    (htext : shown rows = left ++ right) (hleft : left.size = x) :
    row.line = line ∧ ∃ place, row.ShowsAt width x place := by
  cases h with
  | @onRow before row after hrows hbefore hrow =>
    subst hrows
    obtain ⟨hoffset, hstop, hcell⟩ := hrow
    have hoffset' : row.offset + (x - row.offset) = x := by omega
    have hline : row.line = line :=
      hchained.line_eq (List.mem_append_right _ List.mem_cons_self)
    refine ⟨hline, _, rfl, hoffset',
      hchained.exists_eq_append htext hleft hoffset hstop, ?_, fun hlt => ?_, fun hle _ => ?_,
      fun hle hend => ?_⟩
    · dsimp only
      split <;> omega
    · exact if_pos hlt
    · exact if_neg (Nat.not_lt.2 hle)
    · exfalso
      rcases hcell with hcell | hcell
      · exact Nat.not_lt.2 hle hcell
      · simp only [withCursor_text] at hend
        rw [stop] at hcell
        omega
  | @below before last hrows hnone hoffset hx =>
    subst hrows
    have hline : last.line = line :=
      hchained.line_eq (List.mem_append_right _ List.mem_cons_self)
    refine ⟨hline, { cell := 0, offset := 0 }, rfl, hx.symm, ⟨[], [], rfl, rfl⟩,
      ?_, fun _ => ?_, fun _ hlt => ?_, fun _ _ => ⟨rfl, rfl, rfl⟩⟩
    · show 0 < max width 1
      omega
    · show 0 = promptWidth (overflow last.line last.stop) + Text.visibleWidth []
      rw [Text.visibleWidth, Text.pieces]
      rfl
    · exact absurd hlt (Nat.not_lt_zero _)

end Row

/-- Among the rows of a layout there is one that shows the cursor, and no other has one. -/
theorem exists_row_showsAt {lines : List Text} {cursor : Position} (h : cursor.InLines lines)
    (prompts : Prompts) (width : Nat) :
    ∃ text before row after place, lines[cursor.line]? = some text ∧
      layout lines cursor prompts width = before ++ row :: after ∧
      (∀ r ∈ before ++ after, r.cursor = none) ∧
      row.line = cursor.line ∧ row.ShowsAt width cursor.offset place ∧
      (row.isOverflow = true → cursor.offset = text.size ∧
        ∃ above, before.getLast? = some above ∧ above.stop = cursor.offset ∧
          above.IsFull width) := by
  obtain ⟨text, htext, left, right, hsplit, hleft⟩ := h
  have hoffset : cursor.offset ≤ text.size := by
    rw [hsplit, Text.size_append]
    omega
  obtain ⟨before, row, after, hlayout, htakes, hnone, hover⟩ :=
    exists_takes_layout htext hoffset prompts width
  have hshown := Row.shown_ofLine width cursor.line text (prompts.forLine cursor.line)
  obtain ⟨hline, place, hplace⟩ :=
    htakes.showsAt (Row.ofLine_chained _ _ _ _) (hshown.trans hsplit) hleft
  exact ⟨text, before, row, after, place, htext, hlayout, hnone, hline, hplace, hover⟩

/-- A row with a cursor shows it where the cursor is. -/
theorem showsAt_of_mem_layout {lines : List Text} {cursor : Position} (h : cursor.InLines lines)
    {prompts : Prompts} {width : Nat} {row : Row} (hrow : row ∈ layout lines cursor prompts width)
    {place : RowCursor} (hplace : row.cursor = some place) :
    row.ShowsAt width cursor.offset place := by
  obtain ⟨-, before, shower, after, place', -, hlayout, hnone, -, hshows, -⟩ :=
    exists_row_showsAt h prompts width
  rw [hlayout, List.mem_append, List.mem_cons] at hrow
  rcases hrow with hrow | rfl | hrow
  · rw [hnone row (List.mem_append_left _ hrow)] at hplace
    exact absurd hplace nofun
  · rw [hshows.cursor_eq, Option.some.injEq] at hplace
    rwa [hplace] at hshows
  · rw [hnone row (List.mem_append_right _ hrow)] at hplace
    exact absurd hplace nofun

/-- A layout shows the cursor on one row of its line and on no other row.  The cell is the one
after the prompt and the text before the cursor wherever the screen has that cell, else the last
one or the first of an extra row; and there is an extra row only for a cursor at the end of its
line, below a row that is full. -/
theorem layout_has_one_cursor {lines : List Text} {cursor : Position} (h : cursor.InLines lines)
    (prompts : Prompts) (width : Nat) :
    ∃ before row after place, layout lines cursor prompts width = before ++ row :: after ∧
      (∀ r ∈ before ++ after, r.cursor = none) ∧
      row.line = cursor.line ∧ row.ShowsAt width cursor.offset place ∧
      (row.isOverflow = true →
        (∃ text, lines[cursor.line]? = some text ∧ cursor.offset = text.size) ∧
        ∃ above, before.getLast? = some above ∧ above.stop = cursor.offset ∧
          width ≤ above.cellAt above.text.size) := by
  obtain ⟨text, before, row, after, place, htext, hlayout, hnone, hline, hshows, hover⟩ :=
    exists_row_showsAt h prompts width
  refine ⟨before, row, after, place, hlayout, hnone, hline, hshows, fun h => ?_⟩
  obtain ⟨hsize, above, habove, hstop, hfull⟩ := hover h
  exact ⟨⟨text, htext, hsize⟩, above, habove, hstop, hfull⟩

/-- A cursor at the end of a line that stands behind a prompt as wide as the screen. -/
theorem layout_has_one_cursor_behind_wide_prompt :
    let lines : List Text := ["ab".toList, "cd".toList]
    let cursor : Position := { offset := 2, line := 1 }
    let prompts : Prompts :=
      { primary := { text := "> ".toList, width := 2 }
        continuation := { text := "....".toList, width := 4 } }
    cursor.InLines lines ∧
      ∃ before row after place, layout lines cursor prompts 4 = before ++ row :: after ∧
        (∀ r ∈ before ++ after, r.cursor = none) ∧
        row.line = cursor.line ∧ row.ShowsAt 4 cursor.offset place ∧
        (row.isOverflow = true →
          (∃ text, lines[cursor.line]? = some text ∧ cursor.offset = text.size) ∧
          ∃ above, before.getLast? = some above ∧ above.stop = cursor.offset ∧
            4 ≤ above.cellAt above.text.size) := by
  intro lines cursor prompts
  have hin : cursor.InLines lines := ⟨"cd".toList, rfl, "cd".toList, [], rfl, rfl⟩
  exact ⟨hin, layout_has_one_cursor hin prompts 4⟩

/-! ## The number of its row -/

/-- The row of the cursor is found by its cursor. -/
theorem cursorRow_eq {before after : List Row} {row : Row} (hbefore : ∀ r ∈ before, r.cursor = none)
    (hrow : row.cursor.isSome = true) : cursorRow (before ++ row :: after) = before.length := by
  have hnone : before.findIdx? (fun r => r.cursor.isSome) = none := by
    rw [List.findIdx?_eq_none_iff]
    intro r hr
    rw [hbefore r hr]
    rfl
  rw [cursorRow, List.findIdx?_append, hnone, Option.none_or, List.findIdx?_cons, hrow]
  simp

theorem Row.Takes.isSome_cursor {width x : Nat} {rows : List Row} {row : Row}
    (h : Takes width x rows row) : row.cursor.isSome = true := by
  cases h <;> rfl

/-- The row with the number `cursorRow` takes the cursor, and the other rows are without it. -/
theorem exists_cursorRow_takes {lines : List Text} {cursor : Position} (h : cursor.InLines lines)
    (prompts : Prompts) (width : Nat) :
    let rows := layout lines cursor prompts width
    ∃ text row, lines[cursor.line]? = some text ∧ rows[cursorRow rows]? = some row ∧
      Row.Takes width cursor.offset
        (Row.ofLine width cursor.line text (prompts.forLine cursor.line)) row ∧
      ∀ n r, rows[n]? = some r → n ≠ cursorRow rows → r.cursor = none := by
  intro rows
  obtain ⟨text, htext, hsize⟩ := h.offset_le
  obtain ⟨before, taker, after, hlayout, htakes, hnone, -⟩ :=
    exists_takes_layout htext hsize prompts width
  have hrows : rows = before ++ taker :: after := hlayout
  have hbefore : ∀ r ∈ before, r.cursor = none := fun r hr => hnone r (List.mem_append_left _ hr)
  rw [hrows, cursorRow_eq hbefore htakes.isSome_cursor]
  refine ⟨text, taker, htext, ?_, htakes, fun n r hr hne => ?_⟩
  · rw [List.getElem?_append_right (Nat.le_refl _), Nat.sub_self, List.getElem?_cons_zero]
  · rw [List.getElem?_append] at hr
    split at hr
    · exact hbefore r (List.mem_of_getElem? hr)
    · obtain ⟨k, hk⟩ : ∃ k, n - before.length = k + 1 := ⟨n - before.length - 1, by omega⟩
      rw [hk, List.getElem?_cons_succ] at hr
      exact hnone r (List.mem_append_right _ (List.mem_of_getElem? hr))

end LineEditor
