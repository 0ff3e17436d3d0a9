import LineEditor.Proofs.Layout.Cursor

/-!
# Moving up and down

A motion up or down goes to a place on the target row, and the next layout shows the cursor where
it shows that place.  The two rows are the same but for two cases, both at a point where the line
is wrapped.

* The place.  `positionOnRow_inLines` says that it is a place in the text, and
  `positionOnRow_bounds` that it is in the text of the target row or at one of its ends.
* The row that has it.  `Takes.cases_of_mem` compares the row that takes the cursor with any row
  that has the same byte: it is that row, or the one above, which has a cell left for the cursor,
  or the one below, because the row is full.
* The result.  `verticalTarget_lands_iff` gives the exact condition under which the cursor is shown
  on the target row, and `verticalTarget_up_stays_on_row` is a motion after which it is not.
-/

namespace LineEditor

/-! ## The place -/

/-- The place on a row is after a leading part of its text. -/
theorem exists_positionOnRow_eq (source target : Row) :
    ∃ passed rest, target.text = passed ++ rest ∧
      positionOnRow source target =
        { offset := target.offset + passed.size, line := target.line } := by
  unfold positionOnRow
  cases source.cursor with
  | none =>
    obtain ⟨rest, hrest⟩ := Text.exists_eq_truncate_append target.text (0 - source.promptWidth)
    exact ⟨_, rest, hrest, rfl⟩
  | some place =>
    obtain ⟨rest, hrest⟩ :=
      Text.exists_eq_truncate_append target.text (place.cell - source.promptWidth)
    exact ⟨_, rest, hrest, rfl⟩

theorem positionOnRow_bounds (source target : Row) :
    target.offset ≤ (positionOnRow source target).offset ∧
      (positionOnRow source target).offset ≤ target.stop := by
  obtain ⟨passed, rest, htext, hplace⟩ := exists_positionOnRow_eq source target
  rw [hplace, Row.stop, htext, Text.size_append]
  constructor <;> dsimp only <;> omega

/-- The place on a row of a layout is a place in the lines laid out. -/
theorem positionOnRow_inLines {lines : List Text} {cursor : Position} {prompts : Prompts}
    {width : Nat} (source : Row) {target : Row}
    (h : target ∈ layout lines cursor prompts width) :
    (positionOnRow source target).InLines lines := by
  obtain ⟨text, left, right, htext, -, hsplit, hleft⟩ := exists_slice_of_mem_layout h
  obtain ⟨passed, rest, htarget, hplace⟩ := exists_positionOnRow_eq source target
  rw [hplace]
  refine ⟨text, htext, left ++ passed, rest ++ right, ?_, ?_⟩
  · rw [hsplit, htarget, List.append_assoc, List.append_assoc]
  · rw [Text.size_append, hleft]

/-- Moving up or down goes to the row that is asked for, and only if that is another row. -/
theorem verticalTarget_eq_some {rows : List Row} {amount : Int} {p : Position}
    (h : verticalTarget rows amount = some p) :
    ∃ source target, rowBelow rows.length (cursorRow rows) amount ≠ cursorRow rows ∧
      rows[cursorRow rows]? = some source ∧
      rows[rowBelow rows.length (cursorRow rows) amount]? = some target ∧
      p = positionOnRow source target := by
  rw [verticalTarget] at h
  split at h
  · exact absurd h nofun
  · next hne =>
    split at h
    · next source target hsource htarget =>
      exact ⟨source, target, hne, hsource, htarget, (Option.some.inj h).symm⟩
    · exact absurd h nofun

/-- A motion up or down goes to a place in the lines laid out. -/
theorem verticalTarget_inLines {lines : List Text} {cursor p : Position} {prompts : Prompts}
    {width : Nat} {amount : Int}
    (h : verticalTarget (layout lines cursor prompts width) amount = some p) : p.InLines lines := by
  obtain ⟨source, target, -, -, htarget, rfl⟩ := verticalTarget_eq_some h
  exact positionOnRow_inLines source (List.mem_of_getElem? htarget)

/-! ## The row that has the place -/

namespace Row

/-- The row that takes the cursor, next to a row that has the same byte of the line. -/
theorem Takes.cases_of_mem {width x line : Nat} {before after : List Row} {target taker : Row}
    (h : Takes width x (before ++ target :: after) taker)
    (hchained : Chained line 0 (before ++ target :: after))
    (hbefore : ∀ r ∈ before, r.text ≠ [])
    (hoffset : target.offset ≤ x) (hstop : x ≤ target.stop) :
    (taker.offset = target.offset ∧ target.Shows width x ∧ ∀ r ∈ before, ¬ r.Shows width x) ∨
      (taker.offset < target.offset ∧ taker.stop = target.offset ∧
        ∃ r ∈ before, r.Shows width x) ∨
      (taker.offset = target.stop ∧ x = target.stop ∧ ¬ target.Shows width x ∧
        ∀ r ∈ before, ¬ r.Shows width x) := by
  generalize hrows : before ++ target :: after = rows at h
  cases h with
  | @onRow first row last heq hfirst hrow =>
    rw [heq] at hrows
    have habove : ∀ e, before = first ++ row :: e → row.stop = x ∧ row.offset < target.offset ∧
        target.offset = x := by
      intro e he
      have hmem : row ∈ before := by
        rw [he]
        exact List.mem_append_right _ List.mem_cons_self
      have hle := hchained.stop_le_offset hmem
      have hpos := Text.size_pos_iff.2 (hbefore row hmem)
      have hx := hrow.2.1
      simp only [stop] at *
      omega
    rcases List.append_eq_append_iff.1 hrows with ⟨e, hfst, hsnd⟩ | ⟨e, hfst, hsnd⟩
    · -- the row that takes the cursor is the target or after it
      cases e with
      | nil =>
        obtain ⟨rfl, rfl⟩ := List.cons.inj hsnd
        rw [List.append_nil] at hfst
        exact .inl ⟨rfl, hrow, hfst ▸ hfirst⟩
      | cons head e =>
        obtain ⟨rfl, rfl⟩ := List.cons.inj hsnd
        have hle := hchained.stop_le_offset_of_mem_after
          (List.mem_append_right e List.mem_cons_self)
        have hx := hrow.1
        refine .inr (.inr ⟨?_, by omega, hfirst target ?_, fun r hr => hfirst r ?_⟩)
        · rw [withCursor_offset]
          omega
        · rw [hfst]
          exact List.mem_append_right _ List.mem_cons_self
        · rw [hfst]
          exact List.mem_append_left _ hr
    · cases e with
      | nil =>
        obtain ⟨rfl, rfl⟩ := List.cons.inj hsnd
        rw [List.append_nil] at hfst
        exact .inl ⟨rfl, hrow, hfst ▸ hfirst⟩
      | cons head e =>
        obtain ⟨rfl, rfl⟩ := List.cons.inj hsnd
        obtain ⟨hend, hlt, hx⟩ := habove e hfst
        refine .inr (.inl ⟨hlt, hend.trans hx.symm, row, ?_, hrow⟩)
        rw [hfst]
        exact List.mem_append_right _ List.mem_cons_self
  | @below first last heq hnone hlast hx =>
    rw [← hrows] at hnone
    have hle : target.stop ≤ last.stop := by
      have hmem : last ∈ before ++ target :: after := by
        rw [hrows, heq]
        exact List.mem_append_right _ List.mem_cons_self
      have htarget : target ∈ first ++ [last] := by
        rw [← heq, ← hrows]
        exact List.mem_append_right _ List.mem_cons_self
      rcases List.mem_append.1 htarget with hmem' | hmem'
      · rw [hrows, heq] at hchained
        exact (hchained.stop_le_offset hmem').trans (Nat.le_add_right _ _)
      · rw [List.mem_singleton.1 hmem']
    have hstop' : x = target.stop := by omega
    have hover : (overflow last.line last.stop).offset = last.stop := rfl
    exact .inr (.inr ⟨by rw [hover]; omega, hstop',
      hnone target (List.mem_append_right _ List.mem_cons_self),
      fun r hr => hnone r (List.mem_append_left _ hr)⟩)

/-! ## Rows with and without the cursor -/

/-- The row without the cursor. -/
def bare (row : Row) : Row := { row with cursor := none }

theorem bare_eq_self {row : Row} (h : row.cursor = none) : row.bare = row := by
  cases row
  simp only [bare, Row.mk.injEq, true_and, and_true]
  exact h.symm

theorem Placed.bare_mem {width x : Nat} {rows placed : List Row} (h : Placed width x rows placed)
    (hcursor : ∀ r ∈ rows, r.cursor = none) {row : Row} (hrow : row ∈ placed)
    (hshows : row.text ≠ [] ∨ row.cursor = none) : row.bare ∈ rows := by
  have hself : ∀ r ∈ rows, r.bare ∈ rows := fun r hr => (bare_eq_self (hcursor r hr)).symm ▸ hr
  cases h with
  | @onRow before taker after hbefore htaker =>
    rcases List.mem_append.1 hrow with hrow | hrow
    · exact hself row (List.mem_append_left _ hrow)
    · rcases List.mem_cons.1 hrow with rfl | hrow
      · exact hself taker (List.mem_append_right _ List.mem_cons_self)
      · exact hself row (List.mem_append_right _ (List.mem_cons_of_mem _ hrow))
  | below hnone hoffset hx =>
    rcases List.mem_append.1 hrow with hrow | hrow
    · exact hself row hrow
    · rw [List.mem_singleton.1 hrow] at hshows
      rcases hshows with hshows | hshows
      · exact absurd rfl hshows
      · exact absurd hshows nofun
  | nowhere hnone hlast => exact hself row hrow

theorem Placed.exists_bare_eq {width x : Nat} {rows placed : List Row}
    (h : Placed width x rows placed) (hcursor : ∀ r ∈ rows, r.cursor = none) {row : Row}
    (hrow : row ∈ rows) : ∃ r ∈ placed, r.bare = row := by
  have hself := bare_eq_self (hcursor row hrow)
  cases h with
  | @onRow before taker after hbefore htaker =>
    rcases List.mem_append.1 hrow with hrow | hrow
    · exact ⟨row, List.mem_append_left _ hrow, hself⟩
    · rcases List.mem_cons.1 hrow with rfl | hrow
      · exact ⟨_, List.mem_append_right _ List.mem_cons_self, hself⟩
      · exact ⟨row, List.mem_append_right _ (List.mem_cons_of_mem _ hrow), hself⟩
  | below hnone hoffset hx => exact ⟨row, List.mem_append_left _ hrow, hself⟩
  | nowhere hnone hlast => exact ⟨row, hrow, hself⟩

theorem Takes.line_eq {width x line : Nat} {rows : List Row} {row : Row}
    (h : Takes width x rows row) (hchained : Chained line 0 rows) : row.line = line := by
  cases h with
  | onRow hrows hbefore hrow =>
    subst hrows
    exact (chained_append.1 hchained).2.1
  | below hrows hnone hoffset hx =>
    subst hrows
    exact (chained_append.1 hchained).2.1

end Row

section Layout

variable {lines : List Text} {cursor : Position} {prompts : Prompts} {width : Nat}

/-- A row of a layout that shows text or is without the cursor is a row of its line. -/
theorem bare_mem_ofLine {row : Row} (h : row ∈ layout lines cursor prompts width)
    (hrow : row.text ≠ [] ∨ row.cursor = none) :
    ∃ text, lines[row.line]? = some text ∧
      row.bare ∈ Row.ofLine width row.line text (prompts.forLine row.line) := by
  obtain ⟨text, left, right, htext, hmem, -⟩ := exists_slice_of_mem_layout h
  refine ⟨text, htext, ?_⟩
  have hcursor : ∀ r ∈ Row.ofLine width row.line text (prompts.forLine row.line),
      r.cursor = none := fun r hr => Row.cursor_ofLine hr
  rcases lineRows_cases width cursor prompts row.line text with ⟨-, hrows⟩ | ⟨-, hplaced⟩
  · rw [hrows] at hmem
    rwa [Row.bare_eq_self (hcursor row hmem)]
  · exact hplaced.bare_mem hcursor hmem hrow

/-- A row of a line is in every layout of the lines, with the cursor or without it. -/
theorem exists_mem_layout_bare_eq {line : Nat} {text : Text} (htext : lines[line]? = some text)
    {row : Row} (h : row ∈ Row.ofLine width line text (prompts.forLine line)) :
    ∃ r ∈ layout lines cursor prompts width, r.bare = row := by
  obtain ⟨before, after, hlayout, -⟩ :=
    exists_layoutFrom_eq_append width cursor prompts (n := 0) htext
  rw [Nat.zero_add] at hlayout
  have hcursor : ∀ r ∈ Row.ofLine width line text (prompts.forLine line),
      r.cursor = none := fun r hr => Row.cursor_ofLine hr
  obtain ⟨r, hr, hbare⟩ : ∃ r ∈ lineRows width cursor prompts line text, r.bare = row := by
    rcases lineRows_cases width cursor prompts line text with ⟨-, hrows⟩ | ⟨-, hplaced⟩
    · rw [hrows]
      exact ⟨row, h, Row.bare_eq_self (hcursor row h)⟩
    · exact hplaced.exists_bare_eq hcursor h
  refine ⟨r, ?_, hbare⟩
  rw [layout, hlayout]
  exact List.mem_append_left _ (List.mem_append_right _ hr)

end Layout

/-- The rows above a row in its line show text. -/
theorem text_ne_nil_of_mem_above {width line : Nat} {text : Text} {prompt : Prompt}
    {before after : List Row} {target r : Row}
    (h : Row.ofLine width line text prompt = before ++ target :: after) (hr : r ∈ before) :
    r.text ≠ [] := by
  by_cases htext : text = []
  · subst htext
    obtain ⟨row, hrow, -⟩ := Row.ofLine_nil width line prompt
    have hlen := congrArg List.length (h.symm.trans hrow)
    rw [List.length_append, List.length_cons, List.length_singleton] at hlen
    have hpos := List.length_pos_of_mem hr
    omega
  · have hmem : r ∈ Row.ofLine width line text prompt := by
      rw [h]
      exact List.mem_append_left _ hr
    exact Row.text_ne_nil_of_mem_ofLine htext hmem

namespace Row

/-- A row that shows text and ends where another row of the line begins is above it. -/
theorem mem_before_of_stop_eq {line : Nat} {before after : List Row} {target r : Row}
    (h : Chained line 0 (before ++ target :: after)) (hr : r ∈ before ++ target :: after)
    (htext : r.text ≠ []) (hstop : r.stop = target.offset) : r ∈ before := by
  have hpos := Text.size_pos_iff.2 htext
  rcases List.mem_append.1 hr with hr | hr
  · exact hr
  · exfalso
    rcases List.mem_cons.1 hr with rfl | hr
    · simp only [stop] at hstop
      omega
    · have hle := h.stop_le_offset_of_mem_after hr
      simp only [stop] at hstop hle
      omega

/-- When the row that takes the cursor is the target: not if the cursor stands after the text of
the target and the target is full, nor if it stands before that text and the row above is not. -/
theorem Takes.offset_eq_iff {width x line : Nat} {before after : List Row} {target taker : Row}
    (h : Takes width x (before ++ target :: after) taker)
    (hchained : Chained line 0 (before ++ target :: after))
    (hbefore : ∀ r ∈ before, r.text ≠ [])
    (hoffset : target.offset ≤ x) (hstop : x ≤ target.stop) :
    (taker.offset = target.offset ↔
      (x = target.stop → target.text = [] ∨ ¬ target.IsFull width) ∧
      (x = target.offset → ∀ r ∈ before, r.stop = target.offset → r.IsFull width)) ∧
    (taker.offset ≠ target.offset → taker.offset = target.stop ∨ taker.stop = target.offset) := by
  have hfull : (∀ r ∈ before, ¬ r.Shows width x) → x = target.offset →
      ∀ r ∈ before, r.stop = target.offset → r.IsFull width := by
    intro hnone hbegin r hr hend
    have hnot := hnone r hr
    rw [shows_stop_iff (hbegin.trans hend.symm)] at hnot
    exact Classical.not_not.1 hnot
  rcases h.cases_of_mem hchained hbefore hoffset hstop with
    ⟨heq, hshows, hnone⟩ | ⟨hlt, hend, r, hr, hshows⟩ | ⟨heq, hend, hshows, hnone⟩
  · -- it is the target
    refine ⟨⟨fun _ => ⟨fun hend => .inr ((shows_stop_iff hend).1 hshows), hfull hnone⟩,
      fun _ => heq⟩, fun hne => absurd heq hne⟩
  · -- it is the row above
    have hle := hchained.stop_le_offset hr
    have hx := hshows.2.1
    have hend' : x = r.stop := by omega
    refine ⟨⟨fun heq => absurd heq (Nat.ne_of_lt hlt), fun ⟨_, habove⟩ => ?_⟩, fun _ => .inr hend⟩
    have hnot := (shows_stop_iff hend').1 hshows
    exact absurd (habove (by omega) r hr (by omega)) hnot
  · -- it is the row below
    have htarget : target.IsFull width := by
      rw [shows_stop_iff hend] at hshows
      exact Classical.not_not.1 hshows
    have hempty : target.stop = target.offset ↔ target.text = [] := by
      rw [stop, ← Text.size_eq_zero_iff]
      omega
    refine ⟨⟨fun h => ⟨fun _ => .inl (hempty.1 (heq.symm.trans h)), hfull hnone⟩,
      fun ⟨hcell, _⟩ => ?_⟩, fun _ => .inl heq⟩
    rw [heq, hempty]
    exact (hcell hend).resolve_right (fun hnot => hnot htarget)

end Row

/-! ## The result -/

/-- A motion up or down lands on the row that it goes to exactly if that row has a cell for the
cursor after its text, should the cursor come to stand there, and the row above it in the line has
none, should the cursor come to stand before the text.  Otherwise it lands on the row below or on
the row above. -/
theorem verticalTarget_lands_iff {lines : List Text} {cursor p : Position} {prompts : Prompts}
    {width : Nat} {amount : Int} (hcursor : cursor.InLines lines)
    (h : verticalTarget (layout lines cursor prompts width) amount = some p) :
    let rows := layout lines cursor prompts width
    let moved := layout lines p prompts width
    ∃ target landed,
      rows[rowBelow rows.length (cursorRow rows) amount]? = some target ∧
      moved[cursorRow moved]? = some landed ∧ landed.cursor.isSome = true ∧
      landed.line = target.line ∧
      (landed.offset = target.offset ↔
        (p.offset = target.stop → target.text = [] ∨ ¬ target.IsFull width) ∧
        (p.offset = target.offset → ∀ above ∈ rows, above.line = target.line → above.text ≠ [] →
          above.stop = target.offset → above.IsFull width)) ∧
      (landed.offset ≠ target.offset →
        landed.offset = target.stop ∨ landed.stop = target.offset) := by
  intro rows moved
  obtain ⟨-, -, -, -, -, hother⟩ := exists_cursorRow_takes hcursor prompts width
  obtain ⟨source, target, hne, -, htarget, hplace⟩ := verticalTarget_eq_some h
  have hmem : target ∈ rows := List.mem_of_getElem? htarget
  have hnone : target.cursor = none := hother _ _ htarget hne
  -- the target among the rows of its line
  obtain ⟨text, htext, hofLine⟩ := bare_mem_ofLine hmem (.inr hnone)
  rw [Row.bare_eq_self hnone] at hofLine
  obtain ⟨before, after, hrows⟩ := List.append_of_mem hofLine
  have hchained := Row.ofLine_chained width target.line text (prompts.forLine target.line)
  rw [hrows] at hchained
  have hbefore : ∀ r ∈ before, r.text ≠ [] := fun r hr => text_ne_nil_of_mem_above hrows hr
  -- the row that takes the cursor after the motion
  obtain ⟨hlower, hupper⟩ := positionOnRow_bounds source target
  have hpline : (positionOnRow source target).line = target.line := rfl
  have hin := positionOnRow_inLines source hmem
  rw [← hplace] at hlower hupper hpline hin
  obtain ⟨found, landed, hfound, hlanded, htakes, -⟩ := exists_cursorRow_takes hin prompts width
  rw [hpline, htext, Option.some.injEq] at hfound
  rw [hpline, ← hfound, hrows] at htakes
  obtain ⟨hiff, helse⟩ := htakes.offset_eq_iff hchained hbefore hlower hupper
  refine ⟨target, landed, htarget, hlanded, htakes.isSome_cursor, htakes.line_eq hchained, ?_,
    helse⟩
  rw [hiff]
  -- the rows above the target in its line are those in the layout that end where it begins
  refine and_congr_right fun _ => imp_congr_right fun _ =>
    ⟨fun hfull above hmem hline hne hstop => ?_, fun hfull r hr hstop => ?_⟩
  · obtain ⟨text', htext', hbare⟩ := bare_mem_ofLine hmem (.inl hne)
    rw [hline, htext, Option.some.injEq] at htext'
    rw [hline, ← htext', hrows] at hbare
    exact hfull above.bare (Row.mem_before_of_stop_eq hchained hbare hne hstop) hstop
  · obtain ⟨above, hmem, hbare⟩ : ∃ above ∈ rows, above.bare = r := by
      refine exists_mem_layout_bare_eq htext ?_
      rw [hrows]
      exact List.mem_append_left _ hr
    have hline := hchained.line_eq (List.mem_append_left _ hr)
    have hne := hbefore r hr
    rw [← hbare] at hline hne hstop ⊢
    exact hfull above hmem hline hne hstop

/-- Up from the last cell of a row, over a first row that its prompt leaves two cells. -/
theorem verticalTarget_lands_iff_above_full_row :
    let lines : List Text := ["abcdef".toList]
    let prompts : Prompts :=
      { primary := .ofText "> ".toList false false, continuation := .ofText [] true false }
    let cursor : Position := { offset := 5, line := 0 }
    let p : Position := { offset := 2, line := 0 }
    let rows := layout lines cursor prompts 4
    let moved := layout lines p prompts 4
    cursor.InLines lines ∧ verticalTarget rows (-1) = some p ∧
      ∃ target landed,
        rows[rowBelow rows.length (cursorRow rows) (-1)]? = some target ∧
        moved[cursorRow moved]? = some landed ∧ landed.cursor.isSome = true ∧
        landed.line = target.line ∧
        (landed.offset = target.offset ↔
          (p.offset = target.stop → target.text = [] ∨ ¬ target.IsFull 4) ∧
          (p.offset = target.offset → ∀ above ∈ rows, above.line = target.line → above.text ≠ [] →
            above.stop = target.offset → above.IsFull 4)) ∧
        (landed.offset ≠ target.offset →
          landed.offset = target.stop ∨ landed.stop = target.offset) := by
  intro lines prompts cursor p rows moved
  have hin : cursor.InLines lines := ⟨"abcdef".toList, rfl, "abcde".toList, "f".toList, rfl, rfl⟩
  have htarget : verticalTarget rows (-1) = some p := by decide +kernel
  exact ⟨hin, htarget, verticalTarget_lands_iff hin htarget⟩

/-- Up from the last cell of the second row, the cursor stays on that row: the place after the text
of the full first row is shown in the first cell of the second. -/
theorem verticalTarget_up_stays_on_row :
    let lines : List Text := ["abcdef".toList]
    let prompts : Prompts :=
      { primary := .ofText "> ".toList false false, continuation := .ofText [] true false }
    let rows := layout lines { offset := 5, line := 0 } prompts 4
    let moved := layout lines { offset := 2, line := 0 } prompts 4
    verticalTarget rows (-1) = some { offset := 2, line := 0 } ∧
      cursorRow rows = 1 ∧ rowBelow rows.length 1 (-1) = 0 ∧
      rows.map Row.offset = [0, 2] ∧ moved.map Row.offset = [0, 2] ∧ cursorRow moved = 1 := by
  decide +kernel

-- Down from the start of the first row, the cursor stays on that row, too: the place before the
-- wide character is shown in the cell that is left of the first row.
example :
    let lines : List Text := ["abc日x".toList]
    let prompts : Prompts :=
      { primary := .ofText [] false false, continuation := .ofText [] true false }
    let rows := layout lines { offset := 0, line := 0 } prompts 4
    let moved := layout lines { offset := 3, line := 0 } prompts 4
    verticalTarget rows 1 = some { offset := 3, line := 0 } ∧
      cursorRow rows = 0 ∧ rowBelow rows.length 0 1 = 1 ∧
      rows.map Row.offset = [0, 3] ∧ moved.map Row.offset = [0, 3] ∧ cursorRow moved = 0 := by
  decide +kernel

end LineEditor
