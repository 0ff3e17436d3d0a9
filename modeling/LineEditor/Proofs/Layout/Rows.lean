import LineEditor.Proofs.Pieces

/-!
# Rows of a line

What the rows of one line have in common, with the cursor on them and without it.

* Runs of rows.  `Chained` says that each row begins where the one before it ends, and `shown` is
  the text that the rows show together.
* Rows of pieces.  `ofLine_chained`, `shown_ofLine` and the lemmas beside them read the rows of a
  line off `Piece.wrap`.
* Placing the cursor.  `Shows` says which row takes the cursor, and `Placed` lists the three ways
  in which a cursor is placed: on the first row that takes it, on a row of its own below the last
  one, or not at all.  `placed_placeCursor` says that `placeCursor` does nothing else, so every
  later fact about the cursor is a case split on `Placed`.
-/

namespace LineEditor.Row

/-! ## Runs of rows -/

/-- The text that rows show together. -/
def shown (rows : List Row) : Text :=
  (rows.map Row.text).flatten

@[simp] theorem shown_nil : shown [] = [] := rfl

@[simp] theorem shown_cons (row : Row) (rows : List Row) :
    shown (row :: rows) = row.text ++ shown rows := rfl

@[simp] theorem shown_append (left right : List Row) :
    shown (left ++ right) = shown left ++ shown right := by
  simp [shown]

/-- Whether the rows are rows of one line, of which the first begins at byte `offset` and every
other one where the row before it ends. -/
def Chained (line : Nat) : Nat → List Row → Prop
  | _, [] => True
  | offset, row :: rest => row.line = line ∧ row.offset = offset ∧ Chained line row.stop rest

theorem chained_append {line offset : Nat} {left right : List Row} :
    Chained line offset (left ++ right) ↔
      Chained line offset left ∧ Chained line (offset + (shown left).size) right := by
  induction left generalizing offset with
  | nil => simp [Chained]
  | cons row left ih =>
    simp only [List.cons_append, Chained, ih, shown_cons, Text.size_append, and_assoc]
    constructor
    · rintro ⟨hline, rfl, hleft, hright⟩
      refine ⟨hline, rfl, hleft, ?_⟩
      rwa [stop, Nat.add_assoc] at hright
    · rintro ⟨hline, rfl, hleft, hright⟩
      refine ⟨hline, rfl, hleft, ?_⟩
      rwa [stop, Nat.add_assoc]

theorem Chained.line_eq {line offset : Nat} {rows : List Row} (h : Chained line offset rows)
    {row : Row} (hrow : row ∈ rows) : row.line = line := by
  obtain ⟨before, after, rfl⟩ := List.append_of_mem hrow
  exact (chained_append.1 h).2.1

/-- A row begins where the rows before it end. -/
theorem Chained.offset_eq {line offset : Nat} {before after : List Row} {row : Row}
    (h : Chained line offset (before ++ row :: after)) :
    row.offset = offset + (shown before).size :=
  (chained_append.1 h).2.2.1

/-- The rows before a row end where it begins at the latest. -/
theorem Chained.stop_le_offset {line offset : Nat} {before after : List Row} {row r : Row}
    (h : Chained line offset (before ++ row :: after)) (hr : r ∈ before) : r.stop ≤ row.offset := by
  obtain ⟨first, last, rfl⟩ := List.append_of_mem hr
  have hrow := h.offset_eq
  rw [List.append_assoc, List.cons_append] at h
  have hr' := h.offset_eq
  rw [shown_append, shown_cons, Text.size_append, Text.size_append] at hrow
  rw [stop]
  omega

/-- The rows after a row begin where it ends at the earliest. -/
theorem Chained.stop_le_offset_of_mem_after {line offset : Nat} {before after : List Row}
    {row r : Row} (h : Chained line offset (before ++ row :: after)) (hr : r ∈ after) :
    row.stop ≤ r.offset := by
  obtain ⟨first, last, rfl⟩ := List.append_of_mem hr
  have h' : Chained line offset ((before ++ row :: first) ++ r :: last) := by
    rwa [List.append_assoc, List.cons_append]
  exact h'.stop_le_offset (List.mem_append_right _ List.mem_cons_self)

/-- One of the rows has byte `x` of the line; the last one has it, or there is text after it. -/
theorem Chained.exists_has {line offset x : Nat} {rows : List Row} (h : Chained line offset rows)
    (hne : rows ≠ []) (hoffset : offset ≤ x) (hx : x ≤ offset + (shown rows).size) :
    (∃ row ∈ rows, row.offset ≤ x ∧ x < row.stop) ∨
      ∃ last, rows.getLast? = some last ∧ last.offset ≤ x ∧ x = last.stop := by
  induction rows generalizing offset with
  | nil => exact absurd rfl hne
  | cons row rest ih =>
    obtain ⟨-, rfl, hrest⟩ := h
    by_cases hlt : x < row.stop
    · exact .inl ⟨row, List.mem_cons_self, hoffset, hlt⟩
    · cases rest with
      | nil =>
        simp only [shown_cons, shown_nil, List.append_nil] at hx
        have hstop : x = row.stop := Nat.le_antisymm hx (Nat.le_of_not_lt hlt)
        exact .inr ⟨row, rfl, hoffset, hstop⟩
      | cons next rest =>
        have hx' : x ≤ row.stop + (shown (next :: rest)).size := by
          rw [shown_cons, Text.size_append] at hx
          rw [stop]
          omega
        rcases ih hrest (List.cons_ne_nil _ _) (Nat.le_of_not_lt hlt) hx' with
          ⟨found, hmem, hfound⟩ | ⟨last, hlast, h⟩
        · exact .inl ⟨found, List.mem_cons_of_mem _ hmem, hfound⟩
        · refine .inr ⟨last, ?_, h⟩
          rw [List.getLast?_cons_cons]
          exact hlast

/-! ## Rows of pieces -/

theorem chained_ofPieces (line offset : Nat) (prompt : Option Prompt) (startsLine : Bool)
    (groups : List (List Piece)) :
    Chained line offset (ofPieces line offset prompt startsLine groups) := by
  induction groups generalizing offset prompt startsLine with
  | nil => trivial
  | cons pieces groups ih => exact ⟨rfl, rfl, ih _ _ _⟩

theorem map_text_ofPieces (line offset : Nat) (prompt : Option Prompt) (startsLine : Bool)
    (groups : List (List Piece)) :
    (ofPieces line offset prompt startsLine groups).map Row.text = groups.map Piece.textOf := by
  induction groups generalizing offset prompt startsLine with
  | nil => rfl
  | cons pieces groups ih =>
    show Piece.textOf pieces :: List.map Row.text _ = _
    rw [ih, List.map_cons]

theorem cursor_ofPieces {line offset : Nat} {prompt : Option Prompt} {startsLine : Bool}
    {groups : List (List Piece)} {row : Row}
    (h : row ∈ ofPieces line offset prompt startsLine groups) : row.cursor = none := by
  induction groups generalizing offset prompt startsLine with
  | nil => exact absurd h List.not_mem_nil
  | cons pieces groups ih =>
    rcases List.mem_cons.1 h with rfl | h
    · rfl
    · exact ih h

theorem later_ofPieces {line offset : Nat} {groups : List (List Piece)} {row : Row}
    (h : row ∈ ofPieces line offset none false groups) :
    row.startsLine = false ∧ row.prompt = none := by
  induction groups generalizing offset with
  | nil => exact absurd h List.not_mem_nil
  | cons pieces groups ih =>
    rcases List.mem_cons.1 h with rfl | h
    · exact ⟨rfl, rfl⟩
    · exact ih h

/-! ## Rows without the cursor -/

section Line

variable (width line : Nat) (text : Text) (prompt : Prompt)

theorem ofLine_chained : Chained line 0 (ofLine width line text prompt) :=
  chained_ofPieces _ _ _ _ _

theorem map_text_ofLine : (ofLine width line text prompt).map Row.text =
    (Piece.wrap (width - prompt.width) width text.pieces).map Piece.textOf :=
  map_text_ofPieces _ _ _ _ _

/-- The rows of a line show the line. -/
theorem shown_ofLine : shown (ofLine width line text prompt) = text := by
  rw [shown, map_text_ofLine, ← Piece.textOf_flatten, Piece.flatten_wrap, Text.textOf_pieces]

/-- The first row begins the line with its prompt, and no other row does. -/
theorem exists_ofLine_eq_cons :
    ∃ first rest, ofLine width line text prompt = first :: rest ∧
      first.startsLine = true ∧ first.prompt = some prompt ∧
      ∀ row ∈ rest, row.startsLine = false ∧ row.prompt = none := by
  obtain ⟨pieces, groups, hwrap⟩ := List.exists_cons_of_ne_nil
    (Piece.wrap_ne_nil (width - prompt.width) width text.pieces)
  rw [ofLine, hwrap]
  exact ⟨_, _, rfl, rfl, rfl, fun row hrow => later_ofPieces hrow⟩

theorem ofLine_ne_nil : ofLine width line text prompt ≠ [] := by
  obtain ⟨first, rest, h, -⟩ := exists_ofLine_eq_cons width line text prompt
  rw [h]
  exact List.cons_ne_nil _ _

theorem ofLine_nil : ∃ row, ofLine width line [] prompt = [row] ∧ row.startsLine = true := by
  have hpieces : Text.pieces [] = [] := Text.pieces_eq_nil_iff.2 rfl
  rw [ofLine, hpieces, Piece.wrap]
  exact ⟨_, rfl, rfl⟩

theorem length_ofLine_le : (ofLine width line text prompt).length ≤ max 1 text.pieces.length := by
  have h := congrArg List.length (map_text_ofLine width line text prompt)
  rw [List.length_map, List.length_map] at h
  rw [h]
  exact Piece.length_wrap_le _ _ _

variable {width line text prompt}

theorem cursor_ofLine {row : Row} (h : row ∈ ofLine width line text prompt) :
    row.cursor = none :=
  cursor_ofPieces h

/-- Only the row of an empty line has no text. -/
theorem text_ne_nil_of_mem_ofLine (htext : text ≠ []) {row : Row}
    (h : row ∈ ofLine width line text prompt) : row.text ≠ [] := by
  have hmem : row.text ∈ (ofLine width line text prompt).map Row.text := List.mem_map_of_mem h
  rw [map_text_ofLine] at hmem
  obtain ⟨pieces, hpieces, heq⟩ := List.mem_map.1 hmem
  have hne : text.pieces ≠ [] := fun hnil => htext (Text.pieces_eq_nil_iff.1 hnil)
  rw [← heq]
  refine Piece.textOf_ne_nil (Piece.ne_nil_of_mem_wrap hne hpieces) fun piece hpiece => ?_
  have hmem : piece ∈ text.pieces := by
    rw [← Piece.flatten_wrap (width - prompt.width) width text.pieces]
    exact List.mem_flatten.2 ⟨pieces, hpieces, hpiece⟩
  exact Text.text_ne_nil_of_mem_pieces hmem

end Line

/-! ## Placing the cursor -/

/-- Whether the row takes a cursor before byte `x` of its line: it has that byte, and there is a
cell for the cursor or at least text after it. -/
def Shows (row : Row) (width x : Nat) : Prop :=
  row.offset ≤ x ∧ x ≤ row.stop ∧ (row.cellAt (x - row.offset) < width ∨ x < row.stop)

/-- The row with a cursor before byte `x` of its line, in the last cell at most. -/
def withCursor (row : Row) (width x : Nat) : Row :=
  let offset := x - row.offset
  let cell := row.cellAt offset
  { row with cursor := some { cell := if cell < width then cell else width - 1, offset } }

@[simp] theorem withCursor_offset (row : Row) (width x : Nat) :
    (row.withCursor width x).offset = row.offset := rfl

@[simp] theorem withCursor_text (row : Row) (width x : Nat) :
    (row.withCursor width x).text = row.text := rfl

/-- The ways in which a cursor before byte `x` is placed on rows. -/
inductive Placed (width x : Nat) : List Row → List Row → Prop
  /-- The first row that takes the cursor gets it. -/
  | onRow {before : List Row} {row : Row} {after : List Row}
      (hbefore : ∀ r ∈ before, ¬ r.Shows width x) (hrow : row.Shows width x) :
      Placed width x (before ++ row :: after) (before ++ row.withCursor width x :: after)
  /-- No row takes it, and it stands after the text of the last one. -/
  | below {before : List Row} {last : Row}
      (hnone : ∀ r ∈ before ++ [last], ¬ r.Shows width x) (hoffset : last.offset ≤ x)
      (hx : x = last.stop) :
      Placed width x (before ++ [last]) (before ++ [last] ++ [overflow last.line last.stop])
  /-- It does not stand on the rows. -/
  | nowhere {rows : List Row} (hnone : ∀ r ∈ rows, ¬ r.Shows width x)
      (hlast : ∀ last, rows.getLast? = some last → ¬ (last.offset ≤ x ∧ x = last.stop)) :
      Placed width x rows rows

/-- A row that does not take the cursor may be put in front of others. -/
theorem Placed.cons {width x : Nat} {row : Row} {rows placed : List Row}
    (hrow : ¬ row.Shows width x) (hne : rows ≠ []) (h : Placed width x rows placed) :
    Placed width x (row :: rows) (row :: placed) := by
  cases h with
  | @onRow before found after hbefore hfound =>
    show Placed width x ((row :: before) ++ found :: after)
      ((row :: before) ++ found.withCursor width x :: after)
    exact .onRow (List.forall_mem_cons.2 ⟨hrow, hbefore⟩) hfound
  | @below before last hnone hoffset hx =>
    show Placed width x ((row :: before) ++ [last])
      ((row :: before) ++ [last] ++ [overflow last.line last.stop])
    exact .below (List.forall_mem_cons.2 ⟨hrow, hnone⟩) hoffset hx
  | nowhere hnone hlast =>
    refine .nowhere (List.forall_mem_cons.2 ⟨hrow, hnone⟩) fun last h => hlast last ?_
    obtain ⟨next, rest, rfl⟩ := List.exists_cons_of_ne_nil hne
    rwa [List.getLast?_cons_cons] at h

/-- `placeCursor` does nothing but the three things that `Placed` lists. -/
theorem placed_placeCursor (width x : Nat) (rows : List Row) :
    Placed width x rows (placeCursor width x rows) := by
  induction rows with
  | nil =>
    rw [placeCursor]
    exact .nowhere (fun r hr => absurd hr List.not_mem_nil) nofun
  | cons row rest ih =>
    rw [placeCursor]
    split
    · next hin =>
      simp only [Bool.and_eq_true, decide_eq_true_eq] at hin
      obtain ⟨hoffset, hstop⟩ := hin
      dsimp only
      split
      · next hcell =>
        have h : Placed width x ([] ++ row :: rest) ([] ++ row.withCursor width x :: rest) :=
          .onRow (fun r hr => absurd hr List.not_mem_nil) ⟨hoffset, hstop, .inl hcell⟩
        rw [withCursor, if_pos hcell] at h
        exact h
      · next hcell =>
        split
        · next hlt =>
          have h : Placed width x ([] ++ row :: rest) ([] ++ row.withCursor width x :: rest) :=
            .onRow (fun r hr => absurd hr List.not_mem_nil) ⟨hoffset, hstop, .inr hlt⟩
          rw [withCursor, if_neg hcell] at h
          exact h
        · next hlt =>
          have hnot : ¬ row.Shows width x := fun h => h.2.2.elim hcell hlt
          split
          · next hempty =>
            obtain rfl : rest = [] := by simpa using hempty
            show Placed width x ([] ++ [row]) ([] ++ [row] ++ [overflow row.line row.stop])
            refine .below ?_ hoffset (Nat.le_antisymm hstop (Nat.le_of_not_lt hlt))
            simpa using hnot
          · next hempty => exact ih.cons hnot (by simpa using hempty)
    · next hin =>
      have hin' : ¬ (row.offset ≤ x ∧ x ≤ row.stop) := by simpa using hin
      have hnot : ¬ row.Shows width x := fun h => hin' ⟨h.1, h.2.1⟩
      cases rest with
      | nil =>
        rw [placeCursor]
        refine .nowhere (by simpa using hnot) ?_
        rintro last hlast ⟨hoffset, hx⟩
        obtain rfl : row = last := by simpa using hlast
        exact hin' ⟨hoffset, hx.le⟩
      | cons next rest => exact ih.cons hnot (List.cons_ne_nil _ _)

/-! ### What placing the cursor keeps -/

theorem Placed.shown_eq {width x : Nat} {rows placed : List Row} (h : Placed width x rows placed) :
    shown placed = shown rows := by
  cases h <;> simp [overflow]

theorem Placed.chained {width x line offset : Nat} {rows placed : List Row}
    (h : Placed width x rows placed) (hrows : Chained line offset rows) :
    Chained line offset placed := by
  cases h with
  | onRow hbefore hrow =>
    rw [chained_append] at hrows ⊢
    exact hrows
  | below hnone hoffset hx =>
    refine chained_append.2 ⟨hrows, ?_⟩
    have hend := (chained_append.1 hrows).2
    refine ⟨hend.1, ?_, trivial⟩
    rw [shown_append, Text.size_append, shown_cons, shown_nil, List.append_nil, overflow, stop,
      hend.2.1, Nat.add_assoc]
  | nowhere hnone hlast => exact hrows

theorem Placed.length_le {width x : Nat} {rows placed : List Row}
    (h : Placed width x rows placed) : placed.length ≤ rows.length + 1 := by
  cases h with
  | onRow hbefore hrow => simp
  | below hnone hoffset hx => simp
  | nowhere hnone hlast => exact Nat.le_succ _

end LineEditor.Row
