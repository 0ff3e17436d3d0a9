import LineEditor.Proofs.Layout.Rows

/-!
# The layout covers the lines

The rows of a layout show every line, from its first byte to its last one, in order and once.

* Rows of one line.  `lineRows` are the rows that a layout has for one line, and `ShowsLine` is
  what they come to; `showsLine_lineRows` proves it with the cursor on the rows or not.
* Rows without text.  `eq_of_text_eq_nil` says which rows of a line have none, and
  `length_filter_isOverflow_lineRows` that at most one of them is below the text of its line.
* All lines.  `filter_layoutFrom` finds the rows of a line again in the layout, and
  `layout_covers` puts the facts together.
-/

namespace LineEditor

namespace Row

/-- Whether the rows show a line of the given number, text and prompt: they are rows of that line,
they show its text, each begins where the rows before it end, and the first of them, and only the
first, begins the line and has its prompt. -/
structure ShowsLine (line : Nat) (prompt : Prompt) (text : Text) (rows : List Row) : Prop where
  line_eq : ∀ row ∈ rows, row.line = line
  shown_eq : shown rows = text
  offset_eq : ∀ before row after, rows = before ++ row :: after →
    row.offset = (before.map fun r => r.text.size).sum
  begins : ∃ first rest, rows = first :: rest ∧
    first.startsLine = true ∧ first.prompt = some prompt ∧
    ∀ row ∈ rest, row.startsLine = false ∧ row.prompt = none

/-- Whether the row shows no text and does not begin a line. -/
def isOverflow (row : Row) : Bool :=
  row.text.isEmpty && !row.startsLine

theorem size_shown (rows : List Row) : (shown rows).size = (rows.map fun r => r.text.size).sum := by
  rw [shown, Text.size_flatten, List.map_map]
  rfl

theorem ShowsLine.of_chained {line : Nat} {prompt : Prompt} {rows : List Row}
    (hchained : Chained line 0 rows)
    (hbegins : ∃ first rest, rows = first :: rest ∧
      first.startsLine = true ∧ first.prompt = some prompt ∧
      ∀ row ∈ rest, row.startsLine = false ∧ row.prompt = none) :
    ShowsLine line prompt (shown rows) rows where
  line_eq _ hrow := hchained.line_eq hrow
  shown_eq := rfl
  offset_eq before row after h := by
    rw [h] at hchained
    rw [hchained.offset_eq, Nat.zero_add, size_shown]
  begins := hbegins

/-- Placing the cursor keeps the first row first. -/
theorem Placed.begins {width x : Nat} {prompt : Prompt} {rows placed : List Row}
    (h : Placed width x rows placed)
    (hrows : ∃ first rest, rows = first :: rest ∧
      first.startsLine = true ∧ first.prompt = some prompt ∧
      ∀ row ∈ rest, row.startsLine = false ∧ row.prompt = none) :
    ∃ first rest, placed = first :: rest ∧
      first.startsLine = true ∧ first.prompt = some prompt ∧
      ∀ row ∈ rest, row.startsLine = false ∧ row.prompt = none := by
  obtain ⟨first, rest, hrows, hstarts, hprompt, hrest⟩ := hrows
  cases h with
  | @onRow before row after hbefore hrow =>
    cases before with
    | nil =>
      obtain ⟨rfl, rfl⟩ := List.cons.inj hrows
      exact ⟨_, _, rfl, hstarts, hprompt, hrest⟩
    | cons head before =>
      obtain ⟨rfl, rfl⟩ := List.cons.inj hrows
      refine ⟨_, _, rfl, hstarts, hprompt, fun r hr => ?_⟩
      rcases List.mem_append.1 hr with hr | hr
      · exact hrest r (List.mem_append_left _ hr)
      · rcases List.mem_cons.1 hr with rfl | hr
        · exact hrest row (List.mem_append_right _ List.mem_cons_self)
        · exact hrest r (List.mem_append_right _ (List.mem_cons_of_mem _ hr))
  | @below before last hnone hoffset hx =>
    refine ⟨first, rest ++ [overflow last.line last.stop], by rw [hrows]; rfl, hstarts, hprompt,
      fun r hr => ?_⟩
    rcases List.mem_append.1 hr with hr | hr
    · exact hrest r hr
    · obtain rfl := List.mem_singleton.1 hr
      exact ⟨rfl, rfl⟩
  | nowhere hnone hlast => exact ⟨first, rest, hrows, hstarts, hprompt, hrest⟩

end Row

/-! ## Rows of one line -/

/-- The rows that a layout has for one line. -/
def lineRows (width : Nat) (cursor : Position) (prompts : Prompts) (line : Nat) (text : Text) :
    List Row :=
  let rows := Row.ofLine width line text (prompts.forLine line)
  if line = cursor.line then Row.placeCursor width cursor.offset rows else rows

section Line

variable (width : Nat) (cursor : Position) (prompts : Prompts) (line : Nat) (text : Text)

/-- The rows of a line are those without the cursor, or the cursor is placed on those. -/
theorem lineRows_cases :
    (line ≠ cursor.line ∧ lineRows width cursor prompts line text =
        Row.ofLine width line text (prompts.forLine line)) ∨
      (line = cursor.line ∧ Row.Placed width cursor.offset
        (Row.ofLine width line text (prompts.forLine line))
        (lineRows width cursor prompts line text)) := by
  by_cases h : line = cursor.line
  · right
    refine ⟨h, ?_⟩
    rw [lineRows, if_pos h]
    exact Row.placed_placeCursor _ _ _
  · left
    refine ⟨h, ?_⟩
    rw [lineRows, if_neg h]

theorem showsLine_lineRows :
    Row.ShowsLine line (prompts.forLine line) text (lineRows width cursor prompts line text) := by
  have hchained := Row.ofLine_chained width line text (prompts.forLine line)
  have hshown := Row.shown_ofLine width line text (prompts.forLine line)
  have hbegins := Row.exists_ofLine_eq_cons width line text (prompts.forLine line)
  rcases lineRows_cases width cursor prompts line text with ⟨-, h⟩ | ⟨-, h⟩
  · have hshows := Row.ShowsLine.of_chained hchained hbegins
    rwa [hshown, ← h] at hshows
  · have hshows := Row.ShowsLine.of_chained (h.chained hchained) (h.begins hbegins)
    rwa [h.shown_eq, hshown] at hshows

theorem lineRows_ne_nil : lineRows width cursor prompts line text ≠ [] := by
  obtain ⟨first, rest, h, -⟩ := (showsLine_lineRows width cursor prompts line text).begins
  rw [h]
  exact List.cons_ne_nil _ _

theorem length_lineRows_le : (lineRows width cursor prompts line text).length ≤
    max 1 text.pieces.length + if line = cursor.line then 1 else 0 := by
  have hlen := Row.length_ofLine_le width line text (prompts.forLine line)
  rcases lineRows_cases width cursor prompts line text with ⟨hne, h⟩ | ⟨heq, h⟩
  · rw [h, if_neg hne]
    exact hlen
  · rw [if_pos heq]
    exact h.length_le.trans (Nat.succ_le_succ hlen)

/-! ## Rows without text -/

variable {width cursor prompts line text}

theorem text_ne_nil_or_startsLine {row : Row}
    (h : row ∈ Row.ofLine width line text (prompts.forLine line)) :
    row.text ≠ [] ∨ (row.startsLine = true ∧ text = []) := by
  by_cases htext : text = []
  · subst htext
    obtain ⟨first, hrows, hstarts⟩ := Row.ofLine_nil width line (prompts.forLine line)
    rw [hrows, List.mem_singleton] at h
    exact .inr ⟨h ▸ hstarts, rfl⟩
  · exact .inl (Row.text_ne_nil_of_mem_ofLine htext h)

/-- A row without text is the row of an empty line, or it is below the text of the cursor's line
and shows nothing but the cursor. -/
theorem eq_of_text_eq_nil {row : Row} (h : row ∈ lineRows width cursor prompts line text)
    (hrow : row.text = []) :
    (row.startsLine = true ∧ text = []) ∨
      (line = cursor.line ∧ row = Row.overflow line text.size) := by
  have hshown := Row.shown_ofLine width line text (prompts.forLine line)
  have hchained := Row.ofLine_chained width line text (prompts.forLine line)
  have hold : ∀ r ∈ Row.ofLine width line text (prompts.forLine line), r.text = [] →
      r.startsLine = true ∧ text = [] := fun r hr hnil =>
    (text_ne_nil_or_startsLine hr).resolve_left (fun hne => hne hnil)
  rcases lineRows_cases width cursor prompts line text with ⟨-, hrows⟩ | ⟨hline, hplaced⟩
  · rw [hrows] at h
    exact .inl (hold row h hrow)
  · generalize Row.ofLine width line text (prompts.forLine line) = rows at *
    generalize lineRows width cursor prompts line text = placed at *
    cases hplaced with
    | @onRow before taker after hbefore htaker =>
      left
      rcases List.mem_append.1 h with h | h
      · exact hold row (List.mem_append_left _ h) hrow
      · rcases List.mem_cons.1 h with rfl | h
        · exact hold taker (List.mem_append_right _ List.mem_cons_self) hrow
        · exact hold row (List.mem_append_right _ (List.mem_cons_of_mem _ h)) hrow
    | @below before last hnone hoffset hx =>
      rcases List.mem_append.1 h with h | h
      · exact .inl (hold row h hrow)
      · right
        have hend := (Row.chained_append.1 hchained).2
        have hstop : last.stop = text.size := by
          rw [← hshown, Row.stop, hend.2.1]
          simp
        rw [List.mem_singleton.1 h, hend.1, hstop]
        exact ⟨hline, rfl⟩
    | nowhere hnone hlast => exact .inl (hold row h hrow)

variable (width cursor prompts line text)

theorem filter_isOverflow_ofLine :
    (Row.ofLine width line text (prompts.forLine line)).filter Row.isOverflow = [] := by
  rw [List.filter_eq_nil_iff]
  intro row hrow
  rcases text_ne_nil_or_startsLine hrow with h | ⟨h, -⟩ <;> simp [Row.isOverflow, h]

theorem length_filter_isOverflow_lineRows :
    ((lineRows width cursor prompts line text).filter Row.isOverflow).length ≤
      if line = cursor.line then 1 else 0 := by
  have hnone := filter_isOverflow_ofLine width prompts line text
  rcases lineRows_cases width cursor prompts line text with ⟨hne, hrows⟩ | ⟨heq, hplaced⟩
  · rw [hrows, hnone, if_neg hne, List.length_nil]
  · rw [if_pos heq]
    generalize Row.ofLine width line text (prompts.forLine line) = rows at *
    generalize lineRows width cursor prompts line text = placed at *
    cases hplaced with
    | @onRow before taker after hbefore htaker =>
      have hsame : (taker.withCursor width cursor.offset).isOverflow = taker.isOverflow := rfl
      have heq : (before ++ taker.withCursor width cursor.offset :: after).filter Row.isOverflow =
          [] := by
        rw [List.filter_eq_nil_iff] at hnone ⊢
        intro r hr
        rcases List.mem_append.1 hr with hr | hr
        · exact hnone r (List.mem_append_left _ hr)
        · rcases List.mem_cons.1 hr with rfl | hr
          · rw [hsame]
            exact hnone taker (List.mem_append_right _ List.mem_cons_self)
          · exact hnone r (List.mem_append_right _ (List.mem_cons_of_mem _ hr))
      rw [heq]
      exact Nat.zero_le _
    | below hshows hoffset hx =>
      rw [List.filter_append, hnone, List.nil_append]
      exact List.length_filter_le _ _
    | nowhere hshows hlast =>
      rw [hnone]
      exact Nat.zero_le _

end Line

/-! ## All lines -/

section Layout

variable (width : Nat) (cursor : Position) (prompts : Prompts)

theorem layoutFrom_cons (n : Nat) (text : Text) (rest : List Text) :
    layoutFrom width cursor prompts n (text :: rest) =
      lineRows width cursor prompts n text ++ layoutFrom width cursor prompts (n + 1) rest := rfl

/-- A row belongs to one of the lines laid out. -/
theorem exists_of_mem_layoutFrom {n : Nat} {lines : List Text} {row : Row}
    (h : row ∈ layoutFrom width cursor prompts n lines) :
    ∃ k text, lines[k]? = some text ∧ row ∈ lineRows width cursor prompts (n + k) text := by
  induction lines generalizing n with
  | nil => exact absurd h List.not_mem_nil
  | cons text rest ih =>
    rw [layoutFrom_cons] at h
    rcases List.mem_append.1 h with h | h
    · exact ⟨0, text, rfl, h⟩
    · obtain ⟨k, found, hk, hrow⟩ := ih h
      refine ⟨k + 1, found, by rwa [List.getElem?_cons_succ], ?_⟩
      rwa [Nat.add_assoc, Nat.add_comm 1 k] at hrow

theorem line_of_mem_lineRows {line : Nat} {text : Text} {row : Row}
    (h : row ∈ lineRows width cursor prompts line text) : row.line = line :=
  (showsLine_lineRows width cursor prompts line text).line_eq row h

theorem le_line_of_mem_layoutFrom {n : Nat} {lines : List Text} {row : Row}
    (h : row ∈ layoutFrom width cursor prompts n lines) : n ≤ row.line := by
  obtain ⟨k, text, -, hrow⟩ := exists_of_mem_layoutFrom width cursor prompts h
  rw [line_of_mem_lineRows width cursor prompts hrow]
  exact Nat.le_add_right n k

theorem pairwise_line_layoutFrom (n : Nat) (lines : List Text) :
    (layoutFrom width cursor prompts n lines).Pairwise fun r s => r.line ≤ s.line := by
  induction lines generalizing n with
  | nil => exact List.Pairwise.nil
  | cons text rest ih =>
    rw [layoutFrom_cons, List.pairwise_append]
    refine ⟨?_, ih (n + 1), fun r hr s hs => ?_⟩
    · refine List.Pairwise.imp_of_mem (R := fun _ _ => True) (fun hr hs _ => ?_)
        (List.pairwise_iff_forall_sublist.2 fun _ => trivial)
      rw [line_of_mem_lineRows width cursor prompts hr,
        line_of_mem_lineRows width cursor prompts hs]
    · have hle := le_line_of_mem_layoutFrom width cursor prompts hs
      rw [line_of_mem_lineRows width cursor prompts hr]
      omega

/-- The rows of a line in the layout of all lines. -/
theorem filter_layoutFrom {n k : Nat} {lines : List Text} {text : Text}
    (h : lines[k]? = some text) :
    (layoutFrom width cursor prompts n lines).filter (fun row => row.line = n + k) =
      lineRows width cursor prompts (n + k) text := by
  induction lines generalizing n k with
  | nil => simp at h
  | cons first rest ih =>
    rw [layoutFrom_cons, List.filter_append]
    cases k with
    | zero =>
      obtain rfl : first = text := by simpa using h
      have hfirst : (lineRows width cursor prompts n first).filter (fun row => row.line = n + 0) =
          lineRows width cursor prompts n first := by
        rw [List.filter_eq_self]
        intro row hrow
        simpa using line_of_mem_lineRows width cursor prompts hrow
      have hrest : (layoutFrom width cursor prompts (n + 1) rest).filter
          (fun row => row.line = n + 0) = [] := by
        rw [List.filter_eq_nil_iff]
        intro row hrow
        have hle := le_line_of_mem_layoutFrom width cursor prompts hrow
        rw [decide_eq_true_iff]
        omega
      rw [hfirst, hrest, List.append_nil, Nat.add_zero]
    | succ k =>
      have hfirst : (lineRows width cursor prompts n first).filter
          (fun row => row.line = n + (k + 1)) = [] := by
        rw [List.filter_eq_nil_iff]
        intro row hrow
        rw [line_of_mem_lineRows width cursor prompts hrow, decide_eq_true_iff]
        omega
      have hrest := ih (n := n + 1) (k := k) (by rwa [List.getElem?_cons_succ] at h)
      rw [Nat.add_assoc, Nat.add_comm 1 k] at hrest
      rw [hfirst, hrest, List.nil_append]

/-- The rows of a line stand together, between the rows of other lines. -/
theorem exists_layoutFrom_eq_append {n k : Nat} {lines : List Text} {text : Text}
    (h : lines[k]? = some text) :
    ∃ before after, layoutFrom width cursor prompts n lines =
        before ++ lineRows width cursor prompts (n + k) text ++ after ∧
      (∀ row ∈ before, row.line ≠ n + k) ∧ ∀ row ∈ after, row.line ≠ n + k := by
  induction lines generalizing n k with
  | nil => simp at h
  | cons first rest ih =>
    rw [layoutFrom_cons]
    cases k with
    | zero =>
      obtain rfl : first = text := by simpa using h
      refine ⟨[], _, rfl, fun row hrow => absurd hrow List.not_mem_nil, fun row hrow => ?_⟩
      have hle := le_line_of_mem_layoutFrom width cursor prompts hrow
      omega
    | succ k =>
      obtain ⟨before, after, heq, hbefore, hafter⟩ :=
        ih (n := n + 1) (k := k) (by rwa [List.getElem?_cons_succ] at h)
      rw [Nat.add_assoc, Nat.add_comm 1 k] at heq hbefore hafter
      refine ⟨lineRows width cursor prompts n first ++ before, after, ?_, fun row hrow => ?_,
        hafter⟩
      · rw [heq, List.append_assoc, List.append_assoc, List.append_assoc]
      · rcases List.mem_append.1 hrow with hrow | hrow
        · rw [line_of_mem_lineRows width cursor prompts hrow]
          omega
        · exact hbefore row hrow

theorem length_filter_isOverflow_layoutFrom (n : Nat) (lines : List Text) :
    ((layoutFrom width cursor prompts n lines).filter Row.isOverflow).length ≤
      if n ≤ cursor.line then 1 else 0 := by
  induction lines generalizing n with
  | nil => exact Nat.zero_le _
  | cons text rest ih =>
    have hfirst := length_filter_isOverflow_lineRows width cursor prompts n text
    have hrest := ih (n + 1)
    rw [layoutFrom_cons, List.filter_append, List.length_append]
    split at hfirst <;> split at hrest <;> split <;> omega

theorem length_layoutFrom_le (n : Nat) (lines : List Text) :
    (layoutFrom width cursor prompts n lines).length ≤
      (lines.map fun text => max 1 text.pieces.length).sum + if n ≤ cursor.line then 1 else 0 := by
  induction lines generalizing n with
  | nil => exact Nat.zero_le _
  | cons text rest ih =>
    have hfirst := length_lineRows_le width cursor prompts n text
    have hrest := ih (n + 1)
    rw [layoutFrom_cons, List.length_append, List.map_cons, List.sum_cons]
    split at hfirst <;> split at hrest <;> split <;> omega

end Layout

/-- The text of a row is a part of its line, from the byte at which the row begins. -/
theorem exists_slice_of_mem_layout {lines : List Text} {cursor : Position} {prompts : Prompts}
    {width : Nat} {row : Row} (h : row ∈ layout lines cursor prompts width) :
    ∃ text left right, lines[row.line]? = some text ∧
      row ∈ lineRows width cursor prompts row.line text ∧
      text = left ++ (row.text ++ right) ∧ left.size = row.offset := by
  obtain ⟨k, text, hk, hrow⟩ := exists_of_mem_layoutFrom width cursor prompts h
  rw [Nat.zero_add] at hrow
  obtain rfl := line_of_mem_lineRows width cursor prompts hrow
  have hshows := showsLine_lineRows width cursor prompts row.line text
  obtain ⟨before, after, hrows⟩ := List.append_of_mem hrow
  refine ⟨text, Row.shown before, Row.shown after, hk, hrow, ?_, ?_⟩
  · rw [← hshows.shown_eq, hrows, Row.shown_append, Row.shown_cons]
  · rw [Row.size_shown, hshows.offset_eq before row after hrows]

/-- The layout of lines loses nothing and repeats nothing, whatever the width and wherever the
cursor: its rows are in the order of the lines, every line has some, and they show it; a row
without text is the only row of an empty line, or it is the one row below the text of the cursor's
line; and there are no more rows than pieces of text to show, apart from those. -/
theorem layout_covers (lines : List Text) (cursor : Position) (prompts : Prompts) (width : Nat) :
    let rows := layout lines cursor prompts width
    rows.Pairwise (fun r s => r.line ≤ s.line) ∧
      (∀ y, (∃ row ∈ rows, row.line = y) ↔ y < lines.length) ∧
      (∀ y text, lines[y]? = some text →
        Row.ShowsLine y (prompts.forLine y) text (rows.filter fun row => row.line = y)) ∧
      (∀ row ∈ rows, row.text = [] →
        (row.startsLine = true ∧ lines[row.line]? = some []) ∨
          ∃ text, lines[cursor.line]? = some text ∧ row = Row.overflow cursor.line text.size) ∧
      (rows.filter Row.isOverflow).length ≤ 1 ∧
      rows.length ≤ (lines.map fun text => max 1 text.pieces.length).sum + 1 := by
  intro rows
  have hlines : ∀ row ∈ rows, ∃ text, lines[row.line]? = some text ∧
      row ∈ lineRows width cursor prompts row.line text := by
    intro row hrow
    obtain ⟨k, text, hk, hmem⟩ := exists_of_mem_layoutFrom width cursor prompts hrow
    rw [Nat.zero_add] at hmem
    obtain rfl := line_of_mem_lineRows width cursor prompts hmem
    exact ⟨text, hk, hmem⟩
  have hfilter : ∀ y text, lines[y]? = some text →
      rows.filter (fun row => row.line = y) = lineRows width cursor prompts y text := by
    intro y text h
    have hrows := filter_layoutFrom width cursor prompts (n := 0) h
    rwa [Nat.zero_add] at hrows
  refine ⟨pairwise_line_layoutFrom width cursor prompts 0 lines, fun y => ?_,
    fun y text h => ?_, fun row hrow hnil => ?_, ?_, ?_⟩
  · constructor
    · rintro ⟨row, hrow, rfl⟩
      obtain ⟨text, h, -⟩ := hlines row hrow
      exact (List.getElem?_eq_some_iff.1 h).1
    · intro hy
      have hne := lineRows_ne_nil width cursor prompts y lines[y]
      rw [← hfilter y lines[y] (List.getElem?_eq_getElem hy)] at hne
      obtain ⟨row, hrow⟩ := List.exists_mem_of_ne_nil _ hne
      obtain ⟨hmem, hline⟩ := List.mem_filter.1 hrow
      exact ⟨row, hmem, by simpa using hline⟩
  · rw [hfilter y text h]
    exact showsLine_lineRows width cursor prompts y text
  · obtain ⟨text, h, hmem⟩ := hlines row hrow
    rcases eq_of_text_eq_nil hmem hnil with ⟨hstarts, rfl⟩ | ⟨hline, heq⟩
    · exact .inl ⟨hstarts, h⟩
    · exact .inr ⟨text, hline ▸ h, hline ▸ heq⟩
  · exact (length_filter_isOverflow_layoutFrom width cursor prompts 0 lines).trans
      (by split <;> omega)
  · exact (length_layoutFrom_le width cursor prompts 0 lines).trans (by split <;> omega)

end LineEditor
