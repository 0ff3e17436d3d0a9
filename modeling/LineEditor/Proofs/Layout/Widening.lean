import LineEditor.Proofs.Layout.Filling

/-!
# Rows on a wider screen

A line laid out on a wider screen has no more rows, although the cursor may get a row of its own there
that it does not have on the other screen.

* Rows of pieces.  `Filled.ahead` follows the rows on both screens from the first on: the ones on the
  wider screen never begin earlier, because a filled row takes all that a row with less room takes
  (`HasRoom.suffix`).  So they are no more, and if they are as many, the last one is full on the wider
  screen only if it is on the other one.
* The cursor.  `Overflows` says when placing it adds a row, and `ofLine_ahead` that this happens on the
  wider screen only if it happens on the other one, or a row has been saved.
* The result.  `length_layout_le_of_le`, of all rows of a layout.
-/

namespace LineEditor

namespace Piece

/-! ## Rows of pieces -/

/-- Whether the last of filled rows has no cell left after its pieces. -/
def EndsFull (width : Nat) : Nat → List (List Piece) → Prop
  | _, [] => False
  | room, [row] => room ≤ widthOf row
  | _, _ :: next :: rows => EndsFull width width (next :: rows)

theorem widthOf_le_of_suffix {left right : List Piece} (h : left <:+ right) :
    widthOf left ≤ widthOf right := by
  obtain ⟨before, rfl⟩ := h
  rw [widthOf_append]
  exact Nat.le_add_left _ _

/-- A row that begins no earlier and has no less room takes all that the other row takes. -/
theorem HasRoom.suffix {room room' : Nat} {row row' more more' : List Piece} {piece : Piece}
    (h : HasRoom room row) (hle : room ≤ room') (hrow' : row' ≠ [])
    (hfull : room' < widthOf row' + piece.width)
    (hsuffix : row' ++ piece :: more' <:+ row ++ more) : piece :: more' <:+ more := by
  have hmore' : piece :: more' <:+ row ++ more := (List.suffix_append row' _).trans hsuffix
  rcases List.suffix_or_suffix_of_suffix hmore' (List.suffix_append row more) with h' | h'
  · exact h'
  rcases List.suffix_cons_iff.1 h' with rfl | ⟨mid, rfl⟩
  · exact List.suffix_refl _
  -- otherwise the piece is in the row, behind all pieces of the other one
  exfalso
  obtain ⟨before, hbefore⟩ := hsuffix
  have hcancel : before ++ (row' ++ piece :: mid) ++ more = row ++ more := by
    rw [← hbefore, List.append_assoc, List.append_assoc, List.cons_append]
  have hrow := List.append_cancel_right hcancel
  rcases h with hwidth | ⟨single, hsingle⟩
  · rw [← hrow, widthOf_append, widthOf_append, widthOf] at hwidth
    omega
  · rw [← hrow] at hsingle
    have hlength := congrArg List.length hsingle
    have hpos := List.length_pos_iff.2 hrow'
    simp only [List.length_append, List.length_cons, List.length_nil] at hlength
    omega

/-- Rows that begin no earlier and have no less room are no more, and if they are as many, the last of
them is full only if the last of the others is. -/
theorem Filled.ahead {width width' room room' : Nat} {rows rows' : List (List Piece)}
    (h : Filled width room rows) (h' : Filled width' room' rows') (hwidth : width ≤ width')
    (hroom : room ≤ room') (hsuffix : rows'.flatten <:+ rows.flatten) :
    rows'.length < rows.length ∨
      rows'.length = rows.length ∧ (EndsFull width' room' rows' → EndsFull width room rows) := by
  induction h generalizing room' rows' with
  | @last room row hfits =>
    cases h' with
    | @last _ row' _ =>
      rw [List.flatten_singleton, List.flatten_singleton] at hsuffix
      exact .inr ⟨rfl, fun hfull => hroom.trans (hfull.trans (widthOf_le_of_suffix hsuffix))⟩
    | @more _ row' next' piece' rows' _ hrow' hfull' _ =>
      -- the first row already takes all pieces
      rw [List.flatten_singleton, List.flatten_cons, List.flatten_cons, ← List.append_nil row] at hsuffix
      have hnil := hfits.suffix hroom hrow' hfull' hsuffix
      exact absurd (List.suffix_nil.1 hnil) (List.cons_ne_nil _ _)
  | @more room row next piece rows hfits _ _ _ ih =>
    cases h' with
    | @last _ row' _ => exact .inl (by simp)
    | @more _ row' next' piece' rows' _ hrow' hfull' hrows' =>
      have hrest : ((piece' :: next') :: rows').flatten <:+ ((piece :: next) :: rows).flatten := by
        rw [List.flatten_cons, List.flatten_cons] at hsuffix
        exact hfits.suffix hroom hrow' hfull' hsuffix
      rcases ih hrows' hwidth hrest with hlt | ⟨heq, hends⟩
      · exact .inl (Nat.succ_lt_succ hlt)
      · exact .inr ⟨congrArg Nat.succ heq, hends⟩

end Piece

/-! ## The cursor -/

theorem Text.takeBytes_size (text : Text) : text.takeBytes text.size = text := by
  induction text with
  | nil => rfl
  | cons c text ih =>
    rw [Text.size_cons, Text.takeBytes, if_pos (Nat.le_add_right _ _), Nat.add_sub_cancel_left, ih]

namespace Row

/-- A row is full if its text takes all cells beside the prompt. -/
theorem Fits.isFull_iff {width : Nat} {row : Row} (h : row.Fits width) :
    row.IsFull width ↔ width - row.promptWidth ≤ row.width := by
  rw [IsFull, cellAt, Text.takeBytes_size, ← h.width_eq]
  omega

/-- The last row ends where the text that the rows show does. -/
theorem Chained.stop_getLast {line offset : Nat} {rows : List Row} {last : Row}
    (h : Chained line offset rows) (hlast : rows.getLast? = some last) :
    last.stop = offset + (shown rows).size := by
  obtain ⟨before, rfl⟩ := List.getLast?_eq_some_iff.1 hlast
  rw [stop, h.offset_eq, shown_append, Text.size_append, shown_cons, shown_nil, List.append_nil,
    Nat.add_assoc]

/-- The last row of pieces is full if its pieces take all cells that it has. -/
theorem isFull_ofPieces {width room line offset : Nat} {prompt : Option Prompt} {startsLine : Bool}
    {groups : List (List Piece)}
    (hroom : ∀ row : Row, row.prompt = prompt → width - row.promptWidth = room)
    (hfits : ∀ row ∈ ofPieces line offset prompt startsLine groups, row.Fits width) {last : Row}
    (hlast : (ofPieces line offset prompt startsLine groups).getLast? = some last) :
    last.IsFull width ↔ Piece.EndsFull width room groups := by
  induction groups generalizing room offset prompt startsLine with
  | nil => exact absurd hlast nofun
  | cons group groups ih =>
    rw [ofPieces, List.forall_mem_cons] at hfits
    rw [ofPieces] at hlast
    cases groups with
    | nil =>
      rw [ofPieces, List.getLast?_singleton] at hlast
      obtain rfl := Option.some.inj hlast
      rw [hfits.1.isFull_iff, hroom _ rfl]
      exact Iff.rfl
    | cons next groups =>
      have hnone : ∀ row : Row, row.prompt = none → width - row.promptWidth = width := by
        intro row hrow
        rw [promptWidth, hrow, Nat.sub_zero]
      rw [ofPieces, List.getLast?_cons_cons] at hlast
      exact ih hnone hfits.2 hlast

theorem isFull_getLast_ofLine {width line : Nat} {text : Text} {prompt : Prompt} {last : Row}
    (hlast : (ofLine width line text prompt).getLast? = some last) :
    last.IsFull width ↔ Piece.EndsFull width (width - prompt.width)
      (Piece.wrap (width - prompt.width) width text.pieces) := by
  refine isFull_ofPieces (fun row hrow => ?_) (fun row hrow => ?_) hlast
  · rw [promptWidth, hrow]
  · exact fits_of_mem_ofLine width line text prompt hrow

/-- The rows below a row in its line show text. -/
theorem text_ne_nil_of_mem_below {width line : Nat} {text : Text} {prompt : Prompt}
    {before after : List Row} {row r : Row}
    (h : ofLine width line text prompt = before ++ row :: after) (hr : r ∈ after) :
    r.text ≠ [] := by
  have htext : text ≠ [] := by
    rintro rfl
    obtain ⟨only, honly, -⟩ := ofLine_nil width line prompt
    have hlen := congrArg List.length (h.symm.trans honly)
    have hpos := List.length_pos_of_mem hr
    rw [List.length_append, List.length_cons, List.length_singleton] at hlen
    omega
  have hmem : r ∈ ofLine width line text prompt := by
    rw [h]
    exact List.mem_append_right _ (List.mem_cons_of_mem _ hr)
  exact text_ne_nil_of_mem_ofLine htext hmem

/-- The last row of a line ends where the line does. -/
theorem stop_getLast_ofLine {width line : Nat} {text : Text} {prompt : Prompt} {last : Row}
    (hlast : (ofLine width line text prompt).getLast? = some last) : last.stop = text.size := by
  rw [(ofLine_chained width line text prompt).stop_getLast hlast, shown_ofLine, Nat.zero_add]

/-- A row that reaches the end of its line is the last one. -/
theorem eq_nil_of_size_le_stop {width line : Nat} {text : Text} {prompt : Prompt}
    {before after : List Row} {row : Row}
    (h : ofLine width line text prompt = before ++ row :: after) (hstop : text.size ≤ row.stop) :
    after = [] := by
  cases after with
  | nil => rfl
  | cons next after =>
    -- otherwise the last row begins where the line ends, and shows nothing
    exfalso
    have hlast : (ofLine width line text prompt).getLast? =
        some ((next :: after).getLast (List.cons_ne_nil _ _)) := by
      rw [h, List.getLast?_append_cons, List.getLast?_cons_cons, List.getLast?_eq_some_getLast]
    have hmem := List.getLast_mem (List.cons_ne_nil next after)
    have hpos := Text.size_pos_iff.2 (text_ne_nil_of_mem_below h hmem)
    have hend := stop_getLast_ofLine hlast
    have hchained := ofLine_chained width line text prompt
    rw [h] at hchained
    have hle := hchained.stop_le_offset_of_mem_after hmem
    rw [stop] at hend
    omega

/-- Whether a cursor before byte `x` of a line has a row of its own below the rows of the line: it stands
at the end of the line, and the last row is full. -/
def Overflows (width x line : Nat) (text : Text) (prompt : Prompt) : Prop :=
  x = text.size ∧ ∃ last, (ofLine width line text prompt).getLast? = some last ∧ last.IsFull width

/-- Placing the cursor adds a row exactly if the cursor has one of its own. -/
theorem Placed.length_eq {width x line : Nat} {text : Text} {prompt : Prompt} {placed : List Row}
    (h : Placed width x (ofLine width line text prompt) placed) :
    Overflows width x line text prompt ∧
        placed.length = (ofLine width line text prompt).length + 1 ∨
      ¬ Overflows width x line text prompt ∧
        placed.length = (ofLine width line text prompt).length := by
  have hstop : ∀ last, (ofLine width line text prompt).getLast? = some last →
      last.stop = text.size := fun _ hlast => stop_getLast_ofLine hlast
  unfold Overflows
  generalize hrows : ofLine width line text prompt = rows at h hstop ⊢
  cases h with
  | @onRow before row after hbefore hrow =>
    refine .inr ⟨?_, by simp⟩
    rintro ⟨rfl, last, hlast, hfull⟩
    obtain rfl : after = [] := eq_nil_of_size_le_stop hrows hrow.2.1
    obtain rfl : row = last := by simpa using hlast
    exact (shows_stop_iff (hstop row hlast).symm).1 hrow hfull
  | @below before last hnone hoffset hx =>
    have hlast : (before ++ [last]).getLast? = some last := by simp
    refine .inl ⟨⟨hx.trans (hstop last hlast), last, hlast, ?_⟩, by simp⟩
    have hlast := hnone last (List.mem_append_right _ List.mem_cons_self)
    rw [shows_stop_iff hx] at hlast
    exact Classical.not_not.1 hlast
  | nowhere hnone hlast =>
    refine .inr ⟨?_, rfl⟩
    rintro ⟨rfl, last, h, -⟩
    refine hlast last h ⟨?_, (hstop last h).symm⟩
    rw [← hstop last h]
    exact Nat.le_add_right _ _

/-- On a wider screen a line has fewer rows, or as many and no cursor below them that is not below them
on the other screen, too. -/
theorem ofLine_ahead {width width' : Nat} (h : width ≤ width') (x line : Nat) (text : Text)
    (prompt : Prompt) :
    (ofLine width' line text prompt).length < (ofLine width line text prompt).length ∨
      (ofLine width' line text prompt).length = (ofLine width line text prompt).length ∧
        (Overflows width' x line text prompt → Overflows width x line text prompt) := by
  have hlength : ∀ width, (ofLine width line text prompt).length =
      (Piece.wrap (width - prompt.width) width text.pieces).length := by
    intro width
    have hmap := congrArg List.length (map_text_ofLine width line text prompt)
    rwa [List.length_map, List.length_map] at hmap
  have hsuffix : (Piece.wrap (width' - prompt.width) width' text.pieces).flatten <:+
      (Piece.wrap (width - prompt.width) width text.pieces).flatten :=
    ⟨[], by rw [Piece.flatten_wrap, Piece.flatten_wrap, List.nil_append]⟩
  have hahead := (Piece.filled_wrap (width - prompt.width) width text.pieces).ahead
    (Piece.filled_wrap (width' - prompt.width) width' text.pieces) h
    (Nat.sub_le_sub_right h prompt.width) hsuffix
  rw [← hlength, ← hlength] at hahead
  refine hahead.imp_right fun ⟨heq, hends⟩ => ⟨heq, fun ⟨hx, last, hlast, hfull⟩ => ⟨hx, ?_⟩⟩
  have hlast' := List.getLast?_eq_some_getLast (ofLine_ne_nil width line text prompt)
  refine ⟨_, hlast', (isFull_getLast_ofLine hlast').2 (hends ((isFull_getLast_ofLine hlast).1 hfull))⟩

end Row

/-! ## The result -/

section

variable {width width' : Nat} (h : width ≤ width') (cursor : Position) (prompts : Prompts)

include h

theorem length_lineRows_le_of_le (line : Nat) (text : Text) :
    (lineRows width' cursor prompts line text).length ≤
      (lineRows width cursor prompts line text).length := by
  have hahead := Row.ofLine_ahead h cursor.offset line text (prompts.forLine line)
  rcases lineRows_cases width cursor prompts line text with ⟨hne, hrows⟩ | ⟨hline, hplaced⟩
  · rw [hrows, lineRows, if_neg hne]
    omega
  · rcases lineRows_cases width' cursor prompts line text with ⟨hne, -⟩ | ⟨-, hplaced'⟩
    · exact absurd hline hne
    · -- a row for the cursor alone on the wider screen is paid for by a row saved, or there is one on
      -- the other screen, too
      have hle := hplaced.length_eq
      have hle' := hplaced'.length_eq
      rcases hahead with hlt | ⟨heq, hover⟩
      · omega
      · rcases hle with ⟨-, hlength⟩ | ⟨hnot, hlength⟩
        · omega
        · rcases hle' with ⟨hover', -⟩ | ⟨-, hlength'⟩
          · exact absurd (hover hover') hnot
          · omega

theorem length_layoutFrom_le_of_le (n : Nat) (lines : List Text) :
    (layoutFrom width' cursor prompts n lines).length ≤
      (layoutFrom width cursor prompts n lines).length := by
  induction lines generalizing n with
  | nil => exact Nat.le_refl _
  | cons text rest ih =>
    have hfirst := length_lineRows_le_of_le h cursor prompts n text
    have hrest := ih (n + 1)
    rw [layoutFrom_cons, layoutFrom_cons, List.length_append, List.length_append]
    omega

end

/-- On a wider screen a layout has no more rows, those that only show the cursor included. -/
theorem length_layout_le_of_le {width width' : Nat} (h : width ≤ width') (lines : List Text)
    (cursor : Position) (prompts : Prompts) :
    (layout lines cursor prompts width').length ≤ (layout lines cursor prompts width).length :=
  length_layoutFrom_le_of_le h cursor prompts 0 lines

/-- On the wider of two screens the text fills its first row, and the cursor gets a row of its own. -/
theorem length_layout_le_of_le_behind_full_row :
    let lines : List Text := ["abcdef".toList]
    let cursor : Position := { offset := 6, line := 0 }
    let prompts : Prompts :=
      { primary := { text := "> ".toList, width := 2 }
        continuation := { text := "....".toList, width := 4 } }
    7 ≤ 8 ∧ (layout lines cursor prompts 7).any Row.isOverflow = false ∧
      (layout lines cursor prompts 8).any Row.isOverflow = true ∧
      (layout lines cursor prompts 8).length ≤ (layout lines cursor prompts 7).length := by
  intro lines cursor prompts
  have hle : 7 ≤ 8 := by decide
  exact ⟨hle, by decide +kernel, by decide +kernel, length_layout_le_of_le hle lines cursor prompts⟩

end LineEditor
