import LineEditor.Proofs.Layout.Vertical
import LineEditor.Proofs.Truncation
import Mathlib.Data.List.Chain

/-!
# Filled rows

Rows are filled one after the other, each with as much of the line as it has room for.

* Filled rows of pieces.  `Filled` follows the rows that `Piece.wrap` makes: each has room for its
  pieces, and none for the first piece of the next one.  `IsLeft` says what is left of a row under way,
  and `filled_wrap` carries it along the pieces of the line.
* What is put into a row.  `rowPart` is the longest part of a text that a row has room for, or the first
  cluster; `rowPart_eq` says that a filled row of pieces is that part of the text from there on, measured
  anew.
* Filled rows of a line.  `IsFilled` compares a row with the text after it, and `isFilled_ofPieces`
  reads it off `Filled`; `Fits` and `BreaksFor` are what follows for a row and for two rows in a row.
* The cursor.  `Placed.filled` says that placing it moves no text.
* The result.  `layout_fills_rows` is about all rows of a layout.
-/

namespace LineEditor

namespace Piece

theorem widthOf_flatten (groups : List (List Piece)) :
    widthOf groups.flatten = (groups.map widthOf).sum := by
  induction groups with
  | nil => rfl
  | cons group groups ih => rw [List.flatten_cons, widthOf_append, ih, List.map_cons, List.sum_cons]

/-! ## Filled rows of pieces -/

/-- Whether the pieces have room in a row of `room` cells.  One piece is put into a row of its own even
if it has not. -/
def HasRoom (room : Nat) (row : List Piece) : Prop :=
  widthOf row ≤ room ∨ ∃ piece, row = [piece]

/-- Whether rows are filled as far as they go: the first one has `room` cells and the others `width`,
and each one but the last has no room for the first piece of the next one. -/
inductive Filled (width : Nat) : Nat → List (List Piece) → Prop
  | last {room : Nat} {row : List Piece} (hroom : HasRoom room row) : Filled width room [row]
  | more {room : Nat} {row next : List Piece} {piece : Piece} {rows : List (List Piece)}
      (hroom : HasRoom room row) (hrow : row ≠ []) (hfull : room < widthOf row + piece.width)
      (hrows : Filled width width ((piece :: next) :: rows)) :
      Filled width room (row :: (piece :: next) :: rows)

/-- What is left of `room` cells after a row: nothing after a single piece that is too wide. -/
def IsLeft (room : Nat) (row : List Piece) : Option Nat → Prop
  | some left => widthOf row + left = room
  | none => room < widthOf row ∧ ∃ piece, row = [piece]

section

variable {room : Nat} {row : List Piece} {left : Option Nat}

theorem IsLeft.hasRoom (h : IsLeft room row left) : HasRoom room row := by
  cases left with
  | some left =>
    have heq : widthOf row + left = room := h
    exact .inl (by omega)
  | none => exact .inr h.2

theorem isLeft_roomAfter (piece : Piece) (room : Nat) :
    IsLeft room [piece] (piece.roomAfter room) := by
  unfold roomAfter
  split
  · show piece.width + 0 + (room - piece.width) = room
    omega
  · exact ⟨by show room < piece.width + 0; omega, piece, rfl⟩

theorem IsLeft.concat (h : IsLeft room row left) {piece : Piece} {left' : Nat}
    (hleft : left.bind piece.roomAfter = some left') :
    IsLeft room (row ++ [piece]) (some left') := by
  obtain ⟨cells, rfl, hcells⟩ := Option.bind_eq_some_iff.1 hleft
  have heq : widthOf row + cells = room := h
  rw [roomAfter, Option.ite_none_right_eq_some, Option.some.injEq] at hcells
  show widthOf (row ++ [piece]) + left' = room
  rw [widthOf_append, widthOf, widthOf]
  omega

theorem IsLeft.lt (h : IsLeft room row left) {piece : Piece}
    (hleft : left.bind piece.roomAfter = none) : room < widthOf row + piece.width := by
  cases left with
  | some cells =>
    have heq : widthOf row + cells = room := h
    rw [Option.bind_some, roomAfter, ite_eq_right_iff] at hleft
    by_contra hle
    exact absurd (hleft (by omega)) nofun
  | none =>
    have hlt := h.1
    omega

end

theorem exists_wrapFrom_eq_cons (width : Nat) (room : Option Nat) (current pieces : List Piece) :
    ∃ more rows, wrapFrom width room current pieces = (current.reverse ++ more) :: rows := by
  induction pieces generalizing room current with
  | nil => exact ⟨[], [], by rw [wrapFrom, List.append_nil]⟩
  | cons piece pieces ih =>
    rw [wrapFrom]
    split
    · next left hleft =>
      obtain ⟨more, rows, heq⟩ := ih (some left) (piece :: current)
      refine ⟨piece :: more, rows, ?_⟩
      rw [heq, List.reverse_cons, List.append_assoc, List.singleton_append]
    · exact ⟨[], _, by rw [List.append_nil]⟩

theorem filled_wrapFrom {width room : Nat} {left : Option Nat} {current : List Piece}
    (hleft : IsLeft room current.reverse left) (hcurrent : current ≠ []) (pieces : List Piece) :
    Filled width room (wrapFrom width left current pieces) := by
  induction pieces generalizing room left current with
  | nil => exact .last hleft.hasRoom
  | cons piece pieces ih =>
    rw [wrapFrom]
    split
    · next left' hfits =>
      refine ih ?_ (List.cons_ne_nil piece current)
      rw [List.reverse_cons]
      exact hleft.concat hfits
    · next hfits =>
      have hrows : Filled width width (wrapFrom width (piece.roomAfter width) [piece] pieces) :=
        ih (isLeft_roomAfter piece width) (List.cons_ne_nil piece [])
      obtain ⟨next, rows, heq⟩ := exists_wrapFrom_eq_cons width (piece.roomAfter width) [piece] pieces
      rw [heq] at hrows ⊢
      exact .more hleft.hasRoom (by simpa using hcurrent) (hleft.lt hfits) hrows

/-- Rows are filled as far as they go. -/
theorem filled_wrap (first width : Nat) (pieces : List Piece) :
    Filled width first (wrap first width pieces) := by
  cases pieces with
  | nil => exact .last (.inl (Nat.zero_le first))
  | cons piece pieces =>
    exact filled_wrapFrom (isLeft_roomAfter piece first) (List.cons_ne_nil piece []) pieces

end Piece

/-! ## What is put into a row -/

namespace Text

/-- The leading part of a text that is put into a row of `room` cells: the longest that fits, or the
first cluster if none does. -/
def rowPart (text : Text) (room : Nat) : Text :=
  let part := (text.truncate room).1
  if part.isEmpty then text.clusters.headD [] else part

/-- Pieces that fill a row are what is put into the row of the text that begins with them. -/
theorem rowPart_eq {text : Text} {room : Nat} {row more : List Piece}
    (hpieces : text.pieces = row ++ more) (hrow : row ≠ []) (hroom : Piece.HasRoom room row)
    (hfull : ∀ piece ∈ more.head?, room < Piece.widthOf row + piece.width) :
    text.rowPart room = Piece.textOf row := by
  unfold rowPart truncate
  dsimp only
  by_cases hle : Piece.widthOf row ≤ room
  · have hne : Piece.textOf row ≠ [] := by
      refine Piece.textOf_ne_nil hrow fun piece hpiece => ?_
      refine text_ne_nil_of_mem_pieces (?_ : piece ∈ text.pieces)
      rw [hpieces]
      exact List.mem_append_left _ hpiece
    rw [hpieces, Piece.fit_append_of_full hle hfull]
    exact if_neg (by simpa using hne)
  · -- nothing fits, and the row is a single cluster
    obtain ⟨piece, rfl⟩ := hroom.resolve_left hle
    have hlt : room < piece.width := Nat.lt_of_not_le hle
    obtain ⟨cluster, rfl⟩ := Piece.exists_eq_cluster (Nat.zero_lt_of_lt hlt)
    obtain ⟨first, rest, hclusters, -, hfirst⟩ := exists_clusters_eq_cons hpieces
    rw [hpieces, List.singleton_append, Piece.fit, if_neg (Nat.not_le.2 hlt), hclusters,
      hfirst cluster rfl]
    exact (List.append_nil cluster).symm

end Text

/-! ## Filled rows of a line -/

namespace Row

/-- Whether a row with `rest` of its line after it is filled as far as it goes. -/
structure IsFilled (width : Nat) (row : Row) (rest : Text) : Prop where
  width_eq : row.width = row.text.visibleWidth
  hasRoom : Piece.HasRoom (width - row.promptWidth) row.text.pieces
  pieces_eq : (row.text ++ rest).pieces = row.text.pieces ++ rest.pieces
  full : ∀ piece ∈ rest.pieces.head?, width - row.promptWidth < row.width + piece.width

/-- Whether the width of a row is that of its text, and the text has room beside the prompt or is a
single cluster. -/
structure Fits (width : Nat) (row : Row) : Prop where
  width_eq : row.width = row.text.visibleWidth
  room : row.width ≤ width - row.promptWidth ∨ row.text.clusters = [row.text]

/-- Whether the next row of the line begins with a cluster for which the row has no room, if both show
text. -/
def BreaksFor (width : Nat) (row next : Row) : Prop :=
  row.line = next.line → row.text ≠ [] → next.text ≠ [] →
    ∃ cluster, next.text.clusters.head? = some cluster ∧
      width - row.promptWidth < row.width + clusterWidth cluster

section IsFilled

variable {width : Nat} {row : Row} {rest : Text}

theorem IsFilled.fits (h : row.IsFilled width rest) : row.Fits width := by
  refine ⟨h.width_eq, ?_⟩
  have hwidth : row.width = Piece.widthOf row.text.pieces := h.width_eq
  rcases h.hasRoom with hle | ⟨piece, hpieces⟩
  · exact .inl (hwidth.trans_le hle)
  · by_cases hle : row.width ≤ width - row.promptWidth
    · exact .inl hle
    · rw [hpieces, Piece.widthOf, Piece.widthOf, Nat.add_zero] at hwidth
      have hpos : 0 < piece.width := by omega
      obtain ⟨cluster, rfl⟩ := Piece.exists_eq_cluster hpos
      exact .inr (Text.clusters_eq_singleton hpieces)

theorem IsFilled.breaksFor {next : Row} (h : row.IsFilled width (next.text ++ rest))
    (hnext : (next.text ++ rest).pieces = next.text.pieces ++ rest.pieces) :
    row.BreaksFor width next := by
  intro _ _ hne
  obtain ⟨piece, more, hpieces⟩ := List.exists_cons_of_ne_nil fun hnil =>
    hne (Text.pieces_eq_nil_iff.1 hnil)
  obtain ⟨cluster, others, hclusters, hwidth, -⟩ := Text.exists_clusters_eq_cons hpieces
  refine ⟨cluster, by rw [hclusters]; rfl, ?_⟩
  rw [hwidth]
  refine h.full piece ?_
  rw [hnext, hpieces]
  rfl

/-- A filled row shows what is put into it of the line from there on. -/
theorem IsFilled.text_eq_rowPart (h : row.IsFilled width rest) (htext : row.text ≠ []) :
    row.text = (row.text ++ rest).rowPart (width - row.promptWidth) := by
  have hne : row.text.pieces ≠ [] := fun hnil => htext (Text.pieces_eq_nil_iff.1 hnil)
  have hfull := h.full
  rw [h.width_eq] at hfull
  rw [Text.rowPart_eq h.pieces_eq hne h.hasRoom hfull, Text.textOf_pieces]

end IsFilled

theorem shown_ofPieces (line offset : Nat) (prompt : Option Prompt) (startsLine : Bool)
    (groups : List (List Piece)) :
    shown (ofPieces line offset prompt startsLine groups) = Piece.textOf groups.flatten := by
  rw [shown, map_text_ofPieces, Piece.textOf_flatten]

/-- A row is filled if its pieces and the ones after it stand together in a text, and they fill it. -/
theorem IsFilled.of_group {width : Nat} {row : Row} {whole : Text} {group more : List Piece}
    (hwhole : group ++ more <:+: whole.pieces) (htext : row.text = Piece.textOf group)
    (hwidth : row.width = Piece.widthOf group)
    (hroom : Piece.HasRoom (width - row.promptWidth) group)
    (hfull : ∀ piece ∈ more.head?, width - row.promptWidth < Piece.widthOf group + piece.width) :
    row.IsFilled width (Piece.textOf more) := by
  have hgroup : row.text.pieces = group := by
    rw [htext]
    exact Text.pieces_textOf_infix ((List.prefix_append _ _).isInfix.trans hwhole)
  have hmore : (Piece.textOf more).pieces = more :=
    Text.pieces_textOf_infix ((List.suffix_append _ _).isInfix.trans hwhole)
  refine ⟨by rw [hwidth, Text.visibleWidth, hgroup], by rwa [hgroup], ?_, ?_⟩
  · rw [hgroup, hmore, htext, ← Piece.textOf_append]
    exact Text.pieces_textOf_infix hwhole
  · rw [hmore, hwidth]
    exact hfull

theorem isFilled_ofPieces {width room line offset : Nat} {prompt : Option Prompt}
    {startsLine : Bool} {groups : List (List Piece)} {whole : Text}
    (h : Piece.Filled width room groups) (hwhole : groups.flatten <:+: whole.pieces)
    (hroom : ∀ row : Row, row.prompt = prompt → width - row.promptWidth = room)
    {before after : List Row} {row : Row}
    (hrows : ofPieces line offset prompt startsLine groups = before ++ row :: after) :
    row.IsFilled width (shown after) := by
  induction h generalizing offset prompt startsLine before with
  | @last room group hgroup =>
    cases before with
    | nil =>
      obtain ⟨rfl, rfl⟩ := List.cons.inj hrows
      refine .of_group hwhole rfl rfl ?_ nofun
      rwa [hroom _ rfl]
    | cons first before =>
      have hnil : [] = before ++ row :: after := (List.cons.inj hrows).2
      exact absurd hnil.symm (List.append_ne_nil_of_right_ne_nil _ (List.cons_ne_nil _ _))
  | @more room group next piece groups hgroup hne hfull _ ih =>
    rw [List.flatten_cons] at hwhole
    cases before with
    | nil =>
      obtain ⟨rfl, rfl⟩ := List.cons.inj hrows
      rw [shown_ofPieces]
      refine .of_group hwhole rfl rfl ?_ fun d hd => ?_
      · rwa [hroom _ rfl]
      · obtain rfl : piece = d := Option.some.inj hd
        rwa [hroom _ rfl]
    | cons first before =>
      refine ih ((List.suffix_append _ _).isInfix.trans hwhole) (fun r hr => ?_)
        (List.cons.inj hrows).2
      rw [promptWidth, hr, Nat.sub_zero]

section Line

variable (width line : Nat) (text : Text) (prompt : Prompt)

theorem isFilled_ofLine {before after : List Row} {row : Row}
    (hrows : ofLine width line text prompt = before ++ row :: after) :
    row.IsFilled width (shown after) := by
  have hwhole : (Piece.wrap (width - prompt.width) width text.pieces).flatten <:+:
      text.pieces := ⟨[], [], by rw [Piece.flatten_wrap, List.nil_append, List.append_nil]⟩
  refine isFilled_ofPieces (Piece.filled_wrap _ width text.pieces) hwhole (fun r hr => ?_) hrows
  rw [promptWidth, hr]

theorem fits_of_mem_ofLine {row : Row} (h : row ∈ ofLine width line text prompt) :
    row.Fits width := by
  obtain ⟨before, after, hrows⟩ := List.append_of_mem h
  exact (isFilled_ofLine width line text prompt hrows).fits

theorem isChain_ofLine : (ofLine width line text prompt).IsChain (BreaksFor width) := by
  refine List.isChain_iff_forall_rel_of_append_cons_cons.2 fun row next before after hrows => ?_
  have hrow := isFilled_ofLine width line text prompt hrows
  have hnext : next.IsFilled width (shown after) := by
    refine isFilled_ofLine width line text prompt (?_ : _ = (before ++ [row]) ++ next :: after)
    rw [hrows, List.append_assoc, List.singleton_append]
  rw [shown_cons] at hrow
  exact hrow.breaksFor hnext.pieces_eq

theorem map_width_ofPieces (offset : Nat) (prompt : Option Prompt) (startsLine : Bool)
    (groups : List (List Piece)) :
    (ofPieces line offset prompt startsLine groups).map Row.width = groups.map Piece.widthOf := by
  induction groups generalizing offset prompt startsLine with
  | nil => rfl
  | cons group groups ih =>
    show Piece.widthOf group :: List.map Row.width _ = _
    rw [ih, List.map_cons]

/-- The rows of a line take as many cells as the line. -/
theorem sum_width_ofLine :
    ((ofLine width line text prompt).map Row.width).sum = text.visibleWidth := by
  rw [ofLine, map_width_ofPieces, ← Piece.widthOf_flatten, Piece.flatten_wrap, Text.visibleWidth]

/-- A row that shows text shows what is put into it of the line from there on. -/
theorem exists_rowPart_of_mem_ofLine {row : Row} (h : row ∈ ofLine width line text prompt)
    (htext : row.text ≠ []) :
    ∃ left rest, text = left ++ rest ∧ left.size = row.offset ∧
      row.text = rest.rowPart (width - row.promptWidth) := by
  obtain ⟨before, after, hrows⟩ := List.append_of_mem h
  have hchained := ofLine_chained width line text prompt
  have hshown := shown_ofLine width line text prompt
  rw [hrows] at hchained hshown
  have hoffset := hchained.offset_eq
  rw [shown_append, shown_cons] at hshown
  rw [Nat.zero_add] at hoffset
  exact ⟨_, _, hshown.symm, hoffset.symm,
    (isFilled_ofLine width line text prompt hrows).text_eq_rowPart htext⟩

end Line

/-! ## The cursor on filled rows -/

theorem fits_overflow (width line offset : Nat) : (overflow line offset).Fits width := by
  have hnil : Text.visibleWidth [] = 0 := by
    rw [Text.visibleWidth, Text.pieces_eq_nil_iff.2 rfl]
    rfl
  exact ⟨hnil.symm, .inl (Nat.zero_le _)⟩

/-- Placing the cursor moves no text. -/
theorem Placed.filled {width x : Nat} {rows placed : List Row} (h : Placed width x rows placed)
    (hfits : ∀ row ∈ rows, row.Fits width) (hchain : rows.IsChain (BreaksFor width)) :
    (∀ row ∈ placed, row.Fits width) ∧ placed.IsChain (BreaksFor width) ∧
      (placed.map Row.width).sum = (rows.map Row.width).sum := by
  cases h with
  | @onRow before row after _ _ =>
    refine ⟨fun r hr => ?_, ?_, ?_⟩
    · rcases List.mem_append.1 hr with hr | hr
      · exact hfits r (List.mem_append_left _ hr)
      · rcases List.mem_cons.1 hr with rfl | hr
        · have hrow := hfits row (List.mem_append_right _ List.mem_cons_self)
          exact ⟨hrow.width_eq, hrow.room⟩
        · exact hfits r (List.mem_append_right _ (List.mem_cons_of_mem _ hr))
    · have hbare : (before ++ row.withCursor width x :: after).map bare =
          (before ++ row :: after).map bare := by
        rw [List.map_append, List.map_append]
        rfl
      -- the relation does not look at the cursor
      have hsame (rows : List Row) :
          (rows.map bare).IsChain (BreaksFor width) ↔ rows.IsChain (BreaksFor width) :=
        List.isChain_map bare
      rwa [← hsame, hbare, hsame]
    · rw [List.map_append, List.map_append]
      rfl
  | @below before last _ _ _ =>
    refine ⟨fun r hr => ?_, hchain.append (List.isChain_singleton _) ?_, ?_⟩
    · rcases List.mem_append.1 hr with hr | hr
      · exact hfits r hr
      · rw [List.mem_singleton.1 hr]
        exact fits_overflow _ _ _
    · intro row _ next hnext _ _ hne
      obtain rfl : overflow last.line last.stop = next := Option.some.inj hnext
      exact absurd rfl hne
    · simp [overflow]
  | nowhere _ _ => exact ⟨hfits, hchain, rfl⟩

end Row

theorem filled_lineRows (width : Nat) (cursor : Position) (prompts : Prompts) (line : Nat)
    (text : Text) :
    (∀ row ∈ lineRows width cursor prompts line text, row.Fits width) ∧
      (lineRows width cursor prompts line text).IsChain (Row.BreaksFor width) ∧
      ((lineRows width cursor prompts line text).map Row.width).sum = text.visibleWidth := by
  have hfits : ∀ row ∈ Row.ofLine width line text (prompts.forLine line), row.Fits width :=
    fun _ hrow => Row.fits_of_mem_ofLine width line text (prompts.forLine line) hrow
  have hchain := Row.isChain_ofLine width line text (prompts.forLine line)
  have hsum := Row.sum_width_ofLine width line text (prompts.forLine line)
  rcases lineRows_cases width cursor prompts line text with ⟨-, h⟩ | ⟨-, h⟩
  · rw [h]
    exact ⟨hfits, hchain, hsum⟩
  · rw [← hsum]
    exact h.filled hfits hchain

/-- Rows of different lines do not bound each other. -/
theorem isChain_layoutFrom (width : Nat) (cursor : Position) (prompts : Prompts) (n : Nat)
    (lines : List Text) :
    (layoutFrom width cursor prompts n lines).IsChain (Row.BreaksFor width) := by
  induction lines generalizing n with
  | nil => exact List.isChain_nil
  | cons text rest ih =>
    rw [layoutFrom_cons]
    refine (filled_lineRows width cursor prompts n text).2.1.append (ih (n + 1)) ?_
    intro row hrow next hnext hline
    have hrow := line_of_mem_lineRows width cursor prompts (List.mem_of_getLast? hrow)
    have hnext := le_line_of_mem_layoutFrom width cursor prompts (List.mem_of_head? hnext)
    omega

/-! ## The result -/

/-- On a screen of any width, wherever the cursor is, each row of a layout is counted with the cells
that its text takes, and these fit beside the prompt unless the text is a single cluster.  The rows of
a line take together the cells of the line.  No row ends earlier than it must: of two consecutive rows
of a line that show text, the first has no room for the first cluster of the second.  And each row that
shows text shows what is put into it of its line from there on. -/
theorem layout_fills_rows (lines : List Text) (cursor : Position) (prompts : Prompts) (width : Nat) :
    let rows := layout lines cursor prompts width
    (∀ row ∈ rows, row.width = row.text.visibleWidth ∧
      (row.width ≤ width - row.promptWidth ∨ row.text.clusters = [row.text])) ∧
    (∀ y text, lines[y]? = some text →
      ((rows.filter fun row => row.line = y).map Row.width).sum = text.visibleWidth) ∧
    (rows.IsChain fun row next => row.line = next.line → row.text ≠ [] → next.text ≠ [] →
      ∃ cluster, next.text.clusters.head? = some cluster ∧
        width - row.promptWidth < row.width + clusterWidth cluster) ∧
    ∀ row ∈ rows, row.text ≠ [] → ∃ text left rest, lines[row.line]? = some text ∧
      text = left ++ rest ∧ left.size = row.offset ∧
      row.text = rest.rowPart (width - row.promptWidth) := by
  intro rows
  refine ⟨fun row hrow => ?_, fun y text h => ?_, isChain_layoutFrom width cursor prompts 0 lines,
    fun row hrow htext => ?_⟩
  · obtain ⟨k, text, -, hmem⟩ := exists_of_mem_layoutFrom width cursor prompts hrow
    have hfits := (filled_lineRows width cursor prompts (0 + k) text).1 row hmem
    exact ⟨hfits.width_eq, hfits.room⟩
  · have hrows := filter_layoutFrom width cursor prompts (n := 0) h
    rw [Nat.zero_add] at hrows
    show ((List.filter _ (layoutFrom width cursor prompts 0 lines)).map Row.width).sum = _
    rw [hrows]
    exact (filled_lineRows width cursor prompts y text).2.2
  · obtain ⟨text, hline, hmem⟩ := bare_mem_ofLine hrow (.inl htext)
    obtain ⟨left, rest, hparts⟩ := Row.exists_rowPart_of_mem_ofLine _ _ _ _ hmem htext
    exact ⟨text, left, rest, hline, hparts⟩

end LineEditor
