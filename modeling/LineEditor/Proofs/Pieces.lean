import LineEditor.Layout
import LineEditor.Proofs.Text

/-!
# Clusters, pieces and rows of pieces

Nothing of a text is lost or doubled when it falls into clusters, into pieces, or into rows of
pieces, and none of the parts is empty.

* Clusters.  `flatten_clusters` and `ne_nil_of_mem_clusters`.
* Pieces.  `textOf_pieces` and `text_ne_nil_of_mem_pieces`; an escape sequence is cut off by
  `split?_eq_append`, and `pieces_append` says that the text up to it falls into its clusters.
* Truncation.  `exists_eq_truncate_append` says that truncation keeps a leading part of the text.
* Rows of pieces.  `flatten_wrap` and `ne_nil_of_mem_wrap` say the same of `Piece.wrap`, so every
  row makes progress; `length_wrap_le` is the bound on the number of rows that follows.
-/

namespace LineEditor

/-! ## Clusters -/

namespace Text

theorem flatten_clustersFrom (tail : Tail) (current text : Text) :
    (clustersFrom tail current text).flatten = current.reverse ++ text := by
  induction text generalizing tail current with
  | nil => simp [clustersFrom]
  | cons c text ih =>
    rw [clustersFrom]
    split
    · rw [ih, List.reverse_cons, List.append_assoc, List.singleton_append]
    · rw [List.flatten_cons, ih, List.reverse_singleton, List.singleton_append]

/-- The clusters of a text make up the text. -/
theorem flatten_clusters (text : Text) : (clusters text).flatten = text := by
  cases text with
  | nil => rfl
  | cons c text =>
    rw [clusters, flatten_clustersFrom, List.reverse_singleton, List.singleton_append]

theorem mem_of_mem_flatten_take {text : Text} {n : Nat} {c : Char}
    (h : c ∈ (text.clusters.take n).flatten) : c ∈ text := by
  rw [← flatten_clusters text, ← List.take_append_drop n text.clusters, List.flatten_append]
  exact List.mem_append_left _ h

theorem ne_nil_of_mem_clustersFrom {tail : Tail} {current text cluster : Text}
    (hcurrent : current ≠ []) (h : cluster ∈ clustersFrom tail current text) :
    cluster ≠ [] := by
  induction text generalizing tail current with
  | nil =>
    obtain rfl : cluster = current.reverse := by simpa [clustersFrom] using h
    simpa using hcurrent
  | cons c text ih =>
    rw [clustersFrom] at h
    split at h
    · exact ih (List.cons_ne_nil _ _) h
    · rcases List.mem_cons.1 h with rfl | h
      · simpa using hcurrent
      · exact ih (List.cons_ne_nil _ _) h

/-- No cluster is empty. -/
theorem ne_nil_of_mem_clusters {text cluster : Text} (h : cluster ∈ clusters text) :
    cluster ≠ [] := by
  cases text with
  | nil => exact absurd h List.not_mem_nil
  | cons c text => exact ne_nil_of_mem_clustersFrom (List.cons_ne_nil _ _) h

theorem clusters_eq_nil_iff {text : Text} : clusters text = [] ↔ text = [] := by
  constructor
  · intro h
    rw [← flatten_clusters text, h, List.flatten_nil]
  · rintro rfl
    rfl

end Text

/-! ## Escape sequences -/

namespace Escape

theorem splitControl_append (text : Text) :
    (splitControl text).1 ++ (splitControl text).2 = text := by
  induction text with
  | nil => rfl
  | cons c text ih =>
    rw [splitControl]
    split
    · rfl
    · rw [List.cons_append, ih]

theorem splitString_append (text : Text) :
    (splitString text).1 ++ (splitString text).2 = text := by
  induction text with
  | nil => rfl
  | cons c text ih =>
    rw [splitString]
    split
    · rfl
    · split
      · next h =>
        simp only [Bool.and_eq_true, decide_eq_true_eq] at h
        obtain ⟨d, rest, rfl⟩ := List.exists_cons_of_ne_nil (l := text) (by rintro rfl; simp at h)
        obtain rfl : d = '\\' := by simpa using h.2
        rfl
      · rw [List.cons_append, ih]

theorem splitTail_append (text : Text) : (splitTail text).1 ++ (splitTail text).2 = text := by
  cases text with
  | nil => rfl
  | cons c text =>
    rw [splitTail]
    split
    · rw [List.cons_append, splitControl_append]
    · split
      · rw [List.cons_append, splitString_append]
      · rfl

/-- An escape sequence and the text after it make up the text, and the sequence is not empty. -/
theorem split?_eq_append {text sequence after : Text} (h : split? text = some (sequence, after)) :
    text = sequence ++ after ∧ sequence ≠ [] := by
  cases text with
  | nil => simp [split?] at h
  | cons c text =>
    rw [split?] at h
    split at h
    · simp only [Option.some.injEq, Prod.mk.injEq] at h
      obtain ⟨rfl, rfl⟩ := h
      refine ⟨?_, List.cons_ne_nil _ _⟩
      rw [List.cons_append, splitTail_append]
    · simp at h

end Escape

/-! ## Pieces -/

namespace Piece

@[simp] theorem textOf_nil : textOf [] = [] := rfl

@[simp] theorem textOf_cons (piece : Piece) (pieces : List Piece) :
    textOf (piece :: pieces) = piece.text ++ textOf pieces := rfl

@[simp] theorem textOf_append (left right : List Piece) :
    textOf (left ++ right) = textOf left ++ textOf right := by
  simp [textOf]

theorem textOf_map_cluster (clusters : List Text) :
    textOf (clusters.map .cluster) = clusters.flatten := by
  induction clusters with
  | nil => rfl
  | cons cluster clusters ih => rw [List.map_cons, textOf_cons, ih, List.flatten_cons, text]

theorem textOf_ne_nil {pieces : List Piece} (hne : pieces ≠ [])
    (h : ∀ piece ∈ pieces, piece.text ≠ []) : textOf pieces ≠ [] := by
  obtain ⟨piece, rest, rfl⟩ := List.exists_cons_of_ne_nil hne
  rw [textOf_cons]
  exact List.append_ne_nil_of_left_ne_nil (h piece List.mem_cons_self) _

theorem textOf_flatten (groups : List (List Piece)) :
    textOf groups.flatten = (groups.map textOf).flatten := by
  induction groups with
  | nil => rfl
  | cons pieces groups ih =>
    rw [List.flatten_cons, textOf_append, ih, List.map_cons, List.flatten_cons]

end Piece

namespace Text

theorem splitEscape_append (text : Text) : (splitEscape text).1 ++ (splitEscape text).2 = text :=
  List.takeWhile_append_dropWhile

/-- The pieces of a text make up the text. -/
theorem textOf_pieces (text : Text) : Piece.textOf (pieces text) = text := by
  fun_induction pieces text with
  | case1 => rfl
  | case2 c rest sequence after h ih =>
    rw [Piece.textOf_cons, ih, Piece.text, ← (Escape.split?_eq_append h).1]
  | case3 c rest h parts ih =>
    rw [Piece.textOf_append, ih, Piece.textOf_map_cluster, flatten_clusters, splitEscape_append]

/-- An escape sequence in front of a text is a piece of its own. -/
theorem pieces_of_split? {text sequence after : Text}
    (h : Escape.split? text = some (sequence, after)) :
    pieces text = .escape sequence :: pieces after := by
  cases text with
  | nil => simp [Escape.split?] at h
  | cons c rest =>
    rw [pieces]
    split
    · next heq =>
      rw [h, Option.some.injEq, Prod.mk.injEq] at heq
      rw [heq.1, heq.2]
    · next heq => simp [h] at heq

/-- A stretch of text up to an escape character or the end falls into its clusters. -/
theorem pieces_append {left right : Text} (hleft : escapeChar ∉ left)
    (hright : ∀ c ∈ right.head?, c = escapeChar) :
    pieces (left ++ right) = left.clusters.map .cluster ++ pieces right := by
  cases left with
  | nil => rfl
  | cons c rest =>
    have hall : ∀ d ∈ c :: rest, decide (d ≠ escapeChar) = true := by
      rintro d hd
      refine decide_eq_true ?_
      rintro rfl
      exact hleft hd
    have hnone : Escape.split? (c :: rest ++ right) = none := by
      rw [Escape.split?_eq_none_iff, List.cons_append, List.head?_cons, ne_eq, Option.some.injEq]
      exact of_decide_eq_true (hall c List.mem_cons_self)
    have hparts : splitEscape (c :: rest ++ right) = (c :: rest, right) := by
      rw [splitEscape, List.takeWhile_append_of_pos hall, List.dropWhile_append_of_pos hall]
      cases right with
      | nil => simp
      | cons d right =>
        have hd : d = escapeChar := hright d rfl
        simp [hd]
    rw [List.cons_append] at hnone hparts ⊢
    rw [pieces]
    split
    · next heq => simp [hnone] at heq
    · rw [hparts]

/-- Without escape sequences the pieces of a text are its clusters. -/
theorem pieces_eq_map_clusters {text : Text} (h : escapeChar ∉ text) :
    text.pieces = text.clusters.map .cluster := by
  have hend : ∀ c ∈ ([] : Text).head?, c = escapeChar := nofun
  have hpieces := pieces_append h hend
  rwa [List.append_nil, pieces, List.append_nil] at hpieces

/-- No piece is empty. -/
theorem text_ne_nil_of_mem_pieces {text : Text} {piece : Piece} (h : piece ∈ pieces text) :
    piece.text ≠ [] := by
  fun_induction pieces text with
  | case1 => exact absurd h List.not_mem_nil
  | case2 c rest sequence after hsplit ih =>
    rcases List.mem_cons.1 h with rfl | h
    · exact (Escape.split?_eq_append hsplit).2
    · exact ih h
  | case3 c rest hsplit parts ih =>
    rcases List.mem_append.1 h with h | h
    · obtain ⟨cluster, hcluster, rfl⟩ := List.mem_map.1 h
      exact ne_nil_of_mem_clusters hcluster
    · exact ih h

theorem pieces_eq_nil_iff {text : Text} : pieces text = [] ↔ text = [] := by
  constructor
  · intro h
    rw [← textOf_pieces text, h, Piece.textOf_nil]
  · rintro rfl
    rw [pieces]

end Text

/-! ## Truncation -/

namespace Piece

theorem fit_append (room : Nat) (pieces : List Piece) :
    (fit room pieces).1 ++ (fit room pieces).2 = pieces := by
  induction pieces generalizing room with
  | nil => rfl
  | cons piece pieces ih =>
    rw [fit]
    split
    · rw [List.cons_append, ih]
    · rfl

end Piece

/-- Truncation keeps a leading part of the text. -/
theorem Text.exists_eq_truncate_append (text : Text) (room : Nat) :
    ∃ rest, text = (text.truncate room).1 ++ rest := by
  refine ⟨Piece.textOf (Piece.fit room text.pieces).2, ?_⟩
  rw [truncate, ← Piece.textOf_append, Piece.fit_append, textOf_pieces]

/-! ## Rows of pieces -/

namespace Piece

theorem flatten_wrapFrom (width : Nat) (room : Option Nat) (current pieces : List Piece) :
    (wrapFrom width room current pieces).flatten = current.reverse ++ pieces := by
  induction pieces generalizing room current with
  | nil => simp [wrapFrom]
  | cons piece pieces ih =>
    rw [wrapFrom]
    split
    · rw [ih, List.reverse_cons, List.append_assoc, List.singleton_append]
    · rw [List.flatten_cons, ih, List.reverse_singleton, List.singleton_append]

/-- The rows hold all pieces, in order. -/
theorem flatten_wrap (first width : Nat) (pieces : List Piece) :
    (wrap first width pieces).flatten = pieces := by
  cases pieces with
  | nil => rfl
  | cons piece pieces =>
    rw [wrap, flatten_wrapFrom, List.reverse_singleton, List.singleton_append]

theorem ne_nil_of_mem_wrapFrom {width : Nat} {room : Option Nat} {current pieces row : List Piece}
    (hcurrent : current ≠ []) (h : row ∈ wrapFrom width room current pieces) : row ≠ [] := by
  induction pieces generalizing room current with
  | nil =>
    obtain rfl : row = current.reverse := by simpa [wrapFrom] using h
    simpa using hcurrent
  | cons piece pieces ih =>
    rw [wrapFrom] at h
    split at h
    · exact ih (List.cons_ne_nil _ _) h
    · rcases List.mem_cons.1 h with rfl | h
      · simpa using hcurrent
      · exact ih (List.cons_ne_nil _ _) h

/-- Every row but the only row of no pieces at all holds a piece. -/
theorem ne_nil_of_mem_wrap {first width : Nat} {pieces row : List Piece} (hpieces : pieces ≠ [])
    (h : row ∈ wrap first width pieces) : row ≠ [] := by
  cases pieces with
  | nil => exact absurd rfl hpieces
  | cons piece pieces => exact ne_nil_of_mem_wrapFrom (List.cons_ne_nil _ _) h

theorem wrap_ne_nil (first width : Nat) (pieces : List Piece) : wrap first width pieces ≠ [] := by
  intro h
  cases pieces with
  | nil => simp [wrap] at h
  | cons piece pieces =>
    have hflat := flatten_wrap first width (piece :: pieces)
    rw [h] at hflat
    simp at hflat

theorem length_le_flatten {groups : List (List Piece)} (h : ∀ group ∈ groups, group ≠ []) :
    groups.length ≤ groups.flatten.length := by
  induction groups with
  | nil => simp
  | cons group groups ih =>
    have hpos : 0 < group.length := List.length_pos_iff.2 (h group List.mem_cons_self)
    have hrest := ih fun g hg => h g (List.mem_cons_of_mem _ hg)
    rw [List.flatten_cons, List.length_append, List.length_cons]
    omega

/-- There are no more rows than pieces, but at least the first one. -/
theorem length_wrap_le (first width : Nat) (pieces : List Piece) :
    (wrap first width pieces).length ≤ max 1 pieces.length := by
  cases pieces with
  | nil => simp [wrap]
  | cons piece pieces =>
    have hne : ∀ row ∈ wrap first width (piece :: pieces), row ≠ [] := fun _ h =>
      ne_nil_of_mem_wrap (List.cons_ne_nil piece pieces) h
    have hlen := length_le_flatten hne
    rw [flatten_wrap] at hlen
    omega

end Piece

end LineEditor
