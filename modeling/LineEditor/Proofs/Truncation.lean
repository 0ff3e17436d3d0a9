import LineEditor.Proofs.Clusters
import LineEditor.Proofs.Pieces

/-!
# The longest part that fits

Truncation fits pieces into a number of cells, one after the other, and what it keeps is a text again,
and so is what it leaves.  As an escape sequence tells by itself where it ends, and clusters do not
depend on what stands around them, both texts fall into the pieces that they had in the whole.

* Escape sequences.  `split?_append` says that what comes after a sequence makes no difference to it.
* Pieces of parts.  `pieces_textOf_take` and `pieces_textOf_drop` say that leading pieces, and those
  after them, are the pieces of the texts they make up; `pieces_textOf_infix` says so of all pieces
  that stand together.
* First clusters.  An escape character is a cluster of its own, so a text begins with a cluster as wide
  as its first piece (`exists_clusters_eq_cons`).
* Fitting.  `widthOf_fit_le` and `take_prefix_fit` say that `fit` keeps as many pieces as fit, and
  `lt_widthOf_fit` that the next one does not; `fit_append_of_fits` and `fit_append_of_full` fit pieces in
  two steps.
* The result.  `LongestFit` says what the longest part of a text is that fits in a number of cells, and
  `longestFit_iff` that it is the truncated text; `truncate_parts_text` compares that text with what is
  left and with what other numbers of cells give.
-/

namespace LineEditor

/-! ## Escape sequences -/

namespace Escape

theorem splitControl_append_of {text sequence after : Text} (h : splitControl text = (sequence, after))
    (hafter : after ≠ []) (right : Text) : splitControl (sequence ++ right) = (sequence, right) := by
  induction text generalizing sequence with
  | nil => exact absurd (congrArg Prod.snd h).symm hafter
  | cons c text ih =>
    rw [splitControl] at h
    split at h
    · next hfinal =>
      obtain ⟨rfl, rfl⟩ := Prod.mk.inj h
      rw [List.singleton_append, splitControl, if_pos hfinal]
    · next hfinal =>
      obtain ⟨rfl, rfl⟩ := Prod.mk.inj h
      rw [List.cons_append, splitControl, if_neg hfinal, ih rfl]

theorem splitString_append_of {text sequence after : Text} (h : splitString text = (sequence, after))
    (hafter : after ≠ []) (right : Text) : splitString (sequence ++ right) = (sequence, right) := by
  induction text generalizing sequence with
  | nil => exact absurd (congrArg Prod.snd h).symm hafter
  | cons c text ih =>
    rw [splitString] at h
    split at h
    · next hbell =>
      obtain ⟨rfl, rfl⟩ := Prod.mk.inj h
      rw [List.singleton_append, splitString, if_pos hbell]
    · next hbell =>
      split at h
      · next hend =>
        obtain ⟨rfl, rfl⟩ := Prod.mk.inj h
        rw [Bool.and_eq_true, decide_eq_true_eq, decide_eq_true_eq] at hend
        rw [List.cons_append, List.singleton_append, splitString, if_neg hbell, if_pos (by simp [hend.1])]
        rfl
      · next hend =>
        obtain ⟨rfl, rfl⟩ := Prod.mk.inj h
        -- the next character is in the sequence, so it is the same whatever comes after
        have hhead : ((splitString text).1 ++ right).head? = text.head? := by
          cases text with
          | nil => exact absurd rfl hafter
          | cons d text =>
            rw [splitString]
            split
            · rfl
            · split <;> rfl
        rw [List.cons_append, splitString, if_neg hbell, hhead, if_neg hend, ih rfl]

theorem splitTail_append_of {text sequence after : Text} (h : splitTail text = (sequence, after))
    (hafter : after ≠ []) (right : Text) : splitTail (sequence ++ right) = (sequence, right) := by
  cases text with
  | nil => exact absurd (congrArg Prod.snd h).symm hafter
  | cons c text =>
    rw [splitTail] at h
    split at h
    · next hcontrol =>
      obtain ⟨rfl, rfl⟩ := Prod.mk.inj h
      rw [List.cons_append, splitTail, if_pos hcontrol, splitControl_append_of rfl hafter]
    · next hcontrol =>
      split at h
      · next hstring =>
        obtain ⟨rfl, rfl⟩ := Prod.mk.inj h
        rw [List.cons_append, splitTail, if_neg hcontrol, if_pos hstring,
          splitString_append_of rfl hafter]
      · next hstring =>
        obtain ⟨rfl, rfl⟩ := Prod.mk.inj h
        rw [List.singleton_append, splitTail, if_neg hcontrol, if_neg hstring]

/-- A sequence that does not run to the end of the text ends where it does whatever comes after it. -/
theorem split?_append {text sequence after : Text} (h : split? text = some (sequence, after))
    (hafter : after ≠ []) (right : Text) : split? (sequence ++ right) = some (sequence, right) := by
  cases text with
  | nil => simp [split?] at h
  | cons c text =>
    rw [split?] at h
    split at h
    · next hescape =>
      obtain ⟨rfl, rfl⟩ := Prod.mk.inj (Option.some.inj h)
      rw [List.cons_append, split?, if_pos hescape, splitTail_append_of rfl hafter]
    · simp at h

end Escape

/-! ## Pieces of parts -/

namespace Text

theorem escapeChar_notMem_splitEscape (text : Text) : escapeChar ∉ (splitEscape text).1 := by
  intro hmem
  simpa using List.mem_takeWhile_imp hmem

theorem eq_escapeChar_of_mem_head?_splitEscape {text : Text} {c : Char}
    (h : c ∈ (splitEscape text).2.head?) : c = escapeChar := by
  have hnot := List.head?_dropWhile_not (· ≠ escapeChar) text
  rw [splitEscape, Option.mem_def] at h
  rw [h] at hnot
  simpa using hnot

/-- Leading pieces of a text are the pieces of what they make up. -/
theorem pieces_textOf_take (text : Text) (n : Nat) :
    pieces (Piece.textOf (text.pieces.take n)) = text.pieces.take n := by
  fun_induction pieces text generalizing n with
  | case1 =>
    rw [List.take_nil, Piece.textOf_nil, pieces]
  | case2 c rest sequence after h ih =>
    cases n with
    | zero => rw [List.take_zero, Piece.textOf_nil, pieces]
    | succ n =>
      rw [List.take_succ_cons, Piece.textOf_cons, Piece.text]
      have hsplit : Escape.split? (sequence ++ Piece.textOf (after.pieces.take n)) =
          some (sequence, Piece.textOf (after.pieces.take n)) := by
        by_cases hafter : after = []
        · -- a sequence that runs to the end of the text is the last piece
          subst hafter
          rw [pieces, List.take_nil, Piece.textOf_nil, ← (Escape.split?_eq_append h).1]
          exact h
        · exact Escape.split?_append h hafter _
      rw [pieces_of_split? hsplit, ih]
  | case3 c rest h parts ih =>
    have hstretch : escapeChar ∉ (parts.1.clusters.take n).flatten := fun hmem =>
      escapeChar_notMem_splitEscape _ (mem_of_mem_flatten_take hmem)
    have hhead : ∀ d ∈ (Piece.textOf (parts.2.pieces.take (n - parts.1.clusters.length))).head?,
        d = escapeChar := by
      intro d hd
      have hwhole := textOf_pieces parts.2
      rw [← List.take_append_drop (n - parts.1.clusters.length) parts.2.pieces,
        Piece.textOf_append] at hwhole
      have hmem : d ∈ (splitEscape (c :: rest)).2.head? := by
        show d ∈ parts.2.head?
        rw [← hwhole, List.head?_append, Option.mem_def.1 hd]
        rfl
      exact eq_escapeChar_of_mem_head?_splitEscape hmem
    rw [List.take_append, Piece.textOf_append, List.length_map, ← List.map_take,
      Piece.textOf_map_cluster, pieces_append hstretch hhead, clusters_flatten_take, ih]

/-- The pieces after leading pieces of a text are the pieces of what they make up. -/
theorem pieces_textOf_drop (text : Text) (n : Nat) :
    pieces (Piece.textOf (text.pieces.drop n)) = text.pieces.drop n := by
  fun_induction pieces text generalizing n with
  | case1 =>
    rw [List.drop_nil, Piece.textOf_nil, pieces]
  | case2 c rest sequence after h ih =>
    cases n with
    | zero =>
      rw [List.drop_zero, Piece.textOf_cons, textOf_pieces, Piece.text,
        ← (Escape.split?_eq_append h).1, pieces_of_split? h]
    | succ n => exact ih n
  | case3 c rest h parts ih =>
    rw [List.drop_append, Piece.textOf_append, List.length_map, ← List.map_drop,
      Piece.textOf_map_cluster]
    by_cases hn : n ≤ parts.1.clusters.length
    · -- the cut is in the stretch or at its end
      have hstretch : escapeChar ∉ (parts.1.clusters.drop n).flatten := by
        intro hmem
        obtain ⟨cluster, hcluster, hc⟩ := List.mem_flatten.1 hmem
        refine escapeChar_notMem_splitEscape (c :: rest) ?_
        show escapeChar ∈ parts.1
        rw [← flatten_clusters parts.1]
        exact List.mem_flatten.2 ⟨cluster, List.mem_of_mem_drop hcluster, hc⟩
      rw [Nat.sub_eq_zero_of_le hn, List.drop_zero, textOf_pieces,
        pieces_append hstretch fun d hd => eq_escapeChar_of_mem_head?_splitEscape hd,
        clusters_flatten_drop]
    · rw [List.drop_eq_nil_of_le (by omega), List.flatten_nil, List.nil_append, List.map_nil,
        List.nil_append, ih]

/-- Pieces that stand together in a text are the pieces of what they make up. -/
theorem pieces_textOf_infix {text : Text} {group : List Piece} (h : group <:+: text.pieces) :
    pieces (Piece.textOf group) = group := by
  obtain ⟨before, after, h⟩ := h
  rw [List.append_assoc] at h
  have hdrop := pieces_textOf_drop text before.length
  rw [← h, List.drop_left] at hdrop
  have htake := pieces_textOf_take (Piece.textOf (group ++ after)) group.length
  rwa [hdrop, List.take_left] at htake

/-! ## First clusters -/

/-- Nothing joins an escape character, and it joins nothing. -/
theorem joins_escapeChar (left right : Text) : joins left (escapeChar :: right) = false := by
  have hclass : Unicode.Break.ofChar escapeChar = .control := by decide +kernel
  cases left with
  | nil => rfl
  | cons c left => simp [joins, Tail.joins, Tail.joinsClass, hclass, Unicode.Break.isAlone]

theorem joins_singleton_escapeChar (right : Text) : joins [escapeChar] right = false := by
  have hclass : (Tail.start escapeChar).last = .control := by decide +kernel
  cases right with
  | nil => rfl
  | cons d right => simp [joins, Tail.joins, Tail.joinsClass, hclass, Unicode.Break.isAlone]

/-- A text falls into the clusters of the stretch up to its first escape character and the pieces after
that stretch. -/
theorem pieces_splitEscape (text : Text) :
    text.pieces = (splitEscape text).1.clusters.map .cluster ++ (splitEscape text).2.pieces := by
  have hhead : ∀ c ∈ (splitEscape text).2.head?, c = escapeChar := fun _ hc =>
    eq_escapeChar_of_mem_head?_splitEscape hc
  rw [← pieces_append (escapeChar_notMem_splitEscape text) hhead, splitEscape_append]

/-- The stretch up to the first escape character falls into its clusters, and what comes after it into
its own. -/
theorem clusters_splitEscape (text : Text) :
    text.clusters = (splitEscape text).1.clusters ++ (splitEscape text).2.clusters := by
  have hjoins : joins (splitEscape text).1 (splitEscape text).2 = false := by
    cases hafter : (splitEscape text).2 with
    | nil => exact joins_nil_right _
    | cons d after =>
      obtain rfl : d = escapeChar := eq_escapeChar_of_mem_head?_splitEscape (by rw [hafter]; rfl)
      exact joins_escapeChar _ after
  rw [← clusters_append hjoins, splitEscape_append]

/-- A text begins with a cluster as wide as its first piece, which is that piece unless that is an
escape sequence. -/
theorem exists_clusters_eq_cons {text : Text} {piece : Piece} {rest : List Piece}
    (h : text.pieces = piece :: rest) :
    ∃ cluster more, text.clusters = cluster :: more ∧ clusterWidth cluster = piece.width ∧
      ∀ c, piece = .cluster c → cluster = c := by
  have hpieces := pieces_splitEscape text
  rw [h] at hpieces
  cases hstretch : (splitEscape text).1.clusters with
  | cons cluster more =>
    rw [hstretch] at hpieces
    obtain ⟨rfl, -⟩ := List.cons.inj hpieces
    rw [clusters_splitEscape, hstretch]
    exact ⟨cluster, _, rfl, rfl, fun c hc => Piece.cluster.inj hc⟩
  | nil =>
    -- there is an escape character in front
    have hparts := splitEscape_append text
    rw [clusters_eq_nil_iff.1 hstretch, List.nil_append] at hparts
    cases text with
    | nil => exact absurd (h.symm.trans (pieces_eq_nil_iff.2 rfl)) nofun
    | cons c text =>
      obtain rfl : c = escapeChar := eq_escapeChar_of_mem_head?_splitEscape (by rw [hparts]; rfl)
      rw [pieces_of_split? rfl] at h
      obtain ⟨rfl, -⟩ := List.cons.inj h
      have hwidth : clusterWidth [escapeChar] = 0 := by decide +kernel
      exact ⟨[escapeChar], _, clusters_append (joins_singleton_escapeChar text), hwidth, nofun⟩

/-- A text that is a single piece, and no escape sequence, is a single cluster. -/
theorem clusters_eq_singleton {text cluster : Text} (h : text.pieces = [.cluster cluster]) :
    text.clusters = [text] := by
  obtain ⟨first, more, hclusters, -, hfirst⟩ := exists_clusters_eq_cons h
  have hself : text = first := by
    rw [hfirst cluster rfl, ← textOf_pieces text, h]
    exact List.append_nil cluster
  have hflatten := flatten_clusters text
  rw [hclusters, List.flatten_cons, hself, List.append_right_eq_self] at hflatten
  have hnil : more = [] := by
    refine List.eq_nil_iff_forall_not_mem.2 fun part hpart => ?_
    have hne := ne_nil_of_mem_clusters (hclusters ▸ List.mem_cons_of_mem _ hpart)
    exact hne (List.flatten_eq_nil_iff.1 hflatten part hpart)
  rw [hclusters, hnil, hself]

end Text

/-! ## Fitting -/

namespace Piece

@[simp] theorem widthOf_append (left right : List Piece) :
    widthOf (left ++ right) = widthOf left + widthOf right := by
  induction left with
  | nil => rw [List.nil_append, widthOf, Nat.zero_add]
  | cons piece left ih => rw [List.cons_append, widthOf, widthOf, ih, Nat.add_assoc]

/-- The first piece that is not kept does not fit. -/
theorem lt_widthOf_fit {room : Nat} {pieces rest : List Piece} {piece : Piece}
    (h : (fit room pieces).2 = piece :: rest) :
    room < widthOf (fit room pieces).1 + piece.width := by
  induction pieces generalizing room with
  | nil => exact absurd h nofun
  | cons first pieces ih =>
    rw [fit] at h ⊢
    split at h
    · next hfits =>
      have hrest := ih h
      rw [if_pos hfits, widthOf]
      omega
    · next hfits =>
      obtain ⟨rfl, -⟩ := List.cons.inj h
      rw [if_neg hfits, widthOf]
      omega

/-- Only a cluster takes cells. -/
theorem exists_eq_cluster {piece : Piece} (h : 0 < piece.width) :
    ∃ cluster, piece = .cluster cluster := by
  cases piece with
  | escape sequence => exact absurd h (Nat.lt_irrefl 0)
  | cluster cluster => exact ⟨cluster, rfl⟩

theorem widthOf_fit_le (room : Nat) (pieces : List Piece) : widthOf (fit room pieces).1 ≤ room := by
  induction pieces generalizing room with
  | nil => exact Nat.zero_le room
  | cons piece pieces ih =>
    rw [fit]
    split
    · next hfits =>
      have hrest := ih (room - piece.width)
      rw [widthOf]
      omega
    · exact Nat.zero_le room

/-- Leading pieces that fit are kept. -/
theorem take_prefix_fit {room n : Nat} {pieces : List Piece} (h : widthOf (pieces.take n) ≤ room) :
    pieces.take n <+: (fit room pieces).1 := by
  induction pieces generalizing room n with
  | nil => rw [List.take_nil]; exact List.nil_prefix
  | cons piece pieces ih =>
    cases n with
    | zero => exact List.nil_prefix
    | succ n =>
      rw [List.take_succ_cons, widthOf] at h
      rw [List.take_succ_cons, fit, if_pos (by omega)]
      exact List.cons_prefix_cons.2 ⟨rfl, ih (by omega)⟩

/-- Pieces that fit are kept, and of those after them what fits beside them. -/
theorem fit_append_of_fits {room : Nat} {row : List Piece} (hroom : widthOf row ≤ room)
    (more : List Piece) :
    fit room (row ++ more) =
      (row ++ (fit (room - widthOf row) more).1, (fit (room - widthOf row) more).2) := by
  induction row generalizing room with
  | nil => rfl
  | cons first row ih =>
    rw [widthOf] at hroom ⊢
    rw [List.cons_append, fit, if_pos (by omega), ih (by omega), Nat.sub_sub]
    rfl

/-- Pieces that fit are all that is kept if the first one after them does not fit. -/
theorem fit_append_of_full {room : Nat} {row more : List Piece} (hroom : widthOf row ≤ room)
    (hfull : ∀ piece ∈ more.head?, room < widthOf row + piece.width) :
    fit room (row ++ more) = (row, more) := by
  have hmore : fit (room - widthOf row) more = ([], more) := by
    cases more with
    | nil => rfl
    | cons piece more =>
      have hlt := hfull piece rfl
      rw [fit, if_neg (by omega)]
  rw [fit_append_of_fits hroom, hmore, List.append_nil]

theorem textOf_prefix {left right : List Piece} (h : left <+: right) :
    textOf left <+: textOf right := by
  obtain ⟨more, rfl⟩ := h
  rw [textOf_append]
  exact List.prefix_append _ _

end Piece

/-! ## The result -/

namespace Text

/-- Whether a leading part of a text ends between two of its clusters and not inside an escape
sequence. -/
def EndsWhole (text part : Text) : Prop :=
  ∃ n, part = Piece.textOf (text.pieces.take n)

/-- The longest leading part of a text, cut neither inside a cluster nor inside an escape sequence,
that takes at most `room` cells. -/
structure LongestFit (text : Text) (room : Nat) (part : Text) : Prop where
  whole : text.EndsWhole part
  fits : part.visibleWidth ≤ room
  longest : ∀ other, text.EndsWhole other → other.visibleWidth ≤ room → other <+: part

/-- A part that ends whole takes the cells of its pieces. -/
theorem visibleWidth_textOf_take (text : Text) (n : Nat) :
    visibleWidth (Piece.textOf (text.pieces.take n)) = Piece.widthOf (text.pieces.take n) := by
  rw [visibleWidth, pieces_textOf_take]

theorem truncate_longestFit (text : Text) (room : Nat) :
    LongestFit text room (text.truncate room).1 := by
  have hkept : text.pieces.take (Piece.fit room text.pieces).1.length =
      (Piece.fit room text.pieces).1 := by
    have h := congrArg (List.take (Piece.fit room text.pieces).1.length) (Piece.fit_append room text.pieces)
    rw [List.take_left] at h
    exact h.symm
  have hpart : (text.truncate room).1 =
      Piece.textOf (text.pieces.take (Piece.fit room text.pieces).1.length) := by
    rw [hkept]
    rfl
  refine ⟨⟨_, hpart⟩, ?_, ?_⟩
  · rw [hpart, visibleWidth_textOf_take, hkept]
    exact Piece.widthOf_fit_le room text.pieces
  · rintro other ⟨n, rfl⟩ hfits
    rw [visibleWidth_textOf_take] at hfits
    exact Piece.textOf_prefix (Piece.take_prefix_fit hfits)

/-- Truncated text is the longest part that fits, and there is no other. -/
theorem longestFit_iff {text part : Text} {room : Nat} :
    LongestFit text room part ↔ part = (text.truncate room).1 := by
  have htruncate := truncate_longestFit text room
  constructor
  · intro h
    have hle := htruncate.longest part h.whole h.fits
    have hge := h.longest _ htruncate.whole htruncate.fits
    exact hle.eq_of_length (Nat.le_antisymm hle.length_le hge.length_le)
  · rintro rfl
    exact htruncate

-- the sequence after the last cluster that fits is kept
example : LongestFit "a\x1b[1m日b".toList 2 "a\x1b[1m".toList :=
  longestFit_iff.2 (by decide +kernel)

/-- Truncation parts a text between two of its pieces, so none of its escape sequences and none of the
clusters between them is cut, and both parts fall into the pieces that they have in the text.  The width
that comes with the first part is the width it is measured to have; it is at most the room, and together
with the width of the rest it is that of the text.  The text is kept as a whole exactly if it fits; if
not, the cluster after the part is wider than the room that is left.  With more room no less is kept. -/
theorem truncate_parts_text (text : Text) (room : Nat) :
    let part := (text.truncate room).1
    let width := (text.truncate room).2
    (∃ rest, text = part ++ rest ∧ text.pieces = part.pieces ++ rest.pieces ∧
      width = part.visibleWidth ∧ width ≤ room ∧
      text.visibleWidth = width + rest.visibleWidth ∧
      (part = text ↔ text.visibleWidth ≤ room) ∧
      (part ≠ text → ∃ cluster more, rest.pieces = .cluster cluster :: more ∧
        rest.clusters.head? = some cluster ∧ room - width < clusterWidth cluster)) ∧
    ∀ room', room ≤ room' → part <+: (text.truncate room').1 := by
  intro part width
  let kept := (Piece.fit room text.pieces).1
  let left := (Piece.fit room text.pieces).2
  let rest := Piece.textOf left
  have hpieces : text.pieces = kept ++ left := (Piece.fit_append room text.pieces).symm
  have hpart : part.pieces = kept := pieces_textOf_infix ⟨[], left, hpieces.symm⟩
  have hrest : rest.pieces = left :=
    pieces_textOf_infix ⟨kept, [], by rw [List.append_nil, hpieces]⟩
  have hwidth : width = part.visibleWidth := by rw [visibleWidth, hpart]; rfl
  have hfits : width ≤ room := Piece.widthOf_fit_le room text.pieces
  have htext : text = part ++ rest := by
    rw [← textOf_pieces text, hpieces, Piece.textOf_append]
    rfl
  have htotal : text.visibleWidth = width + rest.visibleWidth := by
    rw [visibleWidth, hpieces, Piece.widthOf_append, visibleWidth, hrest]
    rfl
  -- if something is left it begins with a piece that does not fit
  have hnext : ∀ piece more, left = piece :: more → room < width + piece.width :=
    fun piece more h => Piece.lt_widthOf_fit h
  have hwhole : part = text ↔ left = [] := by
    calc part = text ↔ part = part ++ rest := by rw [← htext]
      _ ↔ rest = [] := List.self_eq_append_right
      _ ↔ left = [] := by rw [← pieces_eq_nil_iff, hrest]
  refine ⟨⟨rest, htext, by rw [hpart, hrest, hpieces], hwidth, hfits, htotal, ?_, ?_⟩, ?_⟩
  · rw [hwhole]
    constructor
    · intro hnil
      rw [htotal, visibleWidth, hrest, hnil, Piece.widthOf]
      exact hfits
    · intro hle
      cases hleft : left with
      | nil => rfl
      | cons piece more =>
        have hlt := hnext piece more hleft
        rw [htotal, visibleWidth, hrest, hleft, Piece.widthOf] at hle
        omega
  · intro hne
    obtain ⟨piece, more, hleft⟩ := List.exists_cons_of_ne_nil fun hnil => hne (hwhole.2 hnil)
    have hlt := hnext piece more hleft
    have hpos : 0 < piece.width := by omega
    obtain ⟨cluster, rfl⟩ := Piece.exists_eq_cluster hpos
    rw [hleft] at hrest
    obtain ⟨first, others, hclusters, -, hfirst⟩ := exists_clusters_eq_cons hrest
    rw [hfirst cluster rfl] at hclusters
    refine ⟨cluster, more, hrest, by rw [hclusters]; rfl, ?_⟩
    show room - width < (Piece.cluster cluster).width
    omega
  · intro room' hle
    have hlongest := (text.truncate_longestFit room').longest
    refine hlongest part (text.truncate_longestFit room).whole ?_
    rw [← hwidth]
    exact hfits.trans hle

end Text

end LineEditor
