import LineEditor.Proofs.EscapeBytes
import Mathlib.Data.PFun

/-!
# Going through a text by byte offsets

`Text.pieces` takes a text apart from the front, and what is left of it is always a text.  A loop that
goes through the same text by byte offsets has to cut it at each of them, and a cut can fail; nor does
it end unless the offsets grow.  The loops here have no answer in both cases.  They answer as the pieces
do, because an escape sequence is cut off where its bytes say, and nothing but the text up to its end
says where that is.

* Completed sequences.  `pieces_append_of_completed` says that a text up to the end of an escape
  sequence with something after it falls into the same pieces whatever comes after it.
* Loops.  `loop` makes rounds until one of them comes to an answer.
* Width.  `measureRound` is a round of the loop that adds up the width of a text.
  `measureRound_of_split?` and `measureRound_of_none` say what it comes to, and `loop_measureRound` what
  the loop does.
* Truncation.  `truncateRound` is a round of the loop that looks for the part of a text that fits.
  `truncateRound_of_split?` and `truncateRound_of_none` say what it comes to, and `loop_truncateRound`
  what the loop does from any place in the text.
* The result.  `escape_delimits_itself` says of every text, with sequences that are malformed or never
  end, where its escape sequences end and that both loops go through it.
-/

namespace LineEditor

/-! ## Completed sequences -/

namespace Text

theorem exists_eq_map_cluster_append {clusters : List Text} {others before after : List Piece}
    {sequence : Text} (h : clusters.map .cluster ++ others = before ++ .escape sequence :: after) :
    ∃ between, before = clusters.map .cluster ++ between ∧
      others = between ++ .escape sequence :: after := by
  induction clusters generalizing before with
  | nil => exact ⟨before, rfl, h⟩
  | cons cluster clusters ih =>
    cases before with
    | nil => exact absurd (List.cons.inj h).1 nofun
    | cons piece before =>
      obtain ⟨rfl, hrest⟩ := List.cons.inj h
      obtain ⟨between, rfl, hothers⟩ := ih hrest
      exact ⟨between, rfl, hothers⟩

/-- An escape sequence with something after it ends where it does whatever comes after it, and the
pieces before it are the same. -/
theorem pieces_append_of_completed {text sequence : Text} {after : List Piece} (before : List Piece)
    (h : text.pieces = before ++ .escape sequence :: after) (hafter : after ≠ []) (right : Text) :
    pieces (Piece.textOf before ++ (sequence ++ right)) =
      before ++ .escape sequence :: right.pieces := by
  induction text using pieces.induct generalizing before with
  | case1 =>
    rw [pieces] at h
    simp at h
  | case2 c rest first others hsplit ih =>
    rw [pieces_of_split? hsplit] at h
    -- some piece comes after the first one, which is completed then
    have hothers : others ≠ [] := by
      intro hnil
      rw [pieces_eq_nil_iff.2 hnil] at h
      cases before with
      | nil => exact hafter (List.cons.inj h).2.symm
      | cons piece before => simpa using (List.cons.inj h).2
    cases before with
    | nil =>
      obtain rfl : first = sequence := Piece.escape.inj (List.cons.inj h).1
      exact pieces_of_split? (Escape.split?_append hsplit hothers right)
    | cons piece before =>
      obtain ⟨rfl, hrest⟩ := List.cons.inj h
      rw [Piece.textOf_cons, List.append_assoc, Piece.text,
        pieces_of_split? (Escape.split?_append hsplit hothers _), ih _ hrest, List.cons_append]
  | case3 c rest hsplit parts ih =>
    rw [pieces_splitEscape] at h
    obtain ⟨between, rfl, hothers⟩ := exists_eq_map_cluster_append h
    have hstretch := escapeChar_notMem_splitEscape (c :: rest)
    -- what comes after the stretch begins as it did, with an escape character
    have hhead : ∀ d ∈ (Piece.textOf between ++ (sequence ++ right)).head?, d = escapeChar := by
      intro d hd
      have hparts : parts.2 = Piece.textOf between ++ (sequence ++ Piece.textOf after) := by
        rw [← textOf_pieces parts.2, hothers, Piece.textOf_append, Piece.textOf_cons, Piece.text]
      have hmem : .escape sequence ∈ parts.2.pieces := by
        rw [hothers]
        exact List.mem_append_right _ List.mem_cons_self
      have hsequence : sequence ≠ [] := text_ne_nil_of_mem_pieces hmem
      obtain ⟨e, more, hcons⟩ := List.exists_cons_of_ne_nil
        (List.append_ne_nil_of_right_ne_nil (Piece.textOf between) hsequence)
      have hfirst : d ∈ (splitEscape (c :: rest)).2.head? := by
        show d ∈ parts.2.head?
        rw [hparts, ← List.append_assoc, hcons]
        rwa [← List.append_assoc, hcons] at hd
      exact eq_escapeChar_of_mem_head?_splitEscape hfirst
    rw [Piece.textOf_append, Piece.textOf_map_cluster, flatten_clusters, List.append_assoc,
      pieces_append hstretch hhead, ih _ hothers, List.append_assoc]

end Text

/-! ## Loops -/

/-- Makes rounds from state to state until one comes to an answer.  There is no answer if a round fails
or if the rounds never end. -/
def loop {State Answer : Type} (round : State → Option (Answer ⊕ State)) : State →. Answer :=
  PFun.fix fun state => round state

section

variable {State Answer : Type} {round : State → Option (Answer ⊕ State)} {state : State}

theorem loop_of_answer {answer : Answer} (h : round state = some (.inl answer)) :
    loop round state = Part.some answer :=
  Part.eq_some_iff.2 (PFun.fix_stop (Part.mem_coe.2 h))

theorem loop_of_next {next : State} (h : round state = some (.inr next)) :
    loop round state = loop round next :=
  PFun.fix_fwd_eq (Part.mem_coe.2 h)

end

namespace Text

/-! ## Width -/

/-- A round over what is left of a text after `width` cells, which cuts off an escape sequence, or the
stretch up to the next one, at its last byte. -/
def measureRound : Text × Nat → Option (Nat ⊕ Text × Nat)
  | (rest, width) =>
    if rest.isEmpty then some (.inl width)
    else
      match Escape.length? rest with
      | some n => do
        let (_, after) ← rest.splitAt? n
        return .inr (after, width)
      | none => do
        let (stretch, after) ← rest.splitAt? (splitEscape rest).1.size
        return .inr (after, width + (stretch.clusters.map clusterWidth).sum)

theorem splitAt?_splitEscape (text : Text) :
    text.splitAt? (splitEscape text).1.size = some (splitEscape text) :=
  splitAt?_eq_some_iff.2 ⟨(splitEscape_append text).symm, rfl⟩

theorem widthOf_map_cluster (clusters : List Text) :
    Piece.widthOf (clusters.map .cluster) = (clusters.map clusterWidth).sum := by
  induction clusters with
  | nil => rfl
  | cons cluster clusters ih =>
    rw [List.map_cons, Piece.widthOf, ih, List.map_cons, List.sum_cons, Piece.width]

/-- A round goes over an escape sequence without a cell. -/
theorem measureRound_of_split? {rest sequence after : Text}
    (h : Escape.split? rest = some (sequence, after)) (width : Nat) :
    measureRound (rest, width) = some (.inr (after, width)) := by
  obtain ⟨htext, hne⟩ := Escape.split?_eq_append h
  have hrest : rest.isEmpty = false := by simp [htext, hne]
  rw [measureRound, hrest, Escape.length?_eq, h]
  dsimp only [Option.map_some]
  rw [Escape.splitAt?_of_split? h]
  rfl

/-- A round goes over a stretch without escape sequences and adds up its clusters. -/
theorem measureRound_of_none {rest : Text} (hne : rest ≠ []) (h : Escape.split? rest = none)
    (width : Nat) :
    measureRound (rest, width) =
      some (.inr ((splitEscape rest).2,
        width + ((splitEscape rest).1.clusters.map clusterWidth).sum)) := by
  have hrest : rest.isEmpty = false := by simp [hne]
  rw [measureRound, hrest, Escape.length?_eq, h]
  dsimp only [Option.map_none]
  rw [splitAt?_splitEscape]
  rfl

/-- The loop ends, every cut on its way succeeds, and it adds up the width of the text. -/
theorem loop_measureRound (text : Text) (width : Nat) :
    loop measureRound (text, width) = Part.some (width + text.visibleWidth) := by
  induction text using pieces.induct generalizing width with
  | case1 =>
    rw [loop_of_answer rfl, visibleWidth, pieces]
    rfl
  | case2 c rest sequence after h ih =>
    rw [loop_of_next (measureRound_of_split? h width), ih, visibleWidth, visibleWidth,
      pieces_of_split? h, Piece.widthOf, Piece.width, Nat.zero_add]
  | case3 c rest h parts ih =>
    rw [loop_of_next (measureRound_of_none (List.cons_ne_nil c rest) h width), ih, visibleWidth,
      visibleWidth, pieces_splitEscape (c :: rest), Piece.widthOf_append, widthOf_map_cluster,
      Nat.add_assoc]

/-! ## Truncation -/

/-- The byte and the width that are reached by going over clusters from byte `pos`, which is `width`
cells into the text, as long as they fit in `room` cells, and whether all of them fit. -/
def passFitting (room pos width : Nat) : List Text → Nat × Nat × Bool
  | [] => (pos, width, true)
  | cluster :: rest =>
    if width + clusterWidth cluster > room then (pos, width, false)
    else passFitting room (pos + cluster.size) (width + clusterWidth cluster) rest

/-- A round from byte `pos` of a text, which is `width` cells into it.  It comes to an answer at the
first cluster that does not fit in `room` cells, or at the end of the text. -/
def truncateRound (text : Text) (room : Nat) : Nat × Nat → Option ((Text × Nat) ⊕ Nat × Nat)
  | (pos, width) =>
    if pos < text.size then do
      let (_, rest) ← text.splitAt? pos
      match Escape.length? rest with
      | some n => return .inr (pos + n, width)
      | none =>
        let (stretch, _) ← rest.splitAt? (splitEscape rest).1.size
        match passFitting room pos width stretch.clusters with
        | (pos, width, true) => return .inr (pos, width)
        | (pos, width, false) =>
          let (part, _) ← text.splitAt? pos
          return .inl (part, width)
    else return .inl (text, width)

/-- Going over clusters stops where `fit` does. -/
theorem passFitting_eq {room width : Nat} (hwidth : width ≤ room) (pos : Nat) (clusters : List Text) :
    passFitting room pos width clusters =
      (pos + (Piece.textOf (Piece.fit (room - width) (clusters.map .cluster)).1).size,
        width + Piece.widthOf (Piece.fit (room - width) (clusters.map .cluster)).1,
        (Piece.fit (room - width) (clusters.map .cluster)).2.isEmpty) := by
  induction clusters generalizing pos width with
  | nil => rfl
  | cons cluster clusters ih =>
    have hpiece : (Piece.cluster cluster).width = clusterWidth cluster := rfl
    rw [passFitting, List.map_cons, Piece.fit, hpiece]
    by_cases hfits : width + clusterWidth cluster ≤ room
    · rw [if_neg (by omega), if_pos (by omega), ih hfits]
      dsimp only
      rw [Piece.textOf_cons, size_append, Piece.text, Piece.widthOf, hpiece, Nat.sub_add_eq]
      simp only [Nat.add_assoc]
    · rw [if_pos (by omega), if_neg (by omega)]
      rfl

section

variable {rest : Text} (left : Text) (room width : Nat)

theorem size_lt_size_append (hne : rest ≠ []) : left.size < size (left ++ rest) := by
  have hpos := size_pos_iff.2 hne
  rw [size_append]
  omega

/-- A round goes over an escape sequence without a cell. -/
theorem truncateRound_of_split? {sequence after : Text}
    (h : Escape.split? rest = some (sequence, after)) :
    truncateRound (left ++ rest) room (left.size, width) =
      some (.inr ((left ++ sequence).size, width)) := by
  obtain ⟨htext, hne⟩ := Escape.split?_eq_append h
  have hrest : rest ≠ [] := by simp [htext, hne]
  rw [truncateRound, if_pos (size_lt_size_append left hrest), splitAt?_append, Option.bind_eq_bind,
    Option.bind_some]
  dsimp only
  rw [Escape.length?_eq, h, size_append]
  rfl

/-- A round goes over a stretch without escape sequences, to its end or to a cluster that does not
fit. -/
theorem truncateRound_of_none (hne : rest ≠ []) (h : Escape.split? rest = none) :
    truncateRound (left ++ rest) room (left.size, width) =
      match passFitting room left.size width (splitEscape rest).1.clusters with
      | (pos, width, true) => some (.inr (pos, width))
      | (pos, width, false) => do
        let (part, _) ← splitAt? (left ++ rest) pos
        return .inl (part, width) := by
  rw [truncateRound, if_pos (size_lt_size_append left hne), splitAt?_append, Option.bind_eq_bind,
    Option.bind_some]
  dsimp only
  rw [Escape.length?_eq, h]
  dsimp only [Option.map_none]
  rw [splitAt?_splitEscape]
  rfl

end

/-- The loop ends, every cut on its way succeeds, and after `left` it keeps what `fit` keeps. -/
theorem loop_truncateRound (left rest : Text) (room width : Nat) (hwidth : width ≤ room) :
    loop (truncateRound (left ++ rest) room) (left.size, width) =
      Part.some (left ++ Piece.textOf (Piece.fit (room - width) rest.pieces).1,
        width + Piece.widthOf (Piece.fit (room - width) rest.pieces).1) := by
  induction rest using pieces.induct generalizing left width with
  | case1 =>
    have hend : truncateRound left room (left.size, width) = some (.inl (left, width)) := by
      rw [truncateRound, if_neg (Nat.lt_irrefl _)]
      rfl
    rw [List.append_nil, loop_of_answer hend, pieces, Piece.fit, Piece.textOf_nil, List.append_nil]
    rfl
  | case2 c rest sequence after h ih =>
    have htext := (Escape.split?_eq_append h).1
    have hzero : Piece.widthOf [.escape sequence] = 0 := rfl
    rw [loop_of_next (truncateRound_of_split? left room width h), pieces_of_split? h, htext,
      ← List.append_assoc, ih _ _ hwidth, ← List.singleton_append,
      Piece.fit_append_of_fits (hzero ▸ Nat.zero_le _), Piece.widthOf_append, hzero, Nat.sub_zero,
      Nat.zero_add, List.append_assoc]
    rfl
  | case3 c rest h parts ih =>
    let stretch : List Piece := parts.1.clusters.map .cluster
    have htext : left ++ c :: rest = left ++ Piece.textOf stretch ++ parts.2 := by
      rw [Piece.textOf_map_cluster, flatten_clusters, List.append_assoc, splitEscape_append]
    have hround := truncateRound_of_none left room width (List.cons_ne_nil c rest) h
    rw [passFitting_eq hwidth] at hround
    rw [pieces_splitEscape]
    by_cases hfits : Piece.widthOf stretch ≤ room - width
    · have hfit : Piece.fit (room - width) stretch = (stretch, []) := by
        have happend := Piece.fit_append_of_fits hfits []
        rwa [List.append_nil, Piece.fit, List.append_nil] at happend
      rw [hfit, ← size_append] at hround
      dsimp only [List.isEmpty_nil] at hround
      rw [loop_of_next hround, htext, ih _ _ (by omega), Piece.fit_append_of_fits hfits,
        Piece.textOf_append, Piece.widthOf_append, List.append_assoc, Nat.sub_sub, Nat.add_assoc]
    · obtain ⟨kept, next, hfit⟩ : ∃ kept next, Piece.fit (room - width) stretch = (kept, next) :=
        ⟨_, _, rfl⟩
      have hkept := Piece.widthOf_fit_le (room - width) stretch
      have hparts := Piece.fit_append (room - width) stretch
      rw [hfit] at hkept hparts
      -- a cluster of the stretch is left, and it does not fit
      obtain ⟨piece, more, rfl⟩ : ∃ piece more, next = piece :: more := by
        refine List.exists_cons_of_ne_nil fun hnil => hfits ?_
        rwa [← hparts, hnil, List.append_nil]
      have hlt := Piece.lt_widthOf_fit (congrArg Prod.snd hfit)
      rw [hfit] at hlt
      have hrow : Piece.fit (room - width) (stretch ++ parts.2.pieces) =
          (kept, piece :: more ++ parts.2.pieces) := by
        rw [← hparts, List.append_assoc]
        refine Piece.fit_append_of_full hkept fun first hfirst => ?_
        obtain rfl : piece = first := by simpa using hfirst
        exact hlt
      have hcut : splitAt? (left ++ c :: rest) (left ++ Piece.textOf kept).size =
          some (left ++ Piece.textOf kept, Piece.textOf (piece :: more) ++ parts.2) := by
        rw [htext, ← hparts, Piece.textOf_append]
        refine splitAt?_eq_some_iff.2 ⟨?_, rfl⟩
        simp only [List.append_assoc]
      rw [hfit, ← size_append] at hround
      dsimp only [List.isEmpty_cons] at hround
      rw [hcut] at hround
      rw [loop_of_answer hround, hrow]

/-! ## The result -/

/-- Escape sequences end by themselves, and a text can be gone through by byte offsets.

A text has the length of an escape sequence in front exactly if it begins with the escape character.
The length is at least one byte and at most those of the text, the text can be cut there, which gives
what `split?` gives, and if it is not the whole text, the sequence has that length whatever comes after
it.  After any escape sequence in a text both sides of a cut fall into the pieces that they had in the
whole, and the left side does so whatever comes after the cut, unless the sequence runs to the end of
the text.  The loops that add up the width and look for the part that fits end on every text without a
cut that fails, and answer `visibleWidth` and `truncate`. -/
theorem escape_delimits_itself (text : Text) :
    (Escape.length? text = none ↔ text.head? ≠ some escapeChar) ∧
    (∀ n, Escape.length? text = some n →
      1 ≤ n ∧ n ≤ text.size ∧
        ∃ sequence after, text.splitAt? n = some (sequence, after) ∧
          Escape.split? text = some (sequence, after) ∧
          (n < text.size → ∀ right, Escape.length? (sequence ++ right) = some n)) ∧
    (∀ before sequence after, text.pieces = before ++ .escape sequence :: after →
      let left := Piece.textOf before ++ sequence
      left.pieces = before ++ [.escape sequence] ∧ pieces (Piece.textOf after) = after ∧
        (after ≠ [] → ∀ right, pieces (left ++ right) = left.pieces ++ right.pieces)) ∧
    loop measureRound (text, 0) = Part.some text.visibleWidth ∧
    ∀ room, loop (truncateRound text room) (0, 0) = Part.some (text.truncate room) := by
  refine ⟨Escape.length?_eq_none_iff text, ?_, ?_, ?_, ?_⟩
  · intro n h
    obtain ⟨sequence, after, hsplit, rfl, hcut⟩ := Escape.splitAt?_of_length? h
    obtain ⟨htext, hne⟩ := Escape.split?_eq_append hsplit
    refine ⟨size_pos_iff.2 hne, le_size_of_splitAt? hcut, sequence, after, hcut, hsplit, ?_⟩
    intro hlt right
    have hafter : after ≠ [] := by
      intro hnil
      rw [htext, hnil, List.append_nil] at hlt
      exact Nat.lt_irrefl _ hlt
    exact Escape.length?_append hsplit hafter right
  · intro before sequence after h left
    have hleft : left.pieces = before ++ [.escape sequence] := by
      have hinfix : before ++ [.escape sequence] <:+: text.pieces :=
        ⟨[], after, by rw [h, List.nil_append, List.append_assoc, List.singleton_append]⟩
      have hpieces := pieces_textOf_infix hinfix
      rwa [Piece.textOf_append, Piece.textOf_cons, Piece.textOf_nil, List.append_nil] at hpieces
    have hright : pieces (Piece.textOf after) = after := by
      have hinfix : after <:+: text.pieces :=
        ⟨before ++ [.escape sequence], [], by
          rw [h, List.append_nil, List.append_assoc, List.singleton_append]⟩
      exact pieces_textOf_infix hinfix
    refine ⟨hleft, hright, fun hafter right => ?_⟩
    have hpieces := pieces_append_of_completed before h hafter right
    rw [hleft, List.append_assoc, List.append_assoc, hpieces]
    rfl
  · rw [loop_measureRound, Nat.zero_add]
  · intro room
    have h := loop_truncateRound [] text room 0 (Nat.zero_le room)
    rw [List.nil_append, size_nil, Nat.sub_zero, List.nil_append, Nat.zero_add] at h
    exact h

end Text

end LineEditor
