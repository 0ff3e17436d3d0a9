import LineEditor.Proofs.Buffer
import Mathlib.Order.Bounds.Defs
import Mathlib.Order.Monotone.Defs

/-!
# Positions put back into the text

A position from outside is put back to the last line, to the end of its line, and to the start of the
cluster that it falls in.

* Starts of clusters.  `clusterFloor_le` and `clusterFloor_mono` order them, and
  `clusterFloor_flatten` says that the end of some clusters is the start of the next.
* Positions.  `Position.BetweenClusters` says that a position lies between two clusters of its line;
  `clamp_eq_self_iff` says that these are the positions that are left where they are, and
  `offset_le_clamp_iff` to which of them another one is put back.
* Order.  `Buffer.Crosses` says when two positions pass each other, and `clamp_le_clamp_iff` that
  positions keep their order otherwise; those of the text always do (`clamp_le_clamp`).
* The text around a position (`before?_clamp_eq_iff`, `after?_clamp_eq_iff`).
* The result.  `clamp_isGreatest` says which place a position is put back to.
-/

namespace LineEditor

/-- Lines have the position `p`, and it lies between two clusters of its line or at one of its
ends. -/
def Position.BetweenClusters (p : Position) (lines : List Text) : Prop :=
  ∃ line, lines[p.line]? = some line ∧ ∃ n, Text.size (line.clusters.take n).flatten = p.offset

theorem Position.BetweenClusters.offset_le {p : Position} {lines : List Text} {line : Text}
    (h : p.BetweenClusters lines) (hline : lines[p.line]? = some line) : p.offset ≤ line.size := by
  obtain ⟨line', hline', n, hn⟩ := h
  cases hline'.symm.trans hline
  have hsize := congrArg (Text.size ∘ List.flatten) (List.take_append_drop n line.clusters)
  simp only [Function.comp_apply, List.flatten_append, Text.size_append,
    Text.flatten_clusters] at hsize
  omega

namespace Buffer

/-! ## Starts of clusters -/

theorem clusterFloor_le (offset : Nat) (clusters : List Text) :
    clusterFloor offset clusters ≤ offset := by
  induction clusters generalizing offset with
  | nil => exact Nat.zero_le _
  | cons cluster rest ih =>
    rw [clusterFloor]
    split
    · next hle =>
      have := ih (offset - cluster.size)
      omega
    · exact Nat.zero_le _

theorem clusterFloor_mono {offset offset' : Nat} (h : offset ≤ offset') (clusters : List Text) :
    clusterFloor offset clusters ≤ clusterFloor offset' clusters := by
  induction clusters generalizing offset offset' with
  | nil => exact Nat.le_refl _
  | cons cluster rest ih =>
    rw [clusterFloor, clusterFloor]
    by_cases hle : cluster.size ≤ offset
    · have hrest : clusterFloor (offset - cluster.size) rest ≤
          clusterFloor (offset' - cluster.size) rest := ih (by omega)
      rw [if_pos hle, if_pos (by omega)]
      omega
    · rw [if_neg hle]
      exact Nat.zero_le _

/-- The end of some clusters is the start of the next cluster. -/
theorem clusterFloor_flatten (clusters : List Text) (n : Nat) :
    clusterFloor (Text.size (clusters.take n).flatten) clusters =
      Text.size (clusters.take n).flatten := by
  induction clusters generalizing n with
  | nil => rw [List.take_nil]; rfl
  | cons cluster rest ih =>
    cases n with
    | zero => exact Nat.le_zero.1 (clusterFloor_le 0 _)
    | succ n =>
      rw [List.take_succ_cons, List.flatten_cons, Text.size_append, clusterFloor,
        if_pos (Nat.le_add_right _ _), Nat.add_sub_cancel_left, ih]

/-! ## Positions -/

variable {b : Buffer} {p q : Position}

/-- The offset that a position is put back to, on the line that it is put back to. -/
theorem offset_clamp {line : Text} (h : b.lines[(b.clamp p).line]? = some line) :
    (b.clamp p).offset = clusterFloor (min p.offset line.size) line.clusters := by
  have hgetD : b.lines.getD (min p.line (b.lines.length - 1)) [] = line := by
    rw [List.getD_eq_getElem?_getD]
    exact congrArg (Option.getD · []) h
  rw [clamp, clampIn, hgetD]

/-- On an existing line only the offset is put right. -/
theorem clamp_eq_of_getElem? {line : Text} (h : b.lines[p.line]? = some line) :
    b.clamp p =
      { offset := clusterFloor (min p.offset line.size) line.clusters, line := p.line } := by
  have hlt : p.line < b.lines.length := (List.getElem?_eq_some_iff.1 h).1
  have hmin : (b.clamp p).line = p.line := by
    show min p.line (b.lines.length - 1) = p.line
    omega
  rw [← offset_clamp (hmin.symm ▸ h), ← hmin]

/-- A position is put back between two clusters. -/
theorem clamp_betweenClusters (b : Buffer) (p : Position) :
    (b.clamp p).BetweenClusters b.lines := by
  obtain ⟨line, hline, -⟩ := b.clamp_inLines p
  obtain ⟨n, hn⟩ := exists_clusterFloor_eq (min p.offset line.size) line.clusters
  exact ⟨line, hline, n, by rw [← hn, offset_clamp hline]⟩

/-- The positions between two clusters are left where they are, and no others. -/
theorem clamp_eq_self_iff : b.clamp p = p ↔ p.BetweenClusters b.lines := by
  constructor
  · intro h
    have hbetween := b.clamp_betweenClusters p
    rwa [h] at hbetween
  · intro h
    obtain ⟨line, hline, n, hn⟩ := id h
    rw [clamp_eq_of_getElem? hline, Nat.min_eq_left (h.offset_le hline), ← hn,
      clusterFloor_flatten, hn]

/-- Of the places between two clusters of its line, a position is put back to the last one that is
not after it. -/
theorem offset_le_clamp_iff {r : Position} (hr : r.BetweenClusters b.lines)
    (hline : r.line = (b.clamp p).line) :
    r.offset ≤ (b.clamp p).offset ↔ r.offset ≤ p.offset := by
  obtain ⟨line, hget, n, hn⟩ := id hr
  have hsize : r.offset ≤ line.size := hr.offset_le hget
  rw [offset_clamp (hline ▸ hget)]
  constructor
  · intro h
    have hle := clusterFloor_le (min p.offset line.size) line.clusters
    omega
  · intro h
    calc r.offset = clusterFloor r.offset line.clusters := by rw [← hn, clusterFloor_flatten]
      _ ≤ clusterFloor (min p.offset line.size) line.clusters := clusterFloor_mono (by omega) _

theorem offset_clamp_le (b : Buffer) (p : Position) : (b.clamp p).offset ≤ p.offset :=
  (offset_le_clamp_iff (b.clamp_betweenClusters p) rfl).1 (Nat.le_refl _)

/-! ## Order -/

/-- Put back into the text, the positions `p` and `q` pass each other: `p` is on the last line or
below it, `q` is on a line below that of `p`, and between two clusters of the last line there is a
place that is after the offset of `q` and not after that of `p`. -/
structure Crosses (b : Buffer) (p q : Position) : Prop where
  last : b.lines.length ≤ p.line + 1
  below : p.line < q.line
  place : ∃ r : Position, r.BetweenClusters b.lines ∧ r.line + 1 = b.lines.length ∧
    q.offset < r.offset ∧ r.offset ≤ p.offset

/-- Positions keep their order unless they pass each other.  A line that is not there is put back to
the last one, and the offset stays what it was; so the order of the offsets counts then. -/
theorem clamp_le_clamp_iff (hpq : p ≤ q) : b.clamp p ≤ b.clamp q ↔ ¬ b.Crosses p q := by
  have hlines : 0 < b.lines.length := List.length_pos_iff.2 b.text.lines_ne_nil
  have hp : (b.clamp p).line = min p.line (b.lines.length - 1) := rfl
  have hq : (b.clamp q).line = min q.line (b.lines.length - 1) := rfl
  -- on the same line the order is that of the offset that `p` is put back to and that of `q`
  have hsame (hline : (b.clamp p).line = (b.clamp q).line) :
      b.clamp p ≤ b.clamp q ↔ (b.clamp p).offset ≤ q.offset := by
    rw [← offset_le_clamp_iff (b.clamp_betweenClusters p) hline]
    constructor
    · rintro (hlt | ⟨-, hle⟩)
      · omega
      · exact hle
    · exact fun hle => .inr ⟨hline, hle⟩
  have hfloor : (b.clamp p).offset ≤ p.offset := b.offset_clamp_le p
  rcases hpq with hlt | ⟨heq, hle⟩
  · by_cases hlast : b.lines.length ≤ p.line + 1
    · rw [hsame (by omega)]
      constructor
      · rintro hle ⟨-, -, r, hr, hline, hafter, hbefore⟩
        have := (offset_le_clamp_iff hr (by omega)).2 hbefore
        omega
      · intro hcross
        by_contra hgt
        exact hcross ⟨hlast, hlt, b.clamp p, b.clamp_betweenClusters p, by omega, by omega, hfloor⟩
    · have hbelow : b.clamp p ≤ b.clamp q := .inl (by omega)
      exact ⟨fun _ hcross => hlast hcross.last, fun _ => hbelow⟩
  · have hkept : b.clamp p ≤ b.clamp q := (hsame (by omega)).2 (hfloor.trans hle)
    exact ⟨fun _ hcross => absurd hcross.below (by omega), fun _ => hkept⟩

/-- Positions of the text keep their order. -/
theorem clamp_le_clamp (hq : q.InLines b.lines) (hpq : p ≤ q) : b.clamp p ≤ b.clamp q := by
  refine (clamp_le_clamp_iff hpq).2 fun hcross => ?_
  obtain ⟨line, hline, -⟩ := hq
  have hlt := (List.getElem?_eq_some_iff.1 hline).1
  have hlast := hcross.last
  have hbelow := hcross.below
  omega

/-! ## The text around a position -/

/-- Putting a position back keeps the text before it only between two clusters. -/
theorem before?_clamp_eq_iff (hp : p.InLines b.lines) :
    b.text.before? (b.clamp p) = b.text.before? p ↔ p.BetweenClusters b.lines := by
  obtain ⟨n, hn⟩ := Option.isSome_iff_exists.1 (Text.offset?_isSome_iff.2 hp)
  have hbefore : b.text.before? p = some (b.text.take n) := by
    rw [Text.before?, hn, Option.map_some]
  constructor
  · intro h
    rw [hbefore] at h
    exact clamp_eq_self_iff.1 (Text.eq_of_before?_eq h hbefore)
  · intro h
    rw [clamp_eq_self_iff.2 h]

/-- Putting a position back keeps the text after it only between two clusters. -/
theorem after?_clamp_eq_iff (hp : p.InLines b.lines) :
    b.text.after? (b.clamp p) = b.text.after? p ↔ p.BetweenClusters b.lines := by
  obtain ⟨n, hn⟩ := Option.isSome_iff_exists.1 (Text.offset?_isSome_iff.2 hp)
  have hafter : b.text.after? p = some (b.text.drop n) := by
    rw [Text.after?, hn, Option.map_some]
  constructor
  · intro h
    rw [hafter] at h
    exact clamp_eq_self_iff.1 (Text.eq_of_after?_eq h hafter)
  · intro h
    rw [clamp_eq_self_iff.2 h]

/-! ## The result -/

/-- To set the cursor somewhere puts it at the place that this is put back to. -/
theorem place_clamp (b : Buffer) (p : Position) : b.place (b.clamp p) = .ok (b.setCursor p) := by
  obtain ⟨n, hn⟩ := Option.isSome_iff_exists.1 (Text.offset?_isSome_iff.2 (b.clamp_inLines p))
  rw [place, setCursor, hn]

/-- A position is put back to the line with its number or to the last line, and there to the last place
between two clusters that is neither after its offset nor after the end of the line.  That is a position
of the text, it is where the cursor comes if it is set to the position, and to put it back once more
changes nothing.  Left where they are are just the positions between two clusters, and on a line a
greater offset is never put back to a smaller one. -/
theorem clamp_isGreatest (b : Buffer) (p : Position) :
    let last := b.lines.length - 1
    let q := b.clamp p
    (∃ line, b.lines[min p.line last]? = some line ∧ q.line = min p.line last ∧
        IsGreatest {offset | Position.BetweenClusters { offset, line := q.line } b.lines ∧
          offset ≤ min p.offset line.size} q.offset) ∧
      b.isValid q = true ∧ (b.setCursor p).cursor = q ∧ b.clamp q = q ∧
      (b.clamp p = p ↔ p.BetweenClusters b.lines) ∧
      ∀ line, Monotone fun offset => (b.clamp { offset, line }).offset := by
  intro last q
  have hbetween : q.BetweenClusters b.lines := b.clamp_betweenClusters p
  refine ⟨?_, (b.isValid_iff q).2 (b.clamp_inLines p), (of_place (b.place_clamp p)).2,
    clamp_eq_self_iff.2 hbetween, clamp_eq_self_iff, fun line offset offset' hle => ?_⟩
  · obtain ⟨line, hline, -⟩ := id hbetween
    refine ⟨line, hline, rfl, ⟨hbetween, ?_⟩, ?_⟩
    · show q.offset ≤ _
      rw [show q.offset = _ from offset_clamp hline]
      exact clusterFloor_le _ _
    · rintro offset ⟨hoffset, hle⟩
      exact (offset_le_clamp_iff hoffset rfl).2 (hle.trans (Nat.min_le_left _ _))
  · have hplace := b.clamp_betweenClusters { offset, line }
    have hback := b.offset_clamp_le { offset, line }
    exact (offset_le_clamp_iff (p := { offset := offset', line }) hplace rfl).2 (hback.trans hle)

end Buffer

end LineEditor
