import LineEditor.Proofs.Erasure
import LineEditor.Proofs.Clusters

/-!
# Motion and erasure in parts and back again

A motion by clusters looks at the whole way in front of it once.  Done in parts it looks at what is
left of the way each time, and done backwards it looks at the text from the other side.  As a text cut
between two clusters falls into the same clusters on both sides, it comes to the same.

* The way.  `reachBack` and `reachOn` are the texts that a motion may go over; `behind_retreat` and
  `ahead_advance` say which clusters are left of the way, `behind_advance` and `ahead_retreat` which
  clusters are on the way back.  `isParted_moveLeft` and `IsParted.moveRight` say that a motion ends
  between clusters.
* Edges.  `AtStart` and `AtEnd` say that nothing is left of the way.
* Parts.  `InParts` says that an operation may be done in parts; `inParts_of_way` proves it of
  operations that do the clusters of a way one by one, and `motions_in_parts` is the result.
* Back again.  `motions_turn_back` says that motions undo each other, and that erasing backwards is
  moving back and erasing on.
-/

namespace LineEditor.Buffer

/-! ## Two steps -/

theorem retreat_of_before_eq {b : Buffer} {front passed : Text} (h : b.before = front ++ passed) :
    b.retreat passed.length = { before := front, after := passed ++ b.after } := by
  rw [retreat, h, List.length_append, Nat.add_sub_cancel, List.take_left, List.drop_left]

theorem advance_of_after_eq {b : Buffer} {passed rest : Text} (h : b.after = passed ++ rest) :
    b.advance passed.length = { before := b.before ++ passed, after := rest } := by
  rw [advance, h, List.take_left, List.drop_left]

theorem retreat_retreat (b : Buffer) (m n : Nat) : (b.retreat m).retreat n = b.retreat (m + n) := by
  have hbefore : (b.before.take (b.before.length - m)).length = b.before.length - m :=
    List.length_take_of_le (Nat.sub_le _ _)
  unfold retreat
  dsimp only
  rw [hbefore, List.take_take, List.drop_take, Nat.sub_sub, Nat.min_eq_left (by omega)]
  -- the characters passed second stand before those passed first
  have hpassed : (b.before.drop (b.before.length - (m + n))).take
        (b.before.length - m - (b.before.length - (m + n))) ++ b.before.drop (b.before.length - m) =
      b.before.drop (b.before.length - (m + n)) := by
    have hsplit := List.take_append_drop (b.before.length - m - (b.before.length - (m + n)))
      (b.before.drop (b.before.length - (m + n)))
    rw [List.drop_drop] at hsplit
    rwa [show b.before.length - (m + n) + (b.before.length - m - (b.before.length - (m + n))) =
      b.before.length - m by omega] at hsplit
  rw [← List.append_assoc, hpassed]

theorem advance_advance (b : Buffer) (m n : Nat) : (b.advance m).advance n = b.advance (m + n) := by
  unfold advance
  dsimp only
  rw [List.append_assoc, List.drop_drop, ← List.take_add]

theorem cutBefore_cutBefore (b : Buffer) (m n : Nat) :
    ((b.cutBefore m).2.cutBefore n).2 = (b.cutBefore (m + n)).2 := by
  have hbefore : (b.before.take (b.before.length - m)).length = b.before.length - m :=
    List.length_take_of_le (Nat.sub_le _ _)
  unfold cutBefore
  dsimp only
  rw [hbefore, List.take_take, Nat.sub_sub, Nat.min_eq_left (by omega)]

theorem cutAfter_cutAfter (b : Buffer) (m n : Nat) :
    ((b.cutAfter m).2.cutAfter n).2 = (b.cutAfter (m + n)).2 := by
  unfold cutAfter
  dsimp only
  rw [List.drop_drop]

/-- A motion back undoes a motion on over the same characters. -/
theorem retreat_advance {b : Buffer} {n : Nat} (h : n ≤ b.after.length) :
    (b.advance n).retreat n = b := by
  have hlength : (b.before ++ b.after.take n).length - n = b.before.length := by
    rw [List.length_append, List.length_take_of_le h, Nat.add_sub_cancel]
  unfold advance retreat
  dsimp only
  rw [hlength, List.take_left, List.drop_left, List.take_append_drop]

/-- A motion on undoes a motion back over the same characters. -/
theorem advance_retreat {b : Buffer} {n : Nat} (h : n ≤ b.before.length) :
    (b.retreat n).advance n = b := by
  have hlength : (b.before.drop (b.before.length - n)).length = n := by
    rw [List.length_drop]
    omega
  unfold advance retreat
  dsimp only
  rw [List.take_left' hlength, List.drop_left' hlength, List.take_append_drop]

/-- What a motion back has passed is erased on, as it is erased before the motion. -/
theorem cutAfter_retreat {b : Buffer} {n : Nat} (h : n ≤ b.before.length) :
    ((b.retreat n).cutAfter n).2 = (b.cutBefore n).2 := by
  have hlength : (b.before.drop (b.before.length - n)).length = n := by
    rw [List.length_drop]
    omega
  unfold cutAfter retreat cutBefore
  dsimp only
  rw [List.drop_left' hlength]

/-! ## The way -/

/-- The text before the cursor that a motion may go back over. -/
def reachBack (b : Buffer) (across : Bool) : Text :=
  if across then b.before else b.before.lastLine

/-- The text after the cursor that a motion may go on over. -/
def reachOn (b : Buffer) (across : Bool) : Text :=
  if across then b.after else b.after.firstLine

/-- The nearest `n` clusters of the way back make up `passed`, right before the cursor, and those
behind them make up `kept`, which is what is in reach without `passed`. -/
structure PartsBack (b : Buffer) (across : Bool) (n : Nat) (front kept passed : Text) : Prop where
  before : b.before = front ++ kept ++ passed
  reach : b.reachBack across = kept ++ passed
  passed_clusters : passed.clusters = ((b.behind across).take n).reverse
  kept_clusters : kept.clusters = ((b.behind across).drop n).reverse
  parted : Text.joins kept passed = false
  reach_kept : ∀ after, reachBack { before := front ++ kept, after } across = kept

/-- The nearest `n` clusters of the way on make up `passed`, right after the cursor, and those behind
them make up `kept`, which is what is in reach without `passed`. -/
structure PartsOn (b : Buffer) (across : Bool) (n : Nat) (passed kept back : Text) : Prop where
  after : b.after = passed ++ (kept ++ back)
  reach : b.reachOn across = passed ++ kept
  passed_clusters : passed.clusters = (b.ahead across).take n
  kept_clusters : kept.clusters = (b.ahead across).drop n
  parted : Text.joins passed kept = false
  reach_kept : ∀ before, reachOn { before, after := kept ++ back } across = kept

theorem mem_of_mem_reachOn {b : Buffer} {across : Bool} {c : Char} (h : c ∈ b.reachOn across) :
    c ∈ b.after := by
  cases across with
  | true => exact h
  | false => exact (List.takeWhile_prefix _).subset h

theorem exists_partsBack (b : Buffer) (across : Bool) (n : Nat) :
    ∃ front kept passed, b.PartsBack across n front kept passed := by
  have hbehind : b.behind across = (b.reachBack across).clusters.reverse := rfl
  let m := (b.reachBack across).clusters.length - n
  let kept : Text := ((b.reachBack across).clusters.take m).flatten
  let passed : Text := ((b.reachBack across).clusters.drop m).flatten
  have hreach : b.reachBack across = kept ++ passed := by
    rw [← List.flatten_append, List.take_append_drop, Text.flatten_clusters]
  have hpassed : passed.clusters = ((b.behind across).take n).reverse := by
    rw [hbehind, List.take_reverse, List.reverse_reverse]
    exact Text.clusters_flatten_drop _ m
  have hkept : kept.clusters = ((b.behind across).drop n).reverse := by
    rw [hbehind, List.drop_reverse, List.reverse_reverse]
    exact Text.clusters_flatten_take _ m
  have hparted : Text.joins kept passed = false := Text.joins_take_clusters _ m
  cases across with
  | true => exact ⟨[], kept, passed, hreach, hreach, hpassed, hkept, hparted, fun _ => rfl⟩
  | false =>
    obtain ⟨front, hfront, hlast⟩ := b.before.exists_eq_append_lastLine
    have hline : '\n' ∉ kept ++ passed := hreach ▸ Text.newline_notMem_lastLine b.before
    refine ⟨front, kept, passed, ?_, hreach, hpassed, hkept, hparted, fun _ => ?_⟩
    · rw [List.append_assoc, ← hreach]
      exact hfront
    · exact hlast kept fun hmem => hline (List.mem_append_left _ hmem)

theorem exists_partsOn (b : Buffer) (across : Bool) (n : Nat) :
    ∃ passed kept back, b.PartsOn across n passed kept back := by
  let passed : Text := ((b.reachOn across).clusters.take n).flatten
  let kept : Text := ((b.reachOn across).clusters.drop n).flatten
  have hreach : b.reachOn across = passed ++ kept := by
    rw [← List.flatten_append, List.take_append_drop, Text.flatten_clusters]
  have hpassed : passed.clusters = (b.ahead across).take n := Text.clusters_flatten_take _ n
  have hkept : kept.clusters = (b.ahead across).drop n := Text.clusters_flatten_drop _ n
  have hparted : Text.joins passed kept = false := Text.joins_take_clusters _ n
  cases across with
  | true =>
    refine ⟨passed, kept, [], ?_, hreach, hpassed, hkept, hparted, fun _ => List.append_nil kept⟩
    rw [List.append_nil]
    exact hreach
  | false =>
    obtain ⟨back, hback, hfirst⟩ := b.after.exists_eq_firstLine_append
    have hline : '\n' ∉ passed ++ kept := hreach ▸ Text.newline_notMem_firstLine b.after
    refine ⟨passed, kept, back, ?_, hreach, hpassed, hkept, hparted, fun _ => ?_⟩
    · rw [← List.append_assoc, ← hreach]
      exact hback
    · exact hfirst kept fun hmem => hline (List.mem_append_right _ hmem)

section Parts

variable {b : Buffer} {across : Bool} {n : Nat} {front kept passed back : Text}

theorem PartsBack.length_passed (h : b.PartsBack across n front kept passed) :
    ((b.behind across).take n).flatten.length = passed.length := by
  rw [← Text.flatten_clusters passed, h.passed_clusters, Text.length_flatten_reverse]

theorem PartsBack.retreat_eq (h : b.PartsBack across n front kept passed) :
    b.retreat ((b.behind across).take n).flatten.length =
      { before := front ++ kept, after := passed ++ b.after } := by
  rw [h.length_passed, retreat_of_before_eq h.before]

theorem PartsOn.advance_eq (h : b.PartsOn across n passed kept back) :
    b.advance ((b.ahead across).take n).flatten.length =
      { before := b.before ++ passed, after := kept ++ back } := by
  rw [← h.passed_clusters, Text.flatten_clusters, advance_of_after_eq h.after]

/-- Text that does not join what is passed does not join the text in reach. -/
theorem PartsBack.joins_passed (h : b.PartsBack across n front kept passed) {text : Text}
    (hjoins : Text.joins (b.reachBack across) text = false) : Text.joins passed text = false := by
  by_cases hnil : passed = []
  · rw [hnil, Text.joins_nil_left]
  · rwa [h.reach, Text.joins_append_left h.parted hnil] at hjoins

theorem PartsOn.joins_passed (h : b.PartsOn across n passed kept back) {text : Text}
    (hjoins : Text.joins text (b.reachOn across) = false) : Text.joins text passed = false := by
  by_cases hnil : passed = []
  · rw [hnil, Text.joins_nil_right]
  · rwa [h.reach, Text.joins_append_right hnil] at hjoins

end Parts

/-- After a motion back the clusters behind those passed are left of the way. -/
theorem behind_retreat (b : Buffer) (across : Bool) (n : Nat) :
    (b.retreat ((b.behind across).take n).flatten.length).behind across =
      (b.behind across).drop n := by
  obtain ⟨front, kept, passed, h⟩ := b.exists_partsBack across n
  rw [h.retreat_eq]
  show (reachBack _ across).clusters.reverse = _
  rw [h.reach_kept, h.kept_clusters, List.reverse_reverse]

/-- After a motion on the clusters behind those passed are left of the way. -/
theorem ahead_advance (b : Buffer) (across : Bool) (n : Nat) :
    (b.advance ((b.ahead across).take n).flatten.length).ahead across =
      (b.ahead across).drop n := by
  obtain ⟨passed, kept, back, h⟩ := b.exists_partsOn across n
  rw [h.advance_eq]
  show (reachOn _ across).clusters = _
  rw [h.reach_kept, h.kept_clusters]

/-- What is in reach on both sides of a cursor between two clusters does not join. -/
theorem IsParted.joins_reach {b : Buffer} (h : b.IsParted) (hclean : '\r' ∉ b.text)
    (across : Bool) : Text.joins (b.reachBack across) (b.reachOn across) = false := by
  cases across with
  | true => exact h
  | false =>
    exact (Text.joins_lastLine_firstLine (fun hmem => hclean (List.mem_append_left _ hmem)) _).trans h

/-- After a motion on from between two clusters, the clusters passed are the first of the way back. -/
theorem IsParted.behind_advance {b : Buffer} (h : b.IsParted) (hclean : '\r' ∉ b.text)
    (across : Bool) (n : Nat) :
    (b.advance ((b.ahead across).take n).flatten.length).behind across =
      ((b.ahead across).take n).reverse ++ b.behind across := by
  obtain ⟨passed, kept, back, hparts⟩ := b.exists_partsOn across n
  have hreach : reachBack { before := b.before ++ passed, after := kept ++ back } across =
      b.reachBack across ++ passed := by
    cases across with
    | true => rfl
    | false =>
      refine Text.lastLine_append (fun hmem => ?_) b.before
      refine Text.newline_notMem_firstLine b.after ?_
      show '\n' ∈ b.reachOn false
      rw [hparts.reach]
      exact List.mem_append_left _ hmem
  rw [hparts.advance_eq]
  show (reachBack _ across).clusters.reverse = _
  rw [hreach, Text.clusters_append (hparts.joins_passed (h.joins_reach hclean across)),
    List.reverse_append, hparts.passed_clusters]
  rfl

/-- After a motion back from between two clusters, the clusters passed are the first of the way on. -/
theorem IsParted.ahead_retreat {b : Buffer} (h : b.IsParted) (hclean : '\r' ∉ b.text)
    (across : Bool) (n : Nat) :
    (b.retreat ((b.behind across).take n).flatten.length).ahead across =
      ((b.behind across).take n).reverse ++ b.ahead across := by
  obtain ⟨front, kept, passed, hparts⟩ := b.exists_partsBack across n
  have hreach : reachOn { before := front ++ kept, after := passed ++ b.after } across =
      passed ++ b.reachOn across := by
    cases across with
    | true => rfl
    | false =>
      refine Text.firstLine_append (fun hmem => ?_) b.after
      refine Text.newline_notMem_lastLine b.before ?_
      show '\n' ∈ b.reachBack false
      rw [hparts.reach]
      exact List.mem_append_right _ hmem
  rw [hparts.retreat_eq]
  show (reachOn _ across).clusters = _
  rw [hreach, Text.clusters_append (hparts.joins_passed (h.joins_reach hclean across)),
    hparts.passed_clusters]
  rfl

/-- Back over clusters the cursor comes to stand between two of them, wherever it was. -/
theorem isParted_moveLeft {b : Buffer} {n : Nat} (h : (b.moveLeft n true).1 ≠ 0) :
    (b.moveLeft n true).2.IsParted := by
  obtain ⟨front, kept, passed, hparts⟩ := b.exists_partsBack true n
  have hfront : front = [] := by
    have hwhole := hparts.before.symm.trans hparts.reach
    rw [List.append_assoc] at hwhole
    exact List.append_left_eq_self.1 hwhole
  have hne : passed ≠ [] := by
    have hpos := length_passed_pos (b.ne_nil_of_mem_behind true) h
    rw [hparts.length_passed] at hpos
    exact List.length_pos_iff.1 hpos
  show IsParted (b.retreat _)
  rw [hparts.retreat_eq, hfront, IsParted, List.nil_append, Text.joins_append_right hne]
  exact hparts.parted

/-- On over clusters the cursor stays between clusters. -/
theorem IsParted.moveRight {b : Buffer} (h : b.IsParted) (n : Nat) :
    (b.moveRight n true).2.IsParted := by
  obtain ⟨passed, kept, back, hparts⟩ := b.exists_partsOn true n
  have hback : back = [] := by
    have hwhole := hparts.reach.symm.trans hparts.after
    rw [← List.append_assoc] at hwhole
    exact List.self_eq_append_right.1 hwhole
  show IsParted (b.advance _)
  rw [IsParted, hparts.after] at h
  rw [hparts.advance_eq, IsParted]
  refine Text.joins_within h hparts.parted ?_
  rw [hback, Text.joins_nil_right]

/-! ## Edges -/

/-- Whether the cursor is at the start of its line, and with `across` of the text. -/
def AtStart (b : Buffer) (across : Bool) : Prop :=
  b.cursor.offset = 0 ∧ (across = true → b.cursor.line = 0)

/-- Whether the cursor is at the end of its line, and with `across` of the text. -/
def AtEnd (b : Buffer) (across : Bool) : Prop :=
  b.cursor.offset = b.currentLine.size ∧ (across = true → b.cursor.line + 1 = b.lines.length)

/-- Nothing is left of the way back at the start only. -/
theorem behind_eq_nil_iff {b : Buffer} {across : Bool} :
    b.behind across = [] ↔ b.AtStart across := by
  have hoffset : b.cursor.offset = b.before.lastLine.size := rfl
  have hline : b.cursor.line = b.before.count '\n' := rfl
  show (b.reachBack across).clusters.reverse = [] ↔ _
  rw [List.reverse_eq_nil_iff, Text.clusters_eq_nil_iff, AtStart, hoffset, hline, Text.size_eq_zero_iff]
  cases across with
  | false => simp [reachBack]
  | true =>
    simp only [reachBack, if_true, forall_const, List.count_eq_zero]
    constructor
    · rintro h
      rw [h]
      exact ⟨rfl, List.not_mem_nil⟩
    · rintro ⟨hlast, hmem⟩
      rwa [Text.lastLine_eq_self hmem] at hlast

/-- Nothing is left of the way on at the end only. -/
theorem ahead_eq_nil_iff {b : Buffer} {across : Bool} : b.ahead across = [] ↔ b.AtEnd across := by
  have hoffset : b.cursor.offset = b.currentLine.size ↔ b.after.firstLine = [] := by
    show b.before.lastLine.size = (b.before.lastLine ++ b.after.firstLine).size ↔ _
    rw [Text.size_append, Nat.left_eq_add, Text.size_eq_zero_iff]
  have hline : b.cursor.line + 1 = b.lines.length ↔ '\n' ∉ b.after := by
    show b.before.count '\n' + 1 = (b.before ++ b.after).lines.length ↔ _
    rw [Text.length_lines, List.count_append, Nat.add_right_cancel_iff, Nat.left_eq_add,
      List.count_eq_zero]
  show (b.reachOn across).clusters = [] ↔ _
  rw [Text.clusters_eq_nil_iff, AtEnd, hoffset, hline]
  cases across with
  | false => simp [reachOn]
  | true =>
    simp only [reachOn, if_true, forall_const]
    constructor
    · rintro h
      rw [h]
      exact ⟨rfl, List.not_mem_nil⟩
    · rintro ⟨hfirst, hmem⟩
      rwa [Text.firstLine_eq_self hmem] at hfirst

/-! ## Parts -/

/-- The operation `f` may be done in parts.  Done for `m` units and then for `n` it comes to the same
buffer as for `m + n` at once, and the units add up; it does no more units than it is asked for, and
fewer only if it ends `atEdge`. -/
structure InParts (f : Buffer → Nat → Bool → Nat × Buffer) (atEdge : Buffer → Bool → Prop) :
    Prop where
  add : ∀ b m n across,
    let (k, b') := f b m across
    let (l, b'') := f b' n across
    f b (m + n) across = (k + l, b'')
  le : ∀ b n across, (f b n across).1 ≤ n
  edge : ∀ b n across, (f b n across).1 < n → atEdge (f b n across).2 across

/-- An operation that does the clusters of a way one by one may be done in parts. -/
theorem inParts_of_way {f : Buffer → Nat → Bool → Nat × Buffer} {atEdge : Buffer → Bool → Prop}
    {way : Buffer → Bool → List Text} {g : Buffer → Nat → Buffer}
    (hf : ∀ b n across, f b n across =
      (((way b across).take n).length, g b ((way b across).take n).flatten.length))
    (hg : ∀ b m n, g (g b m) n = g b (m + n))
    (hway : ∀ b across n, way (g b ((way b across).take n).flatten.length) across =
      (way b across).drop n)
    (hedge : ∀ b across, way b across = [] → atEdge b across) : InParts f atEdge where
  add b m n across := by
    rw [hf b m]
    dsimp only
    rw [hf _ n, hf b (m + n), hway, hg, List.take_add, List.length_append, List.flatten_append,
      List.length_append]
  le b n across := by
    rw [hf]
    exact List.length_take_le n _
  edge b n across hlt := by
    rw [hf] at hlt ⊢
    refine hedge _ across ?_
    rw [hway, List.drop_eq_nil_iff]
    rw [List.length_take] at hlt
    omega

theorem inParts_moveLeft : InParts moveLeft AtStart :=
  inParts_of_way (fun _ _ _ => rfl) retreat_retreat behind_retreat fun _ _ => behind_eq_nil_iff.1

theorem inParts_moveRight : InParts moveRight AtEnd :=
  inParts_of_way (fun _ _ _ => rfl) advance_advance ahead_advance fun _ _ => ahead_eq_nil_iff.1

theorem inParts_eraseBefore : InParts eraseBefore AtStart :=
  inParts_of_way (g := fun b n => (b.cutBefore n).2) (fun _ _ _ => rfl) cutBefore_cutBefore
    behind_retreat fun _ _ => behind_eq_nil_iff.1

theorem inParts_eraseAfter : InParts eraseAfter AtEnd :=
  inParts_of_way (g := fun b n => (b.cutAfter n).2) (fun _ _ _ => rfl) cutAfter_cutAfter
    ahead_advance fun _ _ => ahead_eq_nil_iff.1

/-- Motion and erasure by clusters may be done in parts, on either side of the cursor, within a line
or across lines; they end short of what they are asked for only at the start or end of the text, or
within a line of the line. -/
theorem motions_in_parts :
    InParts moveLeft AtStart ∧ InParts moveRight AtEnd ∧ InParts eraseBefore AtStart ∧
      InParts eraseAfter AtEnd :=
  ⟨inParts_moveLeft, inParts_moveRight, inParts_eraseBefore, inParts_eraseAfter⟩

/-! ## Back again -/

/-- From between two clusters, a motion back over as many units as a motion on has done comes back to
where that began, and the other way round; and to erase units before the cursor is to go back over
them and erase them from there. -/
theorem motions_turn_back {b : Buffer} (h : b.WellFormed) (hcursor : b.cursor.BetweenClusters b.lines)
    (n : Nat) (across : Bool) :
    let on := b.moveRight n across
    let back := b.moveLeft n across
    let erased := b.eraseBefore n across
    on.2.moveLeft on.1 across = (on.1, b) ∧ back.2.moveRight back.1 across = (back.1, b) ∧
      back.2.eraseAfter erased.1 across = erased := by
  intro on back erased
  have hclean := wellFormed_iff.1 h
  have hparted := (cursor_betweenClusters_iff hclean).1 hcursor
  have hturned : ∀ passed way : List Text, (passed.reverse ++ way).take passed.length = passed.reverse :=
    fun passed way => List.take_left' List.length_reverse
  have hon := hparted.behind_advance hclean across n
  have hback := hparted.ahead_retreat hclean across n
  refine ⟨?_, ?_, ?_⟩
  · unfold on moveRight moveLeft
    dsimp only
    rw [hon, hturned, List.length_reverse, Text.length_flatten_reverse,
      retreat_advance (b.length_ahead_le n across)]
  · unfold back moveRight moveLeft
    dsimp only
    rw [hback, hturned, List.length_reverse, Text.length_flatten_reverse,
      advance_retreat (b.length_behind_le n across)]
  · unfold back erased eraseBefore eraseAfter moveLeft
    dsimp only
    rw [hback, hturned, List.length_reverse, Text.length_flatten_reverse,
      cutAfter_retreat (b.length_behind_le n across)]

/-- From behind an accent over a wide character and two line breaks. -/
theorem motions_turn_back_over_breaks :
    let b : Buffer := { before := "ab\ne\u0301".toList, after := "日\n\nx".toList }
    let on := b.moveRight 3 true
    let back := b.moveLeft 3 true
    let erased := b.eraseBefore 3 true
    b.WellFormed ∧ b.cursor.BetweenClusters b.lines ∧
      on.2.moveLeft on.1 true = (on.1, b) ∧ back.2.moveRight back.1 true = (back.1, b) ∧
      back.2.eraseAfter erased.1 true = erased := by
  intro b on back erased
  have hclean : '\r' ∉ b.text := by decide
  have hwell : b.WellFormed := wellFormed_iff.2 hclean
  have hparted : b.IsParted := by decide +kernel
  have hcursor := (cursor_betweenClusters_iff hclean).2 hparted
  exact ⟨hwell, hcursor, motions_turn_back hwell hcursor 3 true⟩

end LineEditor.Buffer
