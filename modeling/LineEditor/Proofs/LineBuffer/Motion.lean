import LineEditor.LineBuffer.Motion
import LineEditor.Proofs.LineBuffer.Erasure

/-!
# Motion by clusters, line by line

A motion over lines is done round by round.  A round goes over clusters of the line of the cursor, or from
the edge of the line over one line break.  Either way it does a part of the motion over the whole text, and
motions may be done in parts, so all rounds together do the whole of it.

* The clusters of a line.  `stepBack_eq` and `stepOn_eq` say how many of them are gone over.
* The way and the line.  `prefix_behind` and `prefix_ahead` say that the clusters of the line
  are the first ones of the way; `behind_append_newline` and `ahead_append_newline` what comes after them.
* Parts of a motion.  `moveLeft_line` and `moveRight_line` say that going over clusters of the line is a
  part of the motion, `moveLeft_break` and `moveRight_break` that a line break is one unit of it.
* One round.  `Round` is what a round may do; `round_moveLeftFrom` and `round_moveRightFrom` say that every
  round of a motion does that.
* All rounds.  `rounds_eq`, by induction on the units that are left to do, for any motion in parts; then
  `moveLeftFrom_eq` and `moveRightFrom_eq`.
* The result.  `stored_moveLeft`, `stored_moveRight`, `stored_eraseBefore` and `stored_eraseAfter`.
-/

namespace LineEditor

/-! ## The clusters of a line -/

namespace LineBuffer

/-- As many clusters are gone back over as are asked for. -/
theorem stepBack_eq {amount moved offset : Nat} {clusters : List Text} (hmoved : moved ≤ amount)
    (hoffset : Text.size clusters.flatten ≤ offset) :
    stepBack amount clusters offset moved =
      .ok (offset - Text.size (clusters.take (amount - moved)).flatten,
        moved + (clusters.take (amount - moved)).length) := by
  induction clusters generalizing offset moved with
  | nil => rw [List.take_nil]; rfl
  | cons cluster rest ih =>
    rw [stepBack]
    by_cases hall : moved = amount
    · rw [if_pos hall, hall, Nat.sub_self, List.take_zero]
      rfl
    · rw [List.flatten_cons, Text.size_append] at hoffset
      rw [if_neg hall, minus_eq (by omega), Panic.ok_bind, ih (by omega) (by omega),
        show amount - moved = amount - (moved + 1) + 1 by omega, List.take_succ_cons,
        List.flatten_cons, Text.size_append, List.length_cons, Nat.sub_sub, Nat.add_assoc,
        Nat.add_comm 1]

/-- As many clusters are gone on over as are asked for. -/
theorem stepOn_eq {amount moved : Nat} (hmoved : moved ≤ amount) (clusters : List Text) (offset : Nat) :
    stepOn amount clusters offset moved =
      (offset + Text.size (clusters.take (amount - moved)).flatten,
        moved + (clusters.take (amount - moved)).length) := by
  induction clusters generalizing offset moved with
  | nil => rw [List.take_nil]; rfl
  | cons cluster rest ih =>
    rw [stepOn]
    by_cases hall : moved = amount
    · rw [if_pos hall, hall, Nat.sub_self, List.take_zero]
      rfl
    · rw [if_neg hall, ih (by omega), show amount - moved = amount - (moved + 1) + 1 by omega,
        List.take_succ_cons, List.flatten_cons, Text.size_append, List.length_cons, Nat.add_assoc,
        Nat.add_assoc, Nat.add_comm 1]

end LineBuffer

namespace Buffer

/-! ## The way and the line -/

/-- Behind the line of the cursor there are a line break and the lines above. -/
theorem behind_append_newline {rest : Text} (h : '\r' ∉ rest) (line after : Text) :
    behind { before := rest ++ '\n' :: line, after } true =
      line.clusters.reverse ++ ['\n'] :: rest.clusters.reverse := by
  show (rest ++ '\n' :: line).clusters.reverse = _
  rw [Text.clusters_append_newline h, List.reverse_append, List.reverse_cons, List.append_assoc,
    List.singleton_append]

/-- Ahead of the line of the cursor there are a line break and the lines below. -/
theorem ahead_append_newline {line : Text} (h : '\r' ∉ line) (before rest : Text) :
    ahead { before, after := line ++ '\n' :: rest } true =
      line.clusters ++ ['\n'] :: rest.clusters :=
  Text.clusters_append_newline h rest

theorem prefix_behind {b : Buffer} (h : '\r' ∉ b.before) (across : Bool) :
    b.behind false <+: b.behind across := by
  cases across with
  | false => exact List.prefix_rfl
  | true =>
    obtain ⟨before, after⟩ := b
    by_cases hmem : '\n' ∈ before
    · obtain ⟨rest, hrest⟩ := Text.exists_eq_append_newline hmem
      rw [List.append_assoc, List.singleton_append] at hrest
      have hclean : '\r' ∉ rest := fun hreturn => h (hrest ▸ List.mem_append_left _ hreturn)
      have hway := behind_append_newline hclean before.lastLine after
      rw [← hrest] at hway
      rw [hway]
      exact List.prefix_append _ _
    · refine ⟨[], ?_⟩
      show before.lastLine.clusters.reverse ++ [] = before.clusters.reverse
      rw [List.append_nil, Text.lastLine_eq_self hmem]

theorem prefix_ahead {b : Buffer} (h : '\r' ∉ b.after) (across : Bool) :
    b.ahead false <+: b.ahead across := by
  cases across with
  | false => exact List.prefix_rfl
  | true =>
    obtain ⟨before, after⟩ := b
    by_cases hmem : '\n' ∈ after
    · obtain ⟨line, rest, rfl, hline⟩ := List.eq_append_cons_of_mem hmem
      have hclean : '\r' ∉ line := fun hreturn => h (List.mem_append_left _ hreturn)
      have hfirst : Text.firstLine (line ++ '\n' :: rest) = line := by
        rw [Text.firstLine_append hline, Text.firstLine_newline, List.append_nil]
      rw [ahead_append_newline hclean]
      show (Text.firstLine (line ++ '\n' :: rest)).clusters <+: _
      rw [hfirst]
      exact List.prefix_append _ _
    · refine ⟨[], ?_⟩
      show after.firstLine.clusters ++ [] = after.clusters
      rw [List.append_nil, Text.firstLine_eq_self hmem]

/-! ## Parts of a motion -/

/-- Before the cursor there are as many bytes of the line as its offset says. -/
theorem size_flatten_behind (b : Buffer) : Text.size (b.behind false).flatten = b.cursor.offset := by
  show Text.size b.before.lastLine.clusters.reverse.flatten = b.before.lastLine.size
  rw [Text.size_flatten, List.map_reverse, List.sum_reverse, ← Text.size_flatten, Text.flatten_clusters]

/-- Back over clusters of the line, the cursor stays on the line. -/
theorem cursor_retreat_line (b : Buffer) (n : Nat) :
    (b.retreat ((b.behind false).take n).flatten.length).cursor =
      { b.cursor with
        offset := b.cursor.offset - Text.size ((b.behind false).take n).flatten } := by
  obtain ⟨front, kept, passed, h⟩ := b.exists_partsBack false n
  have hreach : b.before.lastLine = kept ++ passed := h.reach
  have hpassed : '\n' ∉ passed := fun hmem =>
    Text.newline_notMem_lastLine b.before (hreach ▸ List.mem_append_right _ hmem)
  have hsize : Text.size ((b.behind false).take n).flatten = passed.size := by
    rw [← Text.flatten_clusters passed, h.passed_clusters, Text.size_flatten, Text.size_flatten,
      List.map_reverse, List.sum_reverse]
  have hcursor : b.cursor = .endOf (front ++ kept ++ passed) := congrArg Position.endOf h.before
  rw [h.retreat_eq, hsize, hcursor, Position.endOf_append_of_notMem hpassed, Nat.add_sub_cancel]
  rfl

/-- On over clusters of the line, the cursor stays on the line. -/
theorem cursor_advance_line (b : Buffer) (n : Nat) :
    (b.advance ((b.ahead false).take n).flatten.length).cursor =
      { b.cursor with
        offset := b.cursor.offset + Text.size ((b.ahead false).take n).flatten } := by
  have hpassed : '\n' ∉ ((b.ahead false).take n).flatten := fun hmem =>
    Text.newline_notMem_firstLine b.after (Text.mem_of_mem_flatten_take hmem)
  rw [cursor_advance_ahead, Position.endOf_append_of_notMem hpassed]
  rfl

/-- Back over clusters of the line is a part of the motion. -/
theorem moveLeft_line {b : Buffer} (h : '\r' ∉ b.before) (n : Nat) (across : Bool) :
    b.moveLeft ((b.behind false).take n).length across =
      (((b.behind false).take n).length,
        b.retreat ((b.behind false).take n).flatten.length) := by
  have hway := (List.take_prefix n _).trans (prefix_behind h across)
  rw [moveLeft, ← List.prefix_iff_eq_take.1 hway]

/-- On over clusters of the line is a part of the motion. -/
theorem moveRight_line {b : Buffer} (h : '\r' ∉ b.after) (n : Nat) (across : Bool) :
    b.moveRight ((b.ahead false).take n).length across =
      (((b.ahead false).take n).length,
        b.advance ((b.ahead false).take n).flatten.length) := by
  have hway := (List.take_prefix n _).trans (prefix_ahead h across)
  rw [moveRight, ← List.prefix_iff_eq_take.1 hway]

/-- Before the start of a line below the first one there is a line break. -/
theorem exists_before_eq_of_offset_eq_zero {b : Buffer} (hoffset : b.cursor.offset = 0)
    (hline : b.cursor.line ≠ 0) : ∃ rest, b.before = rest ++ ['\n'] := by
  have hlast : b.before.lastLine = [] := Text.size_eq_zero_iff.1 hoffset
  have hmem : '\n' ∈ b.before := List.count_pos_iff.1 (Nat.pos_of_ne_zero hline)
  obtain ⟨rest, hrest⟩ := Text.exists_eq_append_newline hmem
  rw [hlast, List.append_nil] at hrest
  exact ⟨rest, hrest⟩

/-- Back over a line break is one unit. -/
theorem moveLeft_break {rest : Text} (h : '\r' ∉ rest) (after : Text) :
    moveLeft { before := rest ++ ['\n'], after } 1 true =
      (1, { before := rest, after := '\n' :: after }) := by
  rw [moveLeft, behind_append_newline h]
  show (1, retreat { before := rest ++ ['\n'], after } ['\n'].length) = _
  rw [retreat_of_before_eq rfl]
  rfl

/-- After the end of a line above the last one there is a line break. -/
theorem exists_after_eq_of_size_le {b : Buffer} (hoffset : b.currentLine.size ≤ b.cursor.offset)
    (hline : b.cursor.line + 1 ≠ b.lines.length) : ∃ rest, b.after = '\n' :: rest := by
  have hfirst : b.after.firstLine = [] := b.size_currentLine_le_iff.1 hoffset
  obtain ⟨before, after⟩ := b
  cases after with
  | nil =>
    have hend : AtEnd { before, after := [] } true := ahead_eq_nil_iff.1 rfl
    exact absurd (hend.2 rfl) hline
  | cons c rest =>
    by_cases hc : c = '\n'
    · exact ⟨rest, by rw [hc]⟩
    · rw [Text.firstLine_cons hc] at hfirst
      exact absurd hfirst (List.cons_ne_nil _ _)

/-- On over a line break is one unit. -/
theorem moveRight_break (before rest : Text) :
    moveRight { before, after := '\n' :: rest } 1 true =
      (1, { before := before ++ ['\n'], after := rest }) := by
  have hnil : '\r' ∉ ([] : Text) := List.not_mem_nil
  have hway : ahead { before, after := '\n' :: rest } true = ['\n'] :: rest.clusters :=
    ahead_append_newline hnil before rest
  rw [moveRight, hway]
  rfl

/-! ## One round -/

/-- What a loop that has done some units of the motion `f` does in one round, `left` units before its end:
it stops where there is nothing left to do, or it does a part of the motion and goes on. -/
inductive Round (f : Buffer → Nat → Bool → Nat × Buffer)
    (loop : Position → Nat → Except Panic (Nat × Position)) (across : Bool) (left : Nat) (b : Buffer)
    (moved : Nat) : Prop where
  | stop (still : f b left across = (0, b)) (stops : loop b.cursor moved = .ok (moved, b.cursor))
  | part (k : Nat) (b' : Buffer) (pos : 0 < k) (le : k ≤ left) (text : b'.text = b.text)
    (does : f b k across = (k, b')) (goes : loop b.cursor moved = loop b'.cursor (moved + k))

/-- A round back over clusters of the line. -/
theorem moveLeftFrom_line {lines : List Text} {amount moved : Nat} {cursor : Position}
    {line front back : Text} {offset done : Nat} (hmoved : moved < amount) (hcursor : cursor.offset ≠ 0)
    (hline : lineAt lines cursor.line = .ok line)
    (hcut : cutAt line cursor.offset = .ok (front, back))
    (hstep : LineBuffer.stepBack amount front.clusters.reverse cursor.offset moved =
      .ok (offset, done)) (across : Bool) :
    LineBuffer.moveLeftFrom lines amount across cursor moved =
      LineBuffer.moveLeftFrom lines amount across { cursor with offset } done := by
  rw [LineBuffer.moveLeftFrom, dif_pos hmoved, dif_neg hcursor, hline]
  dsimp only
  split
  · next hcut' => rw [hcut] at hcut'; cases hcut'
  · next hcut' =>
    rw [hcut] at hcut'
    cases hcut'
    split
    · next hstep' => rw [hstep] at hstep'; cases hstep'
    · next hstep' =>
      rw [hstep] at hstep'
      cases hstep'
      rfl

/-- A round back over a line break. -/
theorem moveLeftFrom_break {lines : List Text} {amount moved : Nat} {cursor : Position} {line : Text}
    (hmoved : moved < amount) (hcursor : cursor.offset = 0) (hnumber : cursor.line ≠ 0)
    (hline : lineAt lines (cursor.line - 1) = .ok line) :
    LineBuffer.moveLeftFrom lines amount true cursor moved =
      LineBuffer.moveLeftFrom lines amount true { offset := line.size, line := cursor.line - 1 }
        (moved + 1) := by
  rw [LineBuffer.moveLeftFrom, dif_pos hmoved, dif_pos hcursor, if_neg (by simpa using hnumber)]
  dsimp only
  rw [hline, Panic.ok_bind]

/-- A round on over clusters of the line. -/
theorem moveRightFrom_line {lines : List Text} {amount moved : Nat} {cursor : Position}
    {line front back : Text} (hmoved : moved < amount)
    (hline : lineAt lines cursor.line = .ok line) (hcursor : ¬ line.size ≤ cursor.offset)
    (hcut : cutAt line cursor.offset = .ok (front, back)) (across : Bool) :
    LineBuffer.moveRightFrom lines amount across cursor moved =
      LineBuffer.moveRightFrom lines amount across
        { cursor with offset := (LineBuffer.stepOn amount back.clusters cursor.offset moved).1 }
        (LineBuffer.stepOn amount back.clusters cursor.offset moved).2 := by
  rw [LineBuffer.moveRightFrom, dif_pos hmoved, hline]
  dsimp only
  rw [dif_neg hcursor]
  split
  · next hcut' => rw [hcut] at hcut'; cases hcut'
  · next hcut' =>
    rw [hcut] at hcut'
    cases hcut'
    rfl

/-- A round on over a line break. -/
theorem moveRightFrom_break {lines : List Text} {amount moved : Nat} {cursor : Position} {line : Text}
    (hmoved : moved < amount) (hline : lineAt lines cursor.line = .ok line)
    (hcursor : line.size ≤ cursor.offset) (hnumber : cursor.line + 1 ≠ lines.length) :
    LineBuffer.moveRightFrom lines amount true cursor moved =
      LineBuffer.moveRightFrom lines amount true { offset := 0, line := cursor.line + 1 }
        (moved + 1) := by
  rw [LineBuffer.moveRightFrom, dif_pos hmoved, hline]
  dsimp only
  rw [dif_pos hcursor, if_neg (by simpa using hnumber)]

theorem moveLeft_of_take_eq_nil {b : Buffer} {n : Nat} {across : Bool}
    (h : (b.behind across).take n = []) : b.moveLeft n across = (0, b) := by
  rw [moveLeft, h]
  exact congrArg (Prod.mk 0) b.retreat_zero

/-- From the start of a line below the first one a round goes back over a line break. -/
theorem round_moveLeftFrom_break {b : Buffer} (h : '\r' ∉ b.before) {amount moved : Nat}
    (hmoved : moved < amount) (hoffset : b.cursor.offset = 0) (hline : b.cursor.line ≠ 0) :
    Round moveLeft (LineBuffer.moveLeftFrom b.lines amount true) true (amount - moved) b moved := by
  obtain ⟨rest, hrest⟩ := exists_before_eq_of_offset_eq_zero hoffset hline
  let b' : Buffer := { before := rest, after := '\n' :: b.after }
  have htext : b'.text = b.text := by
    rw [Buffer.text, Buffer.text, hrest, List.append_assoc]
    rfl
  have hnumber : b'.cursor.line = b.cursor.line - 1 := by
    show rest.count '\n' = b.before.count '\n' - 1
    rw [hrest, List.count_append, List.count_singleton_self, Nat.add_sub_cancel]
  have hlast : lineAt b.lines (b.cursor.line - 1) = .ok rest.lastLine := by
    have hat := b'.lineAt_cursor
    rw [lines, htext, hnumber, currentLine, Text.firstLine_newline, List.append_nil] at hat
    exact hat
  refine .part 1 b' Nat.one_pos (Nat.sub_pos_of_lt hmoved) htext ?_ ?_
  · obtain ⟨before, after⟩ := b
    obtain rfl : before = rest ++ ['\n'] := hrest
    exact moveLeft_break (fun hmem => h (List.mem_append_left _ hmem)) after
  · rw [moveLeftFrom_break hmoved hoffset hline hlast, ← hnumber]
    rfl

/-- From every other place but the start of the line a round goes back over clusters of the line. -/
theorem round_moveLeftFrom_line {b : Buffer} (h : '\r' ∉ b.before) {amount moved : Nat}
    (hmoved : moved < amount) (hoffset : b.cursor.offset ≠ 0) (across : Bool) :
    Round moveLeft (LineBuffer.moveLeftFrom b.lines amount across) across (amount - moved) b moved := by
  have hpos : 0 < ((b.behind false).take (amount - moved)).length := by
    have hway : b.behind false ≠ [] := fun hnil => hoffset (behind_eq_nil_iff.1 hnil).1
    rw [List.length_take, Nat.lt_min]
    exact ⟨Nat.sub_pos_of_lt hmoved, List.length_pos_iff.2 hway⟩
  refine .part _ _ hpos (List.length_take_le _ _) (b.text_retreat _)
    (moveLeft_line h (amount - moved) across) ?_
  rw [moveLeftFrom_line hmoved hoffset b.lineAt_cursor (cutAt_append _ _)
    (LineBuffer.stepBack_eq (Nat.le_of_lt hmoved) (Nat.le_of_eq b.size_flatten_behind)),
    cursor_retreat_line]
  rfl

theorem round_moveLeftFrom {b : Buffer} (h : '\r' ∉ b.text) {amount moved : Nat}
    (hmoved : moved ≤ amount) (across : Bool) :
    Round moveLeft (LineBuffer.moveLeftFrom b.lines amount across) across (amount - moved) b moved := by
  have hclean : '\r' ∉ b.before := fun hmem => h (List.mem_append_left _ hmem)
  rcases Nat.eq_or_lt_of_le hmoved with hall | hlt
  · refine .stop (moveLeft_of_take_eq_nil (by rw [hall, Nat.sub_self, List.take_zero])) ?_
    rw [LineBuffer.moveLeftFrom, dif_neg (Nat.not_lt_of_le (Nat.le_of_eq hall.symm))]
  by_cases hoffset : b.cursor.offset = 0
  · by_cases hedge : across = true → b.cursor.line = 0
    · have hstart : b.AtStart across := ⟨hoffset, hedge⟩
      refine .stop (moveLeft_of_take_eq_nil (by rw [behind_eq_nil_iff.2 hstart, List.take_nil])) ?_
      rw [LineBuffer.moveLeftFrom, dif_pos hlt, dif_pos hoffset, if_pos]
      cases across <;> simp_all
    · obtain ⟨rfl, hline⟩ : across = true ∧ b.cursor.line ≠ 0 := by simpa using hedge
      exact round_moveLeftFrom_break hclean hlt hoffset hline
  · exact round_moveLeftFrom_line hclean hlt hoffset across

theorem moveRight_of_take_eq_nil {b : Buffer} {n : Nat} {across : Bool}
    (h : (b.ahead across).take n = []) : b.moveRight n across = (0, b) := by
  rw [moveRight, h]
  exact congrArg (Prod.mk 0) b.advance_zero

/-- From the end of a line above the last one a round goes on over a line break. -/
theorem round_moveRightFrom_break {b : Buffer} {amount moved : Nat} (hmoved : moved < amount)
    (hoffset : b.currentLine.size ≤ b.cursor.offset) (hline : b.cursor.line + 1 ≠ b.lines.length) :
    Round moveRight (LineBuffer.moveRightFrom b.lines amount true) true (amount - moved) b moved := by
  obtain ⟨rest, hrest⟩ := exists_after_eq_of_size_le hoffset hline
  let b' : Buffer := { before := b.before ++ ['\n'], after := rest }
  have htext : b'.text = b.text := by
    rw [Buffer.text, Buffer.text, hrest, List.append_assoc]
    rfl
  have hcursor : b'.cursor = { offset := 0, line := b.cursor.line + 1 } :=
    Position.endOf_append_newline b.before []
  refine .part 1 b' Nat.one_pos (Nat.sub_pos_of_lt hmoved) htext ?_ ?_
  · obtain ⟨before, after⟩ := b
    obtain rfl : after = '\n' :: rest := hrest
    exact moveRight_break before rest
  · rw [moveRightFrom_break hmoved b.lineAt_cursor hoffset hline, hcursor]

/-- From every other place but the end of the line a round goes on over clusters of the line. -/
theorem round_moveRightFrom_line {b : Buffer} (h : '\r' ∉ b.after) {amount moved : Nat}
    (hmoved : moved < amount) (hoffset : ¬ b.currentLine.size ≤ b.cursor.offset) (across : Bool) :
    Round moveRight (LineBuffer.moveRightFrom b.lines amount across) across (amount - moved) b moved := by
  have hpos : 0 < ((b.ahead false).take (amount - moved)).length := by
    have hway : b.ahead false ≠ [] := fun hnil =>
      hoffset (Nat.le_of_eq (ahead_eq_nil_iff.1 hnil).1.symm)
    rw [List.length_take, Nat.lt_min]
    exact ⟨Nat.sub_pos_of_lt hmoved, List.length_pos_iff.2 hway⟩
  refine .part _ _ hpos (List.length_take_le _ _) (b.text_advance _)
    (moveRight_line h (amount - moved) across) ?_
  rw [moveRightFrom_line hmoved b.lineAt_cursor hoffset (cutAt_append _ _),
    LineBuffer.stepOn_eq (Nat.le_of_lt hmoved), cursor_advance_line]
  rfl

theorem round_moveRightFrom {b : Buffer} (h : '\r' ∉ b.text) {amount moved : Nat}
    (hmoved : moved ≤ amount) (across : Bool) :
    Round moveRight (LineBuffer.moveRightFrom b.lines amount across) across (amount - moved) b moved := by
  have hclean : '\r' ∉ b.after := fun hmem => h (List.mem_append_right _ hmem)
  rcases Nat.eq_or_lt_of_le hmoved with hall | hlt
  · refine .stop (moveRight_of_take_eq_nil (by rw [hall, Nat.sub_self, List.take_zero])) ?_
    rw [LineBuffer.moveRightFrom, dif_neg (Nat.not_lt_of_le (Nat.le_of_eq hall.symm))]
  by_cases hoffset : b.currentLine.size ≤ b.cursor.offset
  · by_cases hedge : across = true → b.cursor.line + 1 = b.lines.length
    · have hle : b.cursor.offset ≤ b.currentLine.size :=
        (Nat.le_add_right _ _).trans (Nat.le_of_eq (Text.size_append _ _).symm)
      have hend : b.AtEnd across := ⟨Nat.le_antisymm hle hoffset, hedge⟩
      refine .stop (moveRight_of_take_eq_nil (by rw [ahead_eq_nil_iff.2 hend, List.take_nil])) ?_
      rw [LineBuffer.moveRightFrom, dif_pos hlt, b.lineAt_cursor]
      dsimp only
      rw [dif_pos hoffset, if_pos]
      cases across <;> simp_all
    · obtain ⟨rfl, hline⟩ : across = true ∧ b.cursor.line + 1 ≠ b.lines.length := by simpa using hedge
      exact round_moveRightFrom_break hlt hoffset hline
  · exact round_moveRightFrom_line hclean hlt hoffset across

/-! ## All rounds -/

/-- Rounds of a motion that may be done in parts do the whole of it. -/
theorem rounds_eq {f : Buffer → Nat → Bool → Nat × Buffer} {atEdge : Buffer → Bool → Prop}
    (hf : InParts f atEdge) {loop : Position → Nat → Except Panic (Nat × Position)} {across : Bool}
    {amount : Nat} {text : Text}
    (hround : ∀ b moved, b.text = text → moved ≤ amount →
      Round f loop across (amount - moved) b moved)
    {b : Buffer} {moved : Nat} (htext : b.text = text) (hmoved : moved ≤ amount) :
    loop b.cursor moved =
      .ok (moved + (f b (amount - moved) across).1, (f b (amount - moved) across).2.cursor) := by
  induction hleft : amount - moved using Nat.strong_induction_on generalizing b moved with
  | _ left ih =>
    have h := hround b moved htext hmoved
    rw [hleft] at h
    cases h with
    | stop still stops => rw [stops, still, Nat.add_zero]
    | part k b' pos le htext' does goes =>
      have hadd := hf.add b k (left - k) across
      rw [does, Nat.add_sub_cancel' le] at hadd
      rw [goes, ih (left - k) (by omega) (htext'.trans htext) (by omega) (by omega), hadd, Nat.add_assoc]

theorem moveLeftFrom_eq {b : Buffer} (h : '\r' ∉ b.text) (amount : Nat) (across : Bool) :
    LineBuffer.moveLeftFrom b.lines amount across b.cursor 0 =
      .ok ((b.moveLeft amount across).1, (b.moveLeft amount across).2.cursor) := by
  have hround : ∀ b' moved, b'.text = b.text → moved ≤ amount →
      Round moveLeft (LineBuffer.moveLeftFrom b.lines amount across) across (amount - moved) b' moved := by
    intro b' moved htext hmoved
    have hlines : b'.lines = b.lines := congrArg Text.lines htext
    rw [← hlines]
    exact round_moveLeftFrom (by rwa [htext]) hmoved across
  have hloop := rounds_eq inParts_moveLeft hround rfl (Nat.zero_le amount)
  rwa [Nat.zero_add, Nat.sub_zero] at hloop

theorem moveRightFrom_eq {b : Buffer} (h : '\r' ∉ b.text) (amount : Nat) (across : Bool) :
    LineBuffer.moveRightFrom b.lines amount across b.cursor 0 =
      .ok ((b.moveRight amount across).1, (b.moveRight amount across).2.cursor) := by
  have hround : ∀ b' moved, b'.text = b.text → moved ≤ amount →
      Round moveRight (LineBuffer.moveRightFrom b.lines amount across) across (amount - moved) b'
        moved := by
    intro b' moved htext hmoved
    have hlines : b'.lines = b.lines := congrArg Text.lines htext
    rw [← hlines]
    exact round_moveRightFrom (by rwa [htext]) hmoved across
  have hloop := rounds_eq inParts_moveRight hround rfl (Nat.zero_le amount)
  rwa [Nat.zero_add, Nat.sub_zero] at hloop

/-! ## The result -/

/-- Motion back over lines is motion back over the text. -/
theorem stored_moveLeft {b : Buffer} (h : '\r' ∉ b.text) (amount : Nat) (across : Bool) :
    b.stored.moveLeft amount across =
      .ok ((b.moveLeft amount across).1, (b.moveLeft amount across).2.stored) := by
  have htext : (b.moveLeft amount across).2.text = b.text := b.text_retreat _
  rw [LineBuffer.moveLeft, stored_lines, stored_cursor, moveLeftFrom_eq h, Panic.ok_bind,
    stored_eq_of_text htext]
  rfl

/-- Motion on over lines is motion on over the text. -/
theorem stored_moveRight {b : Buffer} (h : '\r' ∉ b.text) (amount : Nat) (across : Bool) :
    b.stored.moveRight amount across =
      .ok ((b.moveRight amount across).1, (b.moveRight amount across).2.stored) := by
  have htext : (b.moveRight amount across).2.text = b.text := b.text_advance _
  rw [LineBuffer.moveRight, stored_lines, stored_cursor, moveRightFrom_eq h, Panic.ok_bind,
    stored_eq_of_text htext]
  rfl

/-- From where a motion back has come, the text that it went over is erased as before the motion. -/
theorem erase_from_retreat {b : Buffer} {n : Nat} (h : n ≤ b.before.length) :
    (b.retreat n).erase (b.retreat n).cursor b.cursor = .ok (b.cutBefore n) := by
  have hlength : (b.before.drop (b.before.length - n)).length = n := by
    rw [List.length_drop]
    omega
  have hcut : (b.retreat n).cutAfter n = b.cutBefore n :=
    Prod.ext (List.take_left' hlength) (cutAfter_retreat h)
  have herase := (b.retreat n).erase_advance n
  rwa [advance_retreat h, hcut] at herase

/-- From where a motion on has come, the text that it went over is erased as before the motion. -/
theorem erase_from_advance {b : Buffer} {n : Nat} (h : n ≤ b.after.length) :
    (b.advance n).erase b.cursor (b.advance n).cursor = .ok (b.cutAfter n) := by
  have hlength : (b.before ++ b.after.take n).length - n = b.before.length := by
    rw [List.length_append, List.length_take_of_le h, Nat.add_sub_cancel]
  have hcut : (b.advance n).cutBefore n = b.cutAfter n := by
    unfold cutBefore cutAfter advance
    dsimp only
    rw [hlength, List.take_left, List.drop_left]
  have herase := (b.advance n).erase_retreat n
  rwa [retreat_advance h, hcut] at herase

/-- Erasure before the cursor, as motion and erasure over lines, is erasure before it in the text. -/
theorem stored_eraseBefore {b : Buffer} (h : '\r' ∉ b.text) (amount : Nat) (across : Bool) :
    b.stored.eraseBefore amount across =
      .ok ((b.eraseBefore amount across).1, (b.eraseBefore amount across).2.stored) := by
  have herase : (b.moveLeft amount across).2.erase (b.moveLeft amount across).2.cursor b.cursor = _ :=
    erase_from_retreat (b.length_behind_le amount across)
  rw [LineBuffer.eraseBefore, stored_moveLeft h, Panic.ok_bind]
  dsimp only
  by_cases hmoved : (b.moveLeft amount across).1 = 0
  · rw [if_neg (by omega), moveLeft_eq_self hmoved, eraseBefore_eq_self hmoved]
    rfl
  · rw [if_pos (by omega), stored_cursor, stored_cursor, stored_erase, herase]
    rfl

/-- Erasure after the cursor, as motion and erasure over lines, is erasure after it in the text. -/
theorem stored_eraseAfter {b : Buffer} (h : '\r' ∉ b.text) (amount : Nat) (across : Bool) :
    b.stored.eraseAfter amount across =
      .ok ((b.eraseAfter amount across).1, (b.eraseAfter amount across).2.stored) := by
  have herase : (b.moveRight amount across).2.erase b.cursor (b.moveRight amount across).2.cursor = _ :=
    erase_from_advance (b.length_ahead_le amount across)
  rw [LineBuffer.eraseAfter, stored_moveRight h, Panic.ok_bind]
  dsimp only
  by_cases hmoved : (b.moveRight amount across).1 = 0
  · rw [if_neg (by omega), moveRight_eq_self hmoved, eraseAfter_eq_self hmoved]
    rfl
  · rw [if_pos (by omega), stored_cursor, stored_cursor, stored_erase, herase]
    rfl

end Buffer

end LineEditor
