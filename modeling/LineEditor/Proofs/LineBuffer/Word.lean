import LineEditor.LineBuffer.Word
import LineEditor.Proofs.LineBuffer.Motion

/-!
# Motion by words, line by line

Over lines a motion by words begins anew on each of them, and counts the end of a line if the cursor was
not there.  Over the text it goes on through the line breaks, and counts a line break if the line has
anything on it.  On every line both meet the same stops.

* One line.  `Scanned` is what the scan of a line does, seen from the scan of the whole way, of which the
  line is the first part; `scanned_scanLine` says that it always does that.
* Its edge.  `toEdge_toBack` and `toEdge_toFront` say that the edge of a line is a stop if the scan has gone
  over anything.
* One round.  `WordRound` is what a motion does on the line of the cursor, its edge included;
  `wordRound_wordEndFrom` and `wordRound_wordStartFrom` say that every round of a motion does that.
* All lines.  `wordEndFrom_eq` and `wordStartFrom_eq`, by induction on the lines of the way.
* The result.  `stored_moveToWordEnd` and `stored_moveToWordStart`.
-/

namespace LineEditor.Buffer

/-! ## One line -/

/-- Over a cluster that is no stop the scan of the way goes on. -/
theorem wordScan_cons {cls : WordClass} {inWord started : Bool} {cluster : Text} {n : Nat}
    (hn : 0 < n) (hstop : isWordStop cls inWord started cluster = false) (rest : List Text) :
    wordScan cls (cluster :: rest) inWord started n =
      ((wordScan cls rest (cls.contains cluster) (cluster ≠ ['\n']) n).1,
        cluster.length + (wordScan cls rest (cls.contains cluster) (cluster ≠ ['\n']) n).2) := by
  obtain ⟨n, rfl⟩ := Nat.exists_eq_succ_of_ne_zero (Nat.ne_of_gt hn)
  rw [wordScan, hstop]
  rfl

/-- So it does over a stop that is not the last one asked for. -/
theorem wordScan_cons_of_stop {cls : WordClass} {inWord started : Bool} {cluster : Text} {n : Nat}
    (hn : 0 < n) (hstop : isWordStop cls inWord started cluster = true) (rest : List Text) :
    wordScan cls (cluster :: rest) inWord started (n + 1) =
      ((wordScan cls rest (cls.contains cluster) (cluster ≠ ['\n']) n).1 + 1,
        cluster.length + (wordScan cls rest (cls.contains cluster) (cluster ≠ ['\n']) n).2) := by
  rw [wordScan, hstop]
  simp [Nat.ne_of_gt hn]

/-- The last stop that is asked for ends the scan of the way. -/
theorem wordScan_cons_last {cls : WordClass} {inWord started : Bool} {cluster : Text}
    (hstop : isWordStop cls inWord started cluster = true) (rest : List Text) :
    wordScan cls (cluster :: rest) inWord started 1 = (1, 0) := by
  rw [wordScan, hstop]
  rfl

/-- What the scan of a line does, seen from the scan of a way that begins with the line.  It has either
come to the last stop of the way, which is on the line, or past the line.  `spot` says where the cursor is
after so many bytes of the line. -/
inductive Scanned (cls : WordClass) (spot : Nat → Nat) (clusters : List Text) (inWord started : Bool)
    (scanned : Nat) (motion : WordMotion) (result : Except Panic (Bool × WordMotion)) : Prop where
  | found (i : Nat) (lt : i < clusters.length)
      (comes : result = .ok (true, {
        offset := spot (scanned + Text.size (clusters.take i).flatten)
        remaining := 0
        moved := motion.moved + motion.remaining }))
      (way : ∀ rest, wordScan cls (clusters ++ rest) inWord started motion.remaining =
        (motion.remaining, (clusters.take i).flatten.length))
  | passed (met offset : Nat) (lt : met < motion.remaining)
      (place : offset = motion.offset ∨ ∃ i < clusters.length,
        offset = spot (scanned + Text.size (clusters.take i).flatten))
      (comes : result = .ok (false, {
        offset, remaining := motion.remaining - met, moved := motion.moved + met }))
      (way : ∀ rest, ∃ inWord', wordScan cls (clusters ++ rest) inWord started motion.remaining =
        (met + (wordScan cls rest inWord' (started || clusters ≠ []) (motion.remaining - met)).1,
          clusters.flatten.length +
            (wordScan cls rest inWord' (started || clusters ≠ []) (motion.remaining - met)).2))

section Scanned

variable {cls : WordClass} {spot : Nat → Nat} {cluster : Text} {clusters : List Text}
  {inWord started : Bool} {scanned : Nat} {motion : WordMotion}
  {result : Except Panic (Bool × WordMotion)}

theorem add_size_flatten_take (scanned i : Nat) (cluster : Text) (clusters : List Text) :
    scanned + cluster.size + Text.size (clusters.take i).flatten =
      scanned + Text.size ((cluster :: clusters).take (i + 1)).flatten := by
  rw [List.take_succ_cons, List.flatten_cons, Text.size_append, Nat.add_assoc]

/-- A cluster in front that is no stop. -/
theorem Scanned.cons (hcluster : cluster ≠ ['\n']) (hn : 0 < motion.remaining)
    (hstop : (inWord && !cls.contains cluster) = false)
    (h : Scanned cls spot clusters (cls.contains cluster) true (scanned + cluster.size) motion result) :
    Scanned cls spot (cluster :: clusters) inWord started scanned motion result := by
  have hgoes : isWordStop cls inWord started cluster = false := by
    rw [isWordStop, if_neg hcluster, hstop]
  have hway (rest : List Text) := wordScan_cons hn hgoes (clusters ++ rest)
  rw [decide_eq_true hcluster] at hway
  cases h with
  | found i lt comes way =>
    refine .found (i + 1) (Nat.succ_lt_succ lt) ?_ fun rest => ?_
    · rw [comes, add_size_flatten_take]
    · rw [List.cons_append, hway, way, List.take_succ_cons, List.flatten_cons, List.length_append]
  | passed met offset lt place comes way =>
    refine .passed met offset lt (place.imp_right ?_) comes fun rest => ?_
    · rintro ⟨i, hi, rfl⟩
      exact ⟨i + 1, Nat.succ_lt_succ hi, by rw [add_size_flatten_take]⟩
    · obtain ⟨inWord', hrest⟩ := way rest
      refine ⟨inWord', ?_⟩
      rw [List.cons_append, hway, hrest, List.flatten_cons, List.length_append, Nat.add_assoc,
        decide_eq_true (List.cons_ne_nil _ _), Bool.or_true, Bool.true_or]

/-- A cluster in front that is a stop, but not the last one. -/
theorem Scanned.cons_of_stop (hcluster : cluster ≠ ['\n']) {n : Nat} (hn : 0 < n)
    (hmotion : motion.remaining = n + 1) (hstop : (inWord && !cls.contains cluster) = true)
    (h : Scanned cls spot clusters (cls.contains cluster) true (scanned + cluster.size)
      { offset := spot scanned, remaining := n, moved := motion.moved + 1 } result) :
    Scanned cls spot (cluster :: clusters) inWord started scanned motion result := by
  have hstops : isWordStop cls inWord started cluster = true := by
    rw [isWordStop, if_neg hcluster, hstop]
  have hway (rest : List Text) := wordScan_cons_of_stop hn hstops (clusters ++ rest)
  rw [decide_eq_true hcluster, ← hmotion] at hway
  cases h with
  | found i lt comes way =>
    refine .found (i + 1) (Nat.succ_lt_succ lt) ?_ fun rest => ?_
    · rw [comes, add_size_flatten_take, hmotion, Nat.add_assoc, Nat.add_comm 1 n]
    · rw [List.cons_append, hway, way, List.take_succ_cons, List.flatten_cons, List.length_append,
        hmotion]
  | passed met offset lt place comes way =>
    refine .passed (met + 1) offset (by rw [hmotion]; exact Nat.succ_lt_succ lt) (.inr ?_) ?_
      fun rest => ?_
    · rcases place with rfl | ⟨i, hi, rfl⟩
      · exact ⟨0, Nat.succ_pos _, rfl⟩
      · exact ⟨i + 1, Nat.succ_lt_succ hi, by rw [add_size_flatten_take]⟩
    · rw [comes, hmotion, Nat.add_sub_add_right, Nat.add_assoc, Nat.add_comm 1 met]
    · obtain ⟨inWord', hrest⟩ := way rest
      refine ⟨inWord', ?_⟩
      rw [List.cons_append, hway, hrest, List.flatten_cons, List.length_append,
        decide_eq_true (List.cons_ne_nil _ _), Bool.or_true, Bool.true_or, hmotion,
        Nat.add_sub_add_right, Nat.add_right_comm met 1, Nat.add_assoc (List.length cluster)]

/-- The scan of a line is a part of the scan of the way. -/
theorem scanned_scanLine {place : Nat → Except Panic Nat} (hclusters : ['\n'] ∉ clusters)
    (hn : 0 < motion.remaining)
    (hplace : ∀ n, n ≤ scanned + Text.size clusters.flatten → place n = .ok (spot n)) :
    Scanned cls spot clusters inWord started scanned motion
      (LineBuffer.scanLine cls place clusters inWord scanned motion) := by
  induction clusters generalizing inWord started scanned motion with
  | nil =>
    refine .passed 0 motion.offset hn (.inl rfl) rfl fun rest => ⟨inWord, ?_⟩
    simp
  | cons cluster clusters ih =>
    rw [List.mem_cons, not_or] at hclusters
    have hcluster : cluster ≠ ['\n'] := Ne.symm hclusters.1
    have hplace' : ∀ n, n ≤ scanned + cluster.size + Text.size clusters.flatten →
        place n = .ok (spot n) := by
      intro n hle
      refine hplace n ?_
      rwa [List.flatten_cons, Text.size_append, ← Nat.add_assoc]
    rw [LineBuffer.scanLine]
    by_cases hcls : cls.contains cluster = true
    · rw [if_pos hcls]
      have hrest : Scanned cls spot clusters true true (scanned + cluster.size) motion _ :=
        ih hclusters.2 hn hplace'
      exact Scanned.cons hcluster hn (by rw [hcls, Bool.not_true, Bool.and_false]) (by rwa [hcls])
    · rw [Bool.not_eq_true] at hcls
      rw [hcls, if_neg Bool.false_ne_true]
      cases inWord with
      | false =>
        have hrest : Scanned cls spot clusters false true (scanned + cluster.size) motion _ :=
          ih hclusters.2 hn hplace'
        exact Scanned.cons hcluster hn rfl (by rwa [hcls])
      | true =>
        have hstop : (true && !cls.contains cluster) = true := by rw [hcls]; rfl
        obtain ⟨n, hmotion⟩ := Nat.exists_eq_succ_of_ne_zero (Nat.ne_of_gt hn)
        rw [if_pos rfl, hplace scanned (Nat.le_add_right _ _), Panic.ok_bind, WordMotion.stopAt,
          minus_eq hn, Panic.ok_bind, hmotion, Nat.succ_sub_one]
        by_cases hlast : n = 0
        · subst hlast
          refine .found 0 (Nat.succ_pos _) ?_ fun rest => ?_
          · rw [hmotion]
            rfl
          · rw [hmotion]
            exact wordScan_cons_last (by rw [isWordStop, if_neg hcluster, hstop]) _
        · have hrest : Scanned cls spot clusters false true (scanned + cluster.size)
              { offset := spot scanned, remaining := n, moved := motion.moved + 1 } _ :=
            ih hclusters.2 (Nat.pos_of_ne_zero hlast) hplace'
          show Scanned _ _ _ _ _ _ _ (if n = 0 then _ else _)
          rw [if_neg hlast]
          exact Scanned.cons_of_stop hcluster (Nat.pos_of_ne_zero hlast) hmotion hstop (by rwa [hcls])

end Scanned

/-! ## The edge of a line -/

/-- Whether the end of a line is a stop: 1 if the scan has gone over any cluster, otherwise 0. -/
def edgeStops (clusters : List Text) : Nat :=
  if clusters = [] then 0 else 1

theorem size_flatten_take_lt {clusters : List Text} (hne : ∀ cluster ∈ clusters, cluster ≠ []) {i : Nat}
    (hi : i < clusters.length) :
    Text.size (clusters.take i).flatten < Text.size clusters.flatten := by
  have hparts : clusters = clusters.take i ++ clusters[i] :: clusters.drop (i + 1) := by
    rw [← List.drop_eq_getElem_cons hi, List.take_append_drop]
  have hpos : 0 < Text.size clusters[i] := Text.size_pos_iff.2 (hne _ (List.getElem_mem hi))
  have hsize := congrArg (fun parts : List Text => Text.size parts.flatten) hparts
  rw [List.flatten_append, List.flatten_cons, Text.size_append, Text.size_append] at hsize
  omega

/-- The end of the line is a stop if the scan has gone over anything. -/
theorem toEdge_toBack {b : Buffer} (motion : WordMotion) (hn : 0 < motion.remaining)
    (hplace : motion.offset = b.cursor.offset ∨ ∃ i < (b.ahead false).length,
      motion.offset = b.cursor.offset + (0 + Text.size ((b.ahead false).take i).flatten)) :
    motion.toEdge (LineBuffer.toBack b.currentLine motion.offset) =
      .ok { offset := b.currentLine.size
            remaining := motion.remaining - edgeStops (b.ahead false)
            moved := motion.moved + edgeStops (b.ahead false) } := by
  have hway : (b.ahead false).flatten = b.after.firstLine := Text.flatten_clusters _
  have hsize : b.currentLine.size = b.cursor.offset + b.after.firstLine.size := Text.size_append _ _
  unfold LineBuffer.toBack edgeStops
  by_cases hnil : b.ahead false = []
  · rw [hnil] at hplace hway
    have hoffset : motion.offset = b.currentLine.size := by
      rw [hsize, ← hway]
      rcases hplace with hplace | ⟨i, hi, -⟩
      · exact hplace
      · exact absurd hi (Nat.not_lt_zero i)
    rw [if_pos hnil, if_pos (Nat.le_of_eq hoffset.symm), ← hoffset]
    rfl
  · have hlt : motion.offset < b.currentLine.size := by
      rw [hsize, ← hway]
      rcases hplace with hplace | ⟨i, hi, hplace⟩
      · rw [hplace]
        have hpos := size_flatten_take_lt (b.ne_nil_of_mem_ahead false) (List.length_pos_iff.2 hnil)
        omega
      · have hlt := size_flatten_take_lt (b.ne_nil_of_mem_ahead false) hi
        omega
    rw [if_neg hnil, if_neg (Nat.not_le_of_lt hlt)]
    show motion.stopAt b.currentLine.size = _
    rw [WordMotion.stopAt, minus_eq hn]
    rfl

/-- The start of the line is a stop if the scan has gone over anything. -/
theorem toEdge_toFront {b : Buffer} (motion : WordMotion) (hn : 0 < motion.remaining)
    (hplace : motion.offset = b.cursor.offset ∨ ∃ i < (b.behind false).length,
      motion.offset = b.cursor.offset - (0 + Text.size ((b.behind false).take i).flatten)) :
    motion.toEdge (LineBuffer.toFront motion.offset) =
      .ok { offset := 0
            remaining := motion.remaining - edgeStops (b.behind false)
            moved := motion.moved + edgeStops (b.behind false) } := by
  unfold LineBuffer.toFront edgeStops
  by_cases hnil : b.behind false = []
  · have hoffset : motion.offset = 0 := by
      have hsize := b.size_flatten_behind
      rw [hnil] at hplace hsize
      rcases hplace with hplace | ⟨i, hi, -⟩
      · rw [hplace, ← hsize]
        rfl
      · exact absurd hi (Nat.not_lt_zero i)
    rw [if_pos hnil]
    obtain ⟨offset, remaining, moved⟩ := motion
    obtain rfl : offset = 0 := hoffset
    rfl
  · have hpos : motion.offset ≠ 0 := by
      have hsize := b.size_flatten_behind
      rcases hplace with hplace | ⟨i, hi, hplace⟩
      · have hlt := size_flatten_take_lt (b.ne_nil_of_mem_behind false) (List.length_pos_iff.2 hnil)
        omega
      · have hlt := size_flatten_take_lt (b.ne_nil_of_mem_behind false) hi
        omega
    rw [if_neg hnil, if_neg hpos]
    show motion.stopAt 0 = _
    rw [WordMotion.stopAt, minus_eq hn]
    rfl

/-! ## One round -/

theorem wordScan_zero (cls : WordClass) (way : List Text) (inWord started : Bool) :
    wordScan cls way inWord started 0 = (0, 0) := by
  rw [wordScan]

theorem wordScan_nil {n : Nat} (hn : 0 < n) (cls : WordClass) (inWord : Bool) (clusters : List Text) :
    wordScan cls [] inWord (false || clusters ≠ []) n = (edgeStops clusters, 0) := by
  obtain ⟨n, rfl⟩ := Nat.exists_eq_succ_of_ne_zero (Nat.ne_of_gt hn)
  rw [wordScan, edgeStops]
  by_cases hnil : clusters = [] <;> simp [hnil]

/-- At a line break the scan of the way ends, or begins anew. -/
theorem wordScan_newline {n : Nat} (hn : 0 < n) (cls : WordClass) (inWord : Bool)
    (clusters rest : List Text) :
    wordScan cls (['\n'] :: rest) inWord (false || clusters ≠ []) n =
      if n - edgeStops clusters = 0 then (edgeStops clusters, 0)
      else
        (edgeStops clusters + (wordScan cls rest false false (n - edgeStops clusters)).1,
          1 + (wordScan cls rest false false (n - edgeStops clusters)).2) := by
  have hstop : isWordStop cls inWord (false || clusters ≠ []) ['\n'] = (false || clusters ≠ []) :=
    if_pos rfl
  unfold edgeStops
  by_cases hnil : clusters = []
  · subst hnil
    rw [wordScan_cons hn hstop, contains_newline]
    simp [Nat.ne_of_gt hn]
  · have hstarted : (false || decide (clusters ≠ [])) = true := by simpa using hnil
    rw [hstarted] at hstop ⊢
    rw [if_neg hnil]
    obtain ⟨n, rfl⟩ := Nat.exists_eq_succ_of_ne_zero (Nat.ne_of_gt hn)
    by_cases hlast : n = 0
    · subst hlast
      exact wordScan_cons_last hstop rest
    · rw [wordScan_cons_of_stop (Nat.pos_of_ne_zero hlast) hstop, contains_newline]
      simp [hlast, Nat.add_comm]

/-- Where a motion by words has come that was asked for `n` stops and has met `met` more than `moved`. -/
def arrived (b : Buffer) (n moved met : Nat) : Nat × WordMotion :=
  (b.cursor.line, { offset := b.cursor.offset, remaining := n - met, moved := moved + met })

/-- What a motion by words does on the line of the cursor, of which the given clusters are in front of it:
it comes to its last stop, or it goes on from the edge as `edge` says.  `go` moves the cursor over so many
characters. -/
inductive WordRound (cls : WordClass) (clusters : List Text) (go : Nat → Buffer) (n moved : Nat)
    (edge : Nat → Except Panic (Nat × WordMotion)) (result : Except Panic (Nat × WordMotion)) : Prop where
  | stop (i : Nat) (comes : result = .ok (arrived (go (clusters.take i).flatten.length) n moved n))
      (way : ∀ rest, wordScan cls (clusters ++ rest) false false n =
        (n, (clusters.take i).flatten.length))
  | pass (met : Nat) (lt : met < n) (comes : result = edge (met + edgeStops clusters))
      (way : ∀ rest, ∃ inWord, wordScan cls (clusters ++ rest) false false n =
        (met + (wordScan cls rest inWord (false || clusters ≠ []) (n - met)).1,
          clusters.flatten.length +
            (wordScan cls rest inWord (false || clusters ≠ []) (n - met)).2))

section WordRound

variable {cls : WordClass} {clusters : List Text} {go : Nat → Buffer} {n moved : Nat}
  {edge : Nat → Except Panic (Nat × WordMotion)} {result : Except Panic (Nat × WordMotion)}

/-- On the last line of its way a motion ends at the edge. -/
theorem WordRound.eq_of_last (h : WordRound cls clusters go n moved edge result)
    (hedge : ∀ met, edge met = .ok (arrived (go clusters.flatten.length) n moved met)) :
    result = .ok (arrived (go (wordScan cls clusters false false n).2) n moved
      (wordScan cls clusters false false n).1) := by
  cases h with
  | stop i comes way =>
    have hway := way []
    rw [List.append_nil] at hway
    rw [comes, hway]
  | pass met lt comes way =>
    obtain ⟨inWord, hway⟩ := way []
    rw [List.append_nil, wordScan_nil (Nat.sub_pos_of_lt lt), Nat.add_zero] at hway
    rw [comes, hedge, hway]

/-- From every other line it goes on over the line break, unless it has met all its stops. -/
theorem WordRound.eq_of_more (h : WordRound cls clusters go n moved edge result) (rest : List Text)
    (hall : ∀ met, n - met = 0 → edge met = .ok (arrived (go clusters.flatten.length) n moved met))
    (hmore : ∀ met, n - met ≠ 0 → edge met =
      .ok (arrived (go (clusters.flatten.length + (1 + (wordScan cls rest false false (n - met)).2))) n
        moved (met + (wordScan cls rest false false (n - met)).1))) :
    result = .ok (arrived (go (wordScan cls (clusters ++ ['\n'] :: rest) false false n).2) n moved
      (wordScan cls (clusters ++ ['\n'] :: rest) false false n).1) := by
  cases h with
  | stop i comes way => rw [comes, way]
  | pass met lt comes way =>
    obtain ⟨inWord, hway⟩ := way (['\n'] :: rest)
    rw [wordScan_newline (Nat.sub_pos_of_lt lt), Nat.sub_sub] at hway
    rw [comes]
    by_cases hmet : n - (met + edgeStops clusters) = 0
    · rw [if_pos hmet, Nat.add_zero] at hway
      rw [hall _ hmet, hway]
    · rw [if_neg hmet, ← Nat.add_assoc] at hway
      rw [hmore _ hmet, hway]

end WordRound

/-- What is done on the line of the cursor by a motion to word ends. -/
theorem wordEndFrom_line {b : Buffer} {cls : WordClass} {n moved : Nat} (hn : 0 < n)
    {found : Bool} {motion : WordMotion}
    (hscan : LineBuffer.scanLine cls (fun scanned => .ok (b.cursor.offset + scanned)) (b.ahead false)
      false 0 { offset := b.cursor.offset, remaining := n, moved } = .ok (found, motion))
    (across : Bool) :
    LineBuffer.wordEndFrom b.lines across cls b.cursor.line
        { offset := b.cursor.offset, remaining := n, moved } =
      (if found then .ok (b.cursor.line, motion)
      else do
        let motion ← motion.toEdge (LineBuffer.toBack b.currentLine motion.offset)
        if motion.remaining = 0 || !across || b.cursor.line + 1 = b.lines.length then
          return (b.cursor.line, motion)
        else
          LineBuffer.wordEndFrom b.lines across cls (b.cursor.line + 1)
            { motion with offset := 0 }) := by
  have hcut : cutAt b.currentLine b.cursor.offset = .ok (b.before.lastLine, b.after.firstLine) :=
    cutAt_append _ _
  rw [LineBuffer.wordEndFrom, if_neg (Nat.ne_of_gt hn)]
  split
  · next hline => rw [b.lineAt_cursor] at hline; cases hline
  · next hline =>
    rw [b.lineAt_cursor] at hline
    cases hline
    dsimp only
    rw [hcut, Panic.ok_bind]
    show (LineBuffer.scanLine cls _ (b.ahead false) false 0 _ >>= _) = _
    rw [hscan, Panic.ok_bind]
    rfl

theorem wordRound_wordEndFrom (b : Buffer) (cls : WordClass) {n : Nat} (hn : 0 < n) (moved : Nat)
    (across : Bool) :
    WordRound cls (b.ahead false) b.advance n moved
      (fun met =>
        if n - met = 0 || !across || b.cursor.line + 1 = b.lines.length then
          .ok (arrived (b.advance (b.ahead false).flatten.length) n moved met)
        else
          LineBuffer.wordEndFrom b.lines across cls (b.cursor.line + 1)
            { offset := 0, remaining := n - met, moved := moved + met })
      (LineBuffer.wordEndFrom b.lines across cls b.cursor.line
        { offset := b.cursor.offset, remaining := n, moved }) := by
  have hline : ['\n'] ∉ b.ahead false :=
    newline_notMem_clusters (Text.newline_notMem_firstLine b.after)
  have hscan : Scanned cls (fun scanned => b.cursor.offset + scanned) (b.ahead false) false false 0
      { offset := b.cursor.offset, remaining := n, moved }
      (LineBuffer.scanLine cls (fun scanned => .ok (b.cursor.offset + scanned)) _ _ _ _) :=
    scanned_scanLine hline hn fun _ _ => rfl
  cases hscan with
  | found i lt comes way =>
    refine .stop i ?_ way
    rw [wordEndFrom_line hn comes across, if_pos rfl, arrived, cursor_advance_line, Nat.sub_self,
      Nat.zero_add]
  | passed met offset lt place comes way =>
    refine .pass met lt ?_ way
    have hremaining : 0 < n - met := Nat.sub_pos_of_lt lt
    have hend := b.cursor_advance_line (b.ahead false).length
    rw [List.take_length] at hend
    have hsize : b.currentLine.size = b.cursor.offset + Text.size (b.ahead false).flatten := by
      rw [currentLine, Text.size_append]
      exact congrArg (b.cursor.offset + Text.size ·) (Text.flatten_clusters _).symm
    rw [wordEndFrom_line hn comes across, if_neg Bool.false_ne_true]
    dsimp only
    rw [toEdge_toBack { offset, remaining := n - met, moved := moved + met } hremaining place,
      Panic.ok_bind, arrived, hend, hsize, Nat.sub_sub, Nat.add_assoc]
    rfl

/-- What is done on the line of the cursor by a motion to word starts. -/
theorem wordStartFrom_line {b : Buffer} {cls : WordClass} {n moved : Nat} (hn : 0 < n)
    {found : Bool} {motion : WordMotion}
    (hscan : LineBuffer.scanLine cls (minus b.cursor.offset) (b.behind false) false 0
      { offset := b.cursor.offset, remaining := n, moved } = .ok (found, motion))
    (across : Bool) :
    LineBuffer.wordStartFrom b.lines across cls b.cursor.line
        { offset := b.cursor.offset, remaining := n, moved } =
      (if found then .ok (b.cursor.line, motion)
      else do
        let motion ← motion.toEdge (LineBuffer.toFront motion.offset)
        if motion.remaining = 0 || !across then return (b.cursor.line, motion)
        else
          match b.cursor.line with
          | 0 => return (0, motion)
          | above + 1 =>
            let line ← lineAt b.lines above
            LineBuffer.wordStartFrom b.lines across cls above { motion with offset := line.size }) := by
  have hcut : cutAt b.currentLine b.cursor.offset = .ok (b.before.lastLine, b.after.firstLine) :=
    cutAt_append _ _
  rw [LineBuffer.wordStartFrom.eq_def, if_neg (Nat.ne_of_gt hn), b.lineAt_cursor, Panic.ok_bind]
  dsimp only
  rw [hcut, Panic.ok_bind]
  show (LineBuffer.scanLine cls _ (b.behind false) false 0 _ >>= _) = _
  rw [hscan, Panic.ok_bind]
  rfl

theorem wordRound_wordStartFrom (b : Buffer) (cls : WordClass) {n : Nat} (hn : 0 < n) (moved : Nat)
    (across : Bool) :
    WordRound cls (b.behind false) b.retreat n moved
      (fun met =>
        if n - met = 0 || !across then
          .ok (arrived (b.retreat (b.behind false).flatten.length) n moved met)
        else
          match b.cursor.line with
          | 0 => .ok (arrived (b.retreat (b.behind false).flatten.length) n moved met)
          | above + 1 => do
            let line ← lineAt b.lines above
            LineBuffer.wordStartFrom b.lines across cls above
              { offset := line.size, remaining := n - met, moved := moved + met })
      (LineBuffer.wordStartFrom b.lines across cls b.cursor.line
        { offset := b.cursor.offset, remaining := n, moved }) := by
  have hline : ['\n'] ∉ b.behind false := fun hmem =>
    newline_notMem_clusters (Text.newline_notMem_lastLine b.before) (List.mem_reverse.1 hmem)
  have hscan : Scanned cls (fun scanned => b.cursor.offset - scanned) (b.behind false) false false 0
      { offset := b.cursor.offset, remaining := n, moved }
      (LineBuffer.scanLine cls (minus b.cursor.offset) _ _ _ _) :=
    scanned_scanLine hline hn fun scanned hle =>
      minus_eq (by rwa [Nat.zero_add, size_flatten_behind] at hle)
  cases hscan with
  | found i lt comes way =>
    refine .stop i ?_ way
    rw [wordStartFrom_line hn comes across, if_pos rfl, arrived, cursor_retreat_line, Nat.sub_self,
      Nat.zero_add]
  | passed met offset lt place comes way =>
    refine .pass met lt ?_ way
    have hremaining : 0 < n - met := Nat.sub_pos_of_lt lt
    have hstart := b.cursor_retreat_line (b.behind false).length
    rw [List.take_length, size_flatten_behind, Nat.sub_self] at hstart
    rw [wordStartFrom_line hn comes across, if_neg Bool.false_ne_true]
    dsimp only
    rw [toEdge_toFront { offset, remaining := n - met, moved := moved + met } hremaining place,
      Panic.ok_bind, arrived, hstart, Nat.sub_sub, Nat.add_assoc]
    cases b.cursor.line <;> rfl

/-! ## All lines -/

/-- What is done after a line break is done from there, with the stops that are left to meet. -/
theorem arrived_add (b : Buffer) (n moved met more : Nat) :
    arrived b (n - met) (moved + met) more = arrived b n moved (met + more) := by
  rw [arrived, arrived, Nat.sub_sub, Nat.add_assoc]

/-- On over the rest of a line and the line break after it the cursor comes to the start of the line
below. -/
theorem advance_line_break (before : Text) {line : Text} (h : '\n' ∉ line) (rest : Text) :
    let b : Buffer := { before, after := line ++ '\n' :: rest }
    let b' : Buffer := { before := before ++ (line ++ ['\n']), after := rest }
    b.advance (line.length + 1) = b' ∧ b'.lines = b.lines ∧
      b'.cursor = { offset := 0, line := b.cursor.line + 1 } := by
  intro b b'
  refine ⟨?_, by simp [b, b', lines, text], ?_⟩
  · have hbelow : b.advance (line ++ ['\n']).length = b' := advance_of_after_eq (by simp [b])
    rwa [List.length_append] at hbelow
  · show Position.endOf (before ++ (line ++ ['\n'])) = _
    rw [← List.append_assoc, Position.endOf_append_newline, List.count_append,
      List.count_eq_zero_of_not_mem h]
    rfl

/-- Back over the front of a line and the line break before it the cursor comes to the end of the line
above. -/
theorem retreat_line_break (rest : Text) {line : Text} (h : '\n' ∉ line) (after : Text) :
    let b : Buffer := { before := rest ++ '\n' :: line, after }
    let b' : Buffer := { before := rest, after := '\n' :: line ++ after }
    b.retreat (line.length + 1) = b' ∧ b'.lines = b.lines ∧ b.cursor.line = b'.cursor.line + 1 ∧
      b'.currentLine.size = b'.cursor.offset := by
  intro b b'
  refine ⟨?_, by simp [b, b', lines, text], ?_, ?_⟩
  · show b.retreat ('\n' :: line).length = b'
    exact retreat_of_before_eq rfl
  · show (rest ++ '\n' :: line).count '\n' = rest.count '\n' + 1
    rw [List.count_append, List.count_cons_self, List.count_eq_zero_of_not_mem h]
  · show (rest.lastLine ++ Text.firstLine ('\n' :: (line ++ after))).size = rest.lastLine.size
    rw [Text.firstLine_newline, List.append_nil]

/-- A motion to word ends over lines goes as far as over the text. -/
theorem wordEndFrom_eq {b : Buffer} (h : '\r' ∉ b.after) (cls : WordClass) (across : Bool)
    (n moved : Nat) :
    LineBuffer.wordEndFrom b.lines across cls b.cursor.line
        { offset := b.cursor.offset, remaining := n, moved } =
      .ok (arrived (b.advance (wordScan cls (b.ahead across) false false n).2) n moved
        (wordScan cls (b.ahead across) false false n).1) := by
  rcases Nat.eq_zero_or_pos n with rfl | hn
  · rw [LineBuffer.wordEndFrom, if_pos rfl, wordScan_zero, advance_zero]
    rfl
  obtain ⟨before, after⟩ := b
  dsimp only at h
  induction after using Text.inductionOnLines generalizing before n moved with
  | last line hline =>
    let b : Buffer := { before, after := line }
    have hway : b.ahead across = b.ahead false := by
      cases across with
      | false => rfl
      | true => exact congrArg Text.clusters (Text.firstLine_eq_self hline).symm
    have hlast : b.cursor.line + 1 = b.lines.length := by
      show before.count '\n' + 1 = (before ++ line).lines.length
      rw [Text.length_lines, List.count_append, List.count_eq_zero_of_not_mem hline, Nat.add_zero]
    rw [hway]
    exact (wordRound_wordEndFrom b cls hn moved across).eq_of_last fun met => if_pos (by simp [hlast])
  | more line rest hline ih =>
    let b : Buffer := { before, after := line ++ '\n' :: rest }
    let below : Buffer := { before := before ++ (line ++ ['\n']), after := rest }
    have hround := wordRound_wordEndFrom b cls hn moved across
    cases across with
    | false => exact hround.eq_of_last fun met => if_pos (by simp)
    | true =>
      have hreturn : '\r' ∉ line := fun hmem => h (List.mem_append_left _ hmem)
      have hrest : '\r' ∉ rest := fun hmem => h (List.mem_append_right _ (List.mem_cons_of_mem _ hmem))
      obtain ⟨hadvance, hlines, hcursor⟩ := advance_line_break before hline rest
      have hlast : b.cursor.line + 1 ≠ b.lines.length := by
        have hlt := LineBuffer.lt_length_of_lineAt below.lineAt_cursor
        rw [hcursor, hlines] at hlt
        exact Nat.ne_of_lt hlt
      have hfalse : b.ahead false = line.clusters := by
        show (Text.firstLine (line ++ '\n' :: rest)).clusters = _
        rw [Text.firstLine_append hline, Text.firstLine_newline, List.append_nil]
      rw [hfalse] at hround
      rw [ahead_append_newline hreturn]
      refine hround.eq_of_more rest.clusters (fun met hmet => if_pos (by simp [hmet])) fun met hmet => ?_
      have hmore := ih (n - met) (moved + met) (Nat.pos_of_ne_zero hmet) (before ++ (line ++ ['\n'])) hrest
      rw [hcursor, hlines, arrived_add] at hmore
      rw [if_neg (by simp [hmet, hlast]), ← Nat.add_assoc, ← advance_advance, Text.flatten_clusters,
        hadvance]
      exact hmore

/-- A motion to word starts over lines goes as far as over the text. -/
theorem wordStartFrom_eq {b : Buffer} (h : '\r' ∉ b.before) (cls : WordClass) (across : Bool)
    (n moved : Nat) :
    LineBuffer.wordStartFrom b.lines across cls b.cursor.line
        { offset := b.cursor.offset, remaining := n, moved } =
      .ok (arrived (b.retreat (wordScan cls (b.behind across) false false n).2) n moved
        (wordScan cls (b.behind across) false false n).1) := by
  rcases Nat.eq_zero_or_pos n with rfl | hn
  · rw [LineBuffer.wordStartFrom.eq_def, if_pos rfl, wordScan_zero, retreat_zero]
    rfl
  obtain ⟨before, after⟩ := b
  dsimp only at h
  induction before using Text.reverseInductionOnLines generalizing after n moved with
  | first line hline =>
    let b : Buffer := { before := line, after }
    have hway : b.behind across = b.behind false := by
      cases across with
      | false => rfl
      | true => exact congrArg (fun line : Text => line.clusters.reverse) (Text.lastLine_eq_self hline).symm
    have hfirst : b.cursor.line = 0 := List.count_eq_zero_of_not_mem hline
    rw [hway]
    refine (wordRound_wordStartFrom b cls hn moved across).eq_of_last fun met => ?_
    rw [hfirst]
    exact ite_self _
  | more rest line hline ih =>
    let b : Buffer := { before := rest ++ '\n' :: line, after }
    let above : Buffer := { before := rest, after := '\n' :: line ++ after }
    have hround := wordRound_wordStartFrom b cls hn moved across
    cases across with
    | false => exact hround.eq_of_last fun met => if_pos (by simp)
    | true =>
      have hrest : '\r' ∉ rest := fun hmem => h (List.mem_append_left _ hmem)
      obtain ⟨hretreat, hlines, hnumber, hsize⟩ := retreat_line_break rest hline after
      have hfalse : b.behind false = (Text.clusters line).reverse := by
        show (Text.lastLine (rest ++ '\n' :: line)).clusters.reverse = _
        rw [Text.lastLine_append_newline, Text.lastLine_eq_self hline]
      have hlength : (Text.clusters line).reverse.flatten.length = line.length := by
        rw [Text.length_flatten_reverse, Text.flatten_clusters]
      rw [hfalse] at hround
      rw [behind_append_newline hrest]
      refine hround.eq_of_more rest.clusters.reverse (fun met hmet => if_pos (by simp [hmet]))
        fun met hmet => ?_
      have hmore := ih (n - met) (moved + met) (Nat.pos_of_ne_zero hmet) ('\n' :: line ++ after) hrest
      have hline : lineAt b.lines above.cursor.line = .ok above.currentLine := hlines ▸ above.lineAt_cursor
      rw [hlines, arrived_add] at hmore
      rw [if_neg (by simp [hmet]), ← Nat.add_assoc, ← retreat_retreat, hlength, hretreat, hnumber]
      dsimp only
      rw [hline, Panic.ok_bind, hsize]
      exact hmore

/-! ## The result -/

/-- A motion that meets no stop leaves the cursor where it was, over lines and over the text. -/
theorem afterWords_arrived (b : Buffer) {go : Nat → Buffer} (hgo : go 0 = b) (cls : WordClass)
    (way : List Text) (n : Nat) :
    let (number, motion) := arrived (go (wordScan cls way false false n).2) n 0
      (wordScan cls way false false n).1
    b.stored.afterWords number motion =
      ((wordWay cls way n).1, { b.stored with cursor := (go (wordWay cls way n).2).cursor }) := by
  rw [wordWay_eq]
  by_cases hmet : (wordScan cls way false false n).1 = 0
  · rw [if_pos hmet, hgo]
    exact if_pos ((Nat.zero_add _).trans hmet)
  · rw [if_neg hmet]
    dsimp only [arrived]
    rw [Nat.zero_add, LineBuffer.afterWords, if_neg hmet]

/-- Motion to word ends over lines is motion to word ends over the text. -/
theorem stored_moveToWordEnd {b : Buffer} (h : '\r' ∉ b.text) (n : Nat) (across : Bool)
    (cls : WordClass) :
    b.stored.moveToWordEnd n across cls =
      .ok ((b.moveToWordEnd n across cls).1, (b.moveToWordEnd n across cls).2.stored) := by
  have hclean : '\r' ∉ b.after := fun hmem => h (List.mem_append_right _ hmem)
  have htext : (b.moveToWordEnd n across cls).2.text = b.text := b.text_advance _
  rw [LineBuffer.moveToWordEnd, stored_lines, stored_cursor, wordEndFrom_eq hclean, Panic.ok_bind,
    stored_eq_of_text htext]
  exact congrArg Except.ok (b.afterWords_arrived b.advance_zero cls (b.ahead across) n)

/-- Motion to word starts over lines is motion to word starts over the text. -/
theorem stored_moveToWordStart {b : Buffer} (h : '\r' ∉ b.text) (n : Nat) (across : Bool)
    (cls : WordClass) :
    b.stored.moveToWordStart n across cls =
      .ok ((b.moveToWordStart n across cls).1, (b.moveToWordStart n across cls).2.stored) := by
  have hclean : '\r' ∉ b.before := fun hmem => h (List.mem_append_left _ hmem)
  have htext : (b.moveToWordStart n across cls).2.text = b.text := b.text_retreat _
  rw [LineBuffer.moveToWordStart, stored_lines, stored_cursor, wordStartFrom_eq hclean, Panic.ok_bind,
    stored_eq_of_text htext]
  exact congrArg Except.ok (b.afterWords_arrived b.retreat_zero cls (b.behind across) n)

end LineEditor.Buffer
