import LineEditor.Proofs.Motion

/-!
# Where motions by words stop

A motion by words goes over its way cluster by cluster and keeps account of the word it is in and of
the line it has begun.  Looked at as a whole, every line on the way has its stops, whatever the other
lines are: where a cluster outside the class follows one inside it, and the end of the line unless the
motion begins there.

* Stops of a stretch of clusters.  `wordBreaks` and `stretchStops` name them without a scan.
* Stops of a text.  `stopsDown` and `stopsUp` are the positions of the stops of its lines.
* The scan.  `scanStops_stretch` and `scanStops_line` say that the stops that a scan meets are those of
  the lines on its way, one after the other.
* Positions.  `map_endOf_scanStops` and `map_endOf_scanStops_reverse` say where the stops are.
* The motions.  `GoesTo` says what a motion makes of its stops; `word_motions_goTo` is the result.
-/

namespace LineEditor.Buffer

/-! ## Stops of a stretch -/

/-- Where words end in a row of clusters: the numbers of the clusters outside the class that stand
right after one in it. -/
def wordBreaks (cls : WordClass) (clusters : List Text) : List Nat :=
  (List.range clusters.length).filter fun i =>
    0 < i && cls.contains (clusters.getD (i - 1) []) && !cls.contains (clusters.getD i [])

/-- Where a motion stops on its way over the rest of a line: where words end, and at the end unless
there is no way to it. -/
def stretchStops (cls : WordClass) (clusters : List Text) : List Nat :=
  wordBreaks cls clusters ++ if clusters = [] then [] else [clusters.length]

@[simp] theorem stretchStops_nil (cls : WordClass) : stretchStops cls [] = [] := rfl

theorem wordBreaks_singleton (cls : WordClass) (cluster : Text) : wordBreaks cls [cluster] = [] :=
  rfl

/-- A cluster in front shifts the breaks, and adds one if it is the end of a word. -/
theorem wordBreaks_cons_cons (cls : WordClass) (first next : Text) (rest : List Text) :
    wordBreaks cls (first :: next :: rest) =
      ((if cls.contains first && !cls.contains next then [0] else []) ++
        wordBreaks cls (next :: rest)).map (· + 1) := by
  -- neither row has a break before its first cluster
  unfold wordBreaks
  rw [List.length_cons, List.length_cons, List.range_succ_eq_map, List.filter_cons_of_neg (by simp),
    List.filter_map, List.range_succ_eq_map, List.filter_cons, List.filter_cons_of_neg (by simp),
    List.filter_map, List.filter_map]
  by_cases hbreak : (cls.contains first && !cls.contains next) = true
  · rw [if_pos hbreak]
    exact congrArg (List.map Nat.succ) (if_pos hbreak)
  · rw [if_neg hbreak]
    exact congrArg (List.map Nat.succ) (if_neg hbreak)

theorem le_of_mem_stretchStops {cls : WordClass} {clusters : List Text} {i : Nat}
    (h : i ∈ stretchStops cls clusters) : i ≤ clusters.length := by
  rcases List.mem_append.1 h with h | h
  · exact Nat.le_of_lt (List.mem_range.1 (List.mem_filter.1 h).1)
  · split at h
    · exact absurd h List.not_mem_nil
    · exact Nat.le_of_eq (List.mem_singleton.1 h)

/-! ## Stops of a text -/

/-- The stops on the way on over the given stretches, of which the first one begins at `p` and every
other one is a whole line below it. -/
def stopsDown (cls : WordClass) (p : Position) : List Text → List Position
  | [] => []
  | stretch :: rest =>
    ((stretchStops cls stretch.clusters).map fun i =>
      { p with offset := p.offset + Text.size (stretch.clusters.take i).flatten }) ++
      stopsDown cls { offset := 0, line := p.line + 1 } rest

/-- The stops on the way back over the given stretches, of which the first one begins line `line` and
every other one is a whole line above it.  The clusters of a stretch are passed from its end, so a
stop is as far into the line as the clusters not passed reach. -/
def stopsUp (cls : WordClass) (line : Nat) : List Text → List Position
  | [] => []
  | stretch :: rest =>
    ((stretchStops cls stretch.clusters.reverse).map fun i =>
      { offset := Text.size (stretch.clusters.reverse.drop i).flatten, line }) ++
      stopsUp cls (line - 1) rest

example : stopsDown .alphanumeric { offset := 1, line := 0 }
    ["oo  bar".toList, [], "x-y".toList] =
      [{ offset := 3, line := 0 }, { offset := 8, line := 0 }, { offset := 1, line := 2 },
        { offset := 3, line := 2 }] := by
  decide +kernel

/-! ## The scan -/

theorem contains_newline (cls : WordClass) : cls.contains ['\n'] = false := by
  cases cls <;> decide +kernel

/-- Over a stretch without a line break the scan meets the breaks in it, and goes on as what follows
tells. -/
theorem scanStops_cons_append {cls : WordClass} {first : Text} {stretch : List Text}
    (h : ['\n'] ∉ first :: stretch) {tail : List Text} {stops : List Nat}
    (htail : ∀ inWord, scanStops cls tail inWord true = stops) (inWord started : Bool) :
    scanStops cls (first :: stretch ++ tail) inWord started =
      (if inWord && !cls.contains first then [0] else []) ++ wordBreaks cls (first :: stretch) ++
        stops.map (· + (first :: stretch).length) := by
  induction stretch generalizing first inWord started with
  | nil =>
    rw [List.mem_cons, not_or] at h
    rw [List.singleton_append, scanStops, isWordStop, if_neg (Ne.symm h.1), wordBreaks_singleton,
      List.append_nil, decide_eq_true (Ne.symm h.1), htail]
    rfl
  | cons next stretch ih =>
    rw [List.mem_cons, not_or] at h
    rw [List.cons_append, scanStops, isWordStop, if_neg (Ne.symm h.1), decide_eq_true (Ne.symm h.1),
      ih h.2, wordBreaks_cons_cons, List.map_append, List.map_map, List.append_assoc]
    rfl

theorem scanStops_stretch (cls : WordClass) {stretch : List Text} (h : ['\n'] ∉ stretch) :
    scanStops cls stretch false false = stretchStops cls stretch := by
  cases stretch with
  | nil => rfl
  | cons first stretch =>
    have hend : ∀ inWord, scanStops cls [] inWord true = [0] := fun _ => rfl
    have hscan := scanStops_cons_append h hend false false
    rw [List.append_nil] at hscan
    rw [hscan, stretchStops, if_neg (List.cons_ne_nil _ _)]
    simp

theorem scanStops_line (cls : WordClass) {stretch : List Text} (h : ['\n'] ∉ stretch)
    (rest : List Text) :
    scanStops cls (stretch ++ ['\n'] :: rest) false false =
      stretchStops cls stretch ++
        (scanStops cls rest false false).map (stretch.length + 1 + ·) := by
  have hbreak (inWord started : Bool) : scanStops cls (['\n'] :: rest) inWord started =
      (if started then [0] else []) ++ (scanStops cls rest false false).map (· + 1) := by
    rw [scanStops, isWordStop, if_pos rfl, contains_newline]
    rfl
  cases stretch with
  | nil =>
    rw [List.nil_append, hbreak, stretchStops_nil]
    simp [Nat.add_comm]
  | cons first stretch =>
    rw [scanStops_cons_append h (fun inWord => hbreak inWord true) false false, stretchStops,
      if_neg (List.cons_ne_nil _ _)]
    simp [Nat.add_comm, Nat.add_left_comm]

/-! ## Positions -/

theorem newline_notMem_clusters {line : Text} (h : '\n' ∉ line) : ['\n'] ∉ line.clusters := by
  intro hmem
  rw [← line.flatten_clusters] at h
  exact h (List.mem_flatten.2 ⟨_, hmem, List.mem_singleton_self _⟩)

/-- The stops on the way on over a text are those of its lines. -/
theorem map_endOf_scanStops (cls : WordClass) {text : Text} (h : '\r' ∉ text) (before : Text) :
    ((scanStops cls text.clusters false false).map fun i =>
        Position.endOf (before ++ (text.clusters.take i).flatten)) =
      stopsDown cls (.endOf before) text.lines := by
  induction text using Text.inductionOnLines generalizing before with
  | last line hline =>
    rw [Text.lines_eq_singleton hline, scanStops_stretch cls (newline_notMem_clusters hline), stopsDown,
      stopsDown, List.append_nil]
    exact List.map_congr_left fun i _ =>
      Position.endOf_append_of_notMem (fun hmem => hline (Text.mem_of_mem_flatten_take hmem)) before
  | more line rest hline ih =>
    rw [List.mem_append, List.mem_cons, not_or, not_or] at h
    rw [Text.lines_append_newline, Text.lines_eq_singleton hline, Text.clusters_append_newline h.1,
      scanStops_line cls (newline_notMem_clusters hline), List.map_append, List.map_map,
      List.singleton_append, stopsDown]
    have hbefore : Position.endOf (before ++ line ++ ['\n']) =
        { offset := 0, line := (Position.endOf before).line + 1 } := by
      rw [Position.endOf_append_newline, List.count_append, List.count_eq_zero_of_not_mem hline]
      rfl
    rw [← hbefore, ← ih h.2.2]
    congr 1
    · refine List.map_congr_left fun i hi => ?_
      rw [List.take_append_of_le_length (le_of_mem_stretchStops hi)]
      exact Position.endOf_append_of_notMem (fun hmem => hline (Text.mem_of_mem_flatten_take hmem)) before
    · refine List.map_congr_left fun i _ => ?_
      have htake : (line.clusters ++ ['\n'] :: rest.clusters).take (line.clusters.length + 1 + i) =
          line.clusters ++ ['\n'] :: rest.clusters.take i := by
        rw [Nat.add_assoc, List.take_length_add_append, Nat.add_comm 1 i, List.take_succ_cons]
      rw [Function.comp_apply, htake, List.flatten_append, List.flatten_cons, Text.flatten_clusters,
        List.append_assoc, List.append_assoc]

/-- What is not passed of the last line of a text says where the cursor is. -/
theorem endOf_append_not_passed {front line : Text}
    (hfront : ∀ line, '\n' ∉ line → Text.lastLine (front ++ line) = line) (h : '\n' ∉ line) (i : Nat) :
    Position.endOf (front ++ (line.clusters.reverse.drop i).reverse.flatten) =
      { offset := Text.size (line.clusters.reverse.drop i).flatten, line := front.count '\n' } := by
  have hkept : '\n' ∉ (line.clusters.reverse.drop i).reverse.flatten := by
    rw [List.drop_reverse, List.reverse_reverse]
    exact fun hmem => h (Text.mem_of_mem_flatten_take hmem)
  have hsize : Text.size (line.clusters.reverse.drop i).reverse.flatten =
      Text.size (line.clusters.reverse.drop i).flatten := by
    rw [Text.size_flatten, Text.size_flatten, List.map_reverse, List.sum_reverse]
  rw [Position.endOf, hfront _ hkept, hsize, List.count_append, List.count_eq_zero_of_not_mem hkept,
    Nat.add_zero]

/-- The stops on the way back over a text are those of its lines. -/
theorem map_endOf_scanStops_reverse (cls : WordClass) {text front : Text} (h : '\r' ∉ text)
    (hfront : ∀ line, '\n' ∉ line → Text.lastLine (front ++ line) = line) :
    ((scanStops cls text.clusters.reverse false false).map fun i =>
        Position.endOf (front ++ (text.clusters.reverse.drop i).reverse.flatten)) =
      stopsUp cls (front.count '\n' + text.count '\n') text.lines.reverse := by
  induction text using Text.reverseInductionOnLines with
  | first line hline =>
    rw [Text.lines_eq_singleton hline, scanStops_stretch cls fun hmem => newline_notMem_clusters hline
      (List.mem_reverse.1 hmem), List.reverse_singleton, stopsUp, stopsUp, List.append_nil,
      List.count_eq_zero_of_not_mem hline, Nat.add_zero]
    exact List.map_congr_left fun i _ => endOf_append_not_passed hfront hline i
  | more rest line hline ih =>
    have hnewline : ∀ line, '\n' ∉ line → Text.lastLine (front ++ rest ++ ['\n'] ++ line) = line := by
      intro line hline
      rw [List.append_assoc, List.singleton_append, Text.lastLine_append_newline,
        Text.lastLine_eq_self hline]
    rw [List.mem_append, List.mem_cons, not_or, not_or] at h
    rw [Text.lines_append_newline, Text.lines_eq_singleton hline, Text.clusters_append_newline h.1,
      List.reverse_append, List.reverse_cons, List.append_assoc, List.singleton_append,
      scanStops_line cls fun hmem => newline_notMem_clusters hline (List.mem_reverse.1 hmem),
      List.map_append, List.map_map, List.reverse_append, List.reverse_singleton, List.singleton_append,
      stopsUp]
    have hcount : front.count '\n' + (rest ++ '\n' :: line).count '\n' =
        (front ++ rest ++ ['\n']).count '\n' := by
      simp [List.count_eq_zero_of_not_mem hline]
    have habove : front.count '\n' + (rest ++ '\n' :: line).count '\n' - 1 =
        front.count '\n' + rest.count '\n' := by
      simp [List.count_eq_zero_of_not_mem hline]
    rw [habove, ← ih h.1, hcount]
    congr 1
    · refine List.map_congr_left fun i hi => ?_
      rw [List.drop_append_of_le_length (le_of_mem_stretchStops hi), ← endOf_append_not_passed hnewline
        hline i]
      simp [Text.flatten_clusters]
    · refine List.map_congr_left fun i _ => ?_
      rw [Function.comp_apply, Nat.add_assoc, List.drop_length_add_append, Nat.add_comm 1 i,
        List.drop_succ_cons]

/-! ## The motions -/

/-- What a motion over at most `n` of the given stops makes of a buffer, where `last` is the end of
its way.  It counts the stops it comes to; it ends at the last one it was asked for, and if there are
fewer at the end of its way, unless there is none. -/
structure GoesTo (b : Buffer) (stops : List Position) (last : Position) (n : Nat)
    (result : Nat × Buffer) : Prop where
  met : result.1 = min n stops.length
  text : result.2.text = b.text
  reached : 0 < n → result.1 = n → stops[n - 1]? = some result.2.cursor
  short : 0 < result.1 → result.1 < n → result.2.cursor = last
  still : result.1 = 0 → result.2 = b

/-- A motion by words over the clusters of a way goes to the stops that the scan of it meets. -/
theorem goesTo_of_way {b : Buffer} {go : Nat → Buffer} (htext : ∀ k, (go k).text = b.text)
    (hstill : go 0 = b) (cls : WordClass) (way : List Text) (n : Nat) :
    GoesTo b ((scanStops cls way false false).map fun i => (go (way.take i).flatten.length).cursor)
      (go way.flatten.length).cursor n
      ((wordWay cls way n).1, go (wordWay cls way n).2) := by
  have hway := wordWay_eq cls way n
  rw [wordScan_eq] at hway
  generalize scanStops cls way false false = stops at hway ⊢
  dsimp only at hway
  by_cases hmet : min n stops.length = 0
  · rw [if_pos hmet] at hway
    rw [hway]
    exact {
      met := hmet.symm.trans (by rw [List.length_map])
      text := htext 0
      reached := fun hn hzero => absurd hzero (Nat.ne_of_lt hn)
      short := fun hpos => absurd hpos (Nat.lt_irrefl 0)
      still := fun _ => hstill }
  · rw [if_neg hmet, if_neg (by omega)] at hway
    rw [hway]
    refine {
      met := by rw [List.length_map]
      text := htext _
      reached := fun hn (hall : min n stops.length = n) => ?_
      short := fun _ (hfew : min n stops.length < n) => ?_
      still := fun hzero => absurd hzero hmet }
    · rw [List.getElem?_map, List.getD_eq_getElem?_getD, List.getElem?_eq_getElem (by omega)]
      rfl
    · rw [List.getD_eq_getElem?_getD, List.getElem?_eq_none (by omega), Option.getD_none,
        List.take_length]

/-- After a motion on, the cursor is at the end of what has been passed. -/
theorem cursor_advance_ahead (b : Buffer) (across : Bool) (n : Nat) :
    (b.advance ((b.ahead across).take n).flatten.length).cursor =
      .endOf (b.before ++ ((b.ahead across).take n).flatten) := by
  obtain ⟨rest, hrest⟩ := b.exists_after_eq n across
  unfold cursor advance
  dsimp only
  rw [hrest, List.take_left]

/-- After a motion back, the cursor is at the end of what has not been passed. -/
theorem cursor_retreat_behind {b : Buffer} {across : Bool} {front : Text}
    (h : b.before = front ++ b.reachBack across) (n : Nat) :
    (b.retreat ((b.behind across).take n).flatten.length).cursor =
      .endOf (front ++ ((b.behind across).drop n).reverse.flatten) := by
  have hparts : b.before =
      front ++ ((b.behind across).drop n).reverse.flatten ++ ((b.behind across).take n).reverse.flatten := by
    rw [List.append_assoc, ← List.flatten_append, ← List.reverse_append, List.take_append_drop, behind,
      List.reverse_reverse, Text.flatten_clusters]
    exact h
  unfold cursor retreat
  dsimp only
  rw [hparts, List.length_append, Text.length_flatten_reverse, Nat.add_sub_cancel, List.take_left]

/-- The text in reach after the cursor is the rest of the line, and the lines below it. -/
theorem lines_reachOn (b : Buffer) (across : Bool) :
    (b.reachOn across).lines =
      b.after.firstLine :: if across then b.lines.drop (b.cursor.line + 1) else [] := by
  cases across with
  | true =>
    have hdrop : b.lines.drop (b.cursor.line + 1) = b.after.lines.tail :=
      Text.drop_lines_append b.before b.after
    rw [if_pos rfl, hdrop]
    exact Text.lines_eq_cons b.after
  | false => exact Text.lines_eq_singleton (Text.newline_notMem_firstLine b.after)

/-- The text in reach before the cursor is the front of the line, and the lines above it. -/
theorem lines_reachBack (b : Buffer) (across : Bool) :
    (b.reachBack across).lines.reverse =
      b.before.lastLine :: if across then (b.lines.take b.cursor.line).reverse else [] := by
  cases across with
  | true =>
    have htake : b.lines.take b.cursor.line = b.before.lines.dropLast :=
      Text.take_lines_append b.before b.after
    rw [if_pos rfl, htake, ← List.reverse_concat]
    exact congrArg List.reverse (Text.lines_eq_append_lastLine b.before)
  | false =>
    exact congrArg List.reverse (Text.lines_eq_singleton (Text.newline_notMem_lastLine b.before))

/-- The way back ends at the start of the line, or with `across` of the text, so what is left of the text
in reach is a line of its own if it has no line feed. -/
theorem exists_append_reachBack (b : Buffer) (across : Bool) :
    ∃ front, b.before = front ++ b.reachBack across ∧
      (∀ line, '\n' ∉ line → Text.lastLine (front ++ line) = line) ∧
      Position.endOf front = { offset := 0, line := if across then 0 else b.cursor.line } := by
  cases across with
  | true => exact ⟨[], rfl, fun line hline => Text.lastLine_eq_self hline, rfl⟩
  | false =>
    obtain ⟨front, hfront, hlast⟩ := b.before.exists_eq_append_lastLine
    refine ⟨front, hfront, hlast, ?_⟩
    have hnil := hlast [] List.not_mem_nil
    rw [List.append_nil] at hnil
    have hcount : front.count '\n' = b.before.count '\n' := by
      have hzero := List.count_eq_zero_of_not_mem (Text.newline_notMem_lastLine b.before)
      have h := congrArg (List.count '\n') hfront
      rw [List.count_append, hzero, Nat.add_zero] at h
      exact h.symm
    rw [Position.endOf, hnil, hcount]
    rfl

/-- The way on ends at the end of the line, or with `across` of the last line. -/
theorem endOf_append_reachOn (b : Buffer) (across : Bool) :
    let line := if across then b.lines.length - 1 else b.cursor.line
    Position.endOf (b.before ++ b.reachOn across) =
      { offset := (b.lines.getD line []).size, line } := by
  intro line
  have hend {text : Text} (hcount : text.count '\n' = line)
      (hline : b.lines[line]? = some text.lastLine) :
      Position.endOf text = { offset := (b.lines.getD line []).size, line } := by
    rw [Position.endOf, hcount, List.getD_eq_getElem?_getD, hline, Option.getD_some]
  cases across with
  | true =>
    have hcount : b.text.count '\n' = line := by
      show _ = b.text.lines.length - 1
      rw [Text.length_lines, Nat.add_sub_cancel]
    refine hend hcount ?_
    show b.lines[b.lines.length - 1]? = _
    rw [← List.getLast?_eq_getElem?]
    exact List.getLast?_eq_some_iff.2 ⟨_, b.text.lines_eq_append_lastLine⟩
  | false =>
    have hfirst := Text.newline_notMem_firstLine b.after
    have hcount : (b.before ++ b.after.firstLine).count '\n' = b.before.count '\n' := by
      rw [List.count_append, List.count_eq_zero_of_not_mem hfirst, Nat.add_zero]
    exact hend hcount (b.lines_cursor.trans (congrArg some (Text.lastLine_append hfirst b.before).symm))

/-- A motion by words to word ends goes to the stops of the text in reach after the cursor. -/
theorem goesTo_moveToWordEnd {b : Buffer} (h : '\r' ∉ b.after) (cls : WordClass) (across : Bool)
    (n : Nat) :
    GoesTo b (stopsDown cls b.cursor (b.reachOn across).lines)
      (Position.endOf (b.before ++ b.reachOn across)) n (b.moveToWordEnd n across cls) := by
  have hgo := goesTo_of_way b.text_advance b.advance_zero cls (b.ahead across) n
  have hreach : '\r' ∉ b.reachOn across := fun hmem => h (mem_of_mem_reachOn hmem)
  have hway : (b.ahead across).flatten = b.reachOn across := Text.flatten_clusters _
  have hstops : ((scanStops cls (b.ahead across) false false).map fun i =>
      (b.advance ((b.ahead across).take i).flatten.length).cursor) =
      stopsDown cls b.cursor (b.reachOn across).lines := by
    rw [List.map_congr_left fun i _ => b.cursor_advance_ahead across i]
    exact map_endOf_scanStops cls hreach b.before
  have hlast := b.cursor_advance_ahead across (b.ahead across).length
  rw [List.take_length, hway] at hlast
  rw [hstops, hway, hlast] at hgo
  exact hgo

/-- A motion by words to word starts goes to the stops of the text in reach before the cursor. -/
theorem goesTo_moveToWordStart {b : Buffer} (h : '\r' ∉ b.before) (cls : WordClass) (across : Bool)
    (n : Nat) :
    GoesTo b (stopsUp cls b.cursor.line (b.reachBack across).lines.reverse)
      { offset := 0, line := if across then 0 else b.cursor.line } n
      (b.moveToWordStart n across cls) := by
  have hgo := goesTo_of_way b.text_retreat b.retreat_zero cls (b.behind across) n
  obtain ⟨front, hfront, hkept, hstart⟩ := b.exists_append_reachBack across
  have hreach : '\r' ∉ b.reachBack across := fun hmem => h (hfront ▸ List.mem_append_right _ hmem)
  have hline : b.cursor.line = front.count '\n' + (b.reachBack across).count '\n' :=
    (congrArg (List.count '\n') hfront).trans List.count_append
  have hstops : ((scanStops cls (b.behind across) false false).map fun i =>
      (b.retreat ((b.behind across).take i).flatten.length).cursor) =
      stopsUp cls b.cursor.line (b.reachBack across).lines.reverse := by
    rw [List.map_congr_left fun i _ => cursor_retreat_behind hfront i, hline]
    exact map_endOf_scanStops_reverse cls hreach hkept
  have hlast := cursor_retreat_behind hfront (b.behind across).length
  rw [List.take_length, List.drop_length, List.reverse_nil, List.flatten_nil, List.append_nil,
    hstart] at hlast
  rw [hstops, hlast] at hgo
  exact hgo

/-- A motion by words goes to the stops of the lines on its way, of which the first one is what is left
of the line of the cursor: to the last of those that it was asked for, and if there are fewer to the
end of the last line, or nowhere if there is none. -/
theorem word_motions_goTo {b : Buffer} (h : b.WellFormed) (cls : WordClass) (across : Bool)
    (n : Nat) :
    let line := b.cursor.line
    let lastLine := if across then b.lines.length - 1 else line
    ∃ front rest, b.lines[line]? = some (front ++ rest) ∧ front.size = b.cursor.offset ∧
      GoesTo b
        (stopsDown cls b.cursor (rest :: if across then b.lines.drop (line + 1) else []))
        { offset := (b.lines.getD lastLine []).size, line := lastLine } n
        (b.moveToWordEnd n across cls) ∧
      GoesTo b
        (stopsUp cls line (front :: if across then (b.lines.take line).reverse else []))
        { offset := 0, line := if across then 0 else line } n
        (b.moveToWordStart n across cls) := by
  intro line lastLine
  have hclean := wellFormed_iff.1 h
  rw [text, List.mem_append, not_or] at hclean
  have hend := goesTo_moveToWordEnd hclean.2 cls across n
  have hstart := goesTo_moveToWordStart hclean.1 cls across n
  rw [lines_reachOn, endOf_append_reachOn] at hend
  rw [lines_reachBack] at hstart
  exact ⟨b.before.lastLine, b.after.firstLine, b.lines_cursor, rfl, hend, hstart⟩

/-- From inside a word, over an empty line and back to the start of the text. -/
theorem word_motions_goTo_over_lines :
    let b : Buffer := { before := "one two-th".toList, after := "ree e\u0301\n\n x".toList }
    b.WellFormed ∧ ∃ front rest, b.lines[0]? = some (front ++ rest) ∧ front.size = 10 ∧
      GoesTo b
        (stopsDown .alphanumeric b.cursor (rest :: b.lines.drop 1))
        { offset := 2, line := 2 } 3 (b.moveToWordEnd 3 true .alphanumeric) ∧
      GoesTo b (stopsUp .alphanumeric 0 [front]) { offset := 0, line := 0 } 3
        (b.moveToWordStart 3 true .alphanumeric) := by
  intro b
  have hwell : b.WellFormed := wellFormed_iff.2 (by decide)
  exact ⟨hwell, word_motions_goTo hwell .alphanumeric true 3⟩

end LineEditor.Buffer
