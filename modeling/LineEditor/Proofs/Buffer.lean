import LineEditor.Buffer.Word
import LineEditor.Proofs.Pieces
import LineEditor.Proofs.Position

/-!
# The buffer

A buffer is two texts, so its cursor cannot leave the text.  What is left to say is how the numbers
that the operations compute fit the text: lines and cuts at the cursor, positions put back into the
text, and the ways of motions.

* The cursor.  `lines_cursor` and `splitAt?_cursor` say that the cursor parts one of the lines, and
  `eq_of_lines_cursor` that lines and cursor tell the buffer.
* Positions.  `clamp_inLines` says that a position put back into the text is a position of it.
* Text that is kept.  Motion keeps the text (`text_retreat`, `text_advance`, `text_atOffset`), and
  erasure takes one stretch out of it (`Cuts`).
* Erasure by positions.  `exists_erase_eq` says that the text between two positions can be erased,
  and what is left of it; `erase_retreat` and `erase_advance` say that erasing characters beside the
  cursor is erasing between two positions.
* Ways.  `exists_before_eq` and `exists_after_eq` say that the clusters of a way stand beside the
  cursor.  `scanStops` are the stops on a way; `wordScan_eq` says what a search for stops makes of
  them, and `exists_wordWay_eq` that a motion by words goes over whole clusters.
-/

namespace LineEditor

namespace Buffer

/-! ## The cursor -/

/-- The line of the cursor is the line with the number of the cursor. -/
theorem lines_cursor (b : Buffer) : b.lines[b.cursor.line]? = some b.currentLine :=
  Text.lines_getElem?_append b.before b.after

/-- The cursor parts its line into the text before it and the text after it. -/
theorem splitAt?_cursor (b : Buffer) :
    b.currentLine.splitAt? b.cursor.offset = some (b.before.lastLine, b.after.firstLine) :=
  Text.splitAt?_append _ _

theorem cursor_inLines (b : Buffer) : b.cursor.InLines b.lines :=
  ⟨b.currentLine, b.lines_cursor, b.before.lastLine, b.after.firstLine, rfl, rfl⟩

theorem isValid_iff (b : Buffer) (p : Position) : b.isValid p = true ↔ p.InLines b.lines :=
  Text.offset?_isSome_iff

/-- Lines and cursor are all there is to a buffer. -/
theorem eq_of_lines_cursor {b b' : Buffer} (hlines : b.lines = b'.lines)
    (hcursor : b.cursor = b'.cursor) : b = b' := by
  obtain ⟨before, after⟩ := b
  obtain ⟨before', after'⟩ := b'
  have htext : before ++ after = before' ++ after' := by
    have hunlines := congrArg Text.unlines hlines
    rwa [lines, lines, Text.unlines_lines, Text.unlines_lines] at hunlines
  have hlength : before.length = before'.length := by
    have hoffset : Text.offset? (before ++ after) (.endOf before) = some before.length :=
      Text.offset?_append before after
    have hoffset' : Text.offset? (before' ++ after') (.endOf before') = some before'.length :=
      Text.offset?_append before' after'
    have hends : Position.endOf before = Position.endOf before' := hcursor
    rw [htext, hends, hoffset'] at hoffset
    exact (Option.some.inj hoffset).symm
  obtain ⟨hbefore, hafter⟩ := List.append_inj htext hlength
  rw [hbefore, hafter]

/-! ## Positions -/

/-- The start of a cluster is the end of the clusters before it. -/
theorem exists_clusterFloor_eq (offset : Nat) (clusters : List Text) :
    ∃ n, clusterFloor offset clusters = Text.size (clusters.take n).flatten := by
  induction clusters generalizing offset with
  | nil => exact ⟨0, rfl⟩
  | cons cluster rest ih =>
    rw [clusterFloor]
    by_cases hle : cluster.size ≤ offset
    · obtain ⟨n, hn⟩ := ih (offset - cluster.size)
      refine ⟨n + 1, ?_⟩
      rw [if_pos hle, hn, List.take_succ_cons, List.flatten_cons, Text.size_append]
    · exact ⟨0, if_neg hle⟩

/-- A position put back into lines is a position of them. -/
theorem clampIn_inLines {lines : List Text} (hlines : lines ≠ []) (p : Position) :
    (clampIn lines p).InLines lines := by
  have hlength : 0 < lines.length := List.length_pos_iff.2 hlines
  have hline : min p.line (lines.length - 1) < lines.length := by omega
  obtain ⟨text, htext⟩ : ∃ text, lines[min p.line (lines.length - 1)]? = some text :=
    ⟨_, List.getElem?_eq_getElem hline⟩
  have hget : lines.getD (min p.line (lines.length - 1)) [] = text := by
    rw [List.getD_eq_getElem?_getD, htext, Option.getD_some]
  obtain ⟨n, hn⟩ := exists_clusterFloor_eq (min p.offset text.size) text.clusters
  refine ⟨text, htext, (text.clusters.take n).flatten, (text.clusters.drop n).flatten, ?_, ?_⟩
  · rw [← List.flatten_append, List.take_append_drop, Text.flatten_clusters]
  · rw [clampIn, hget, hn]

theorem clamp_inLines (b : Buffer) (p : Position) : (b.clamp p).InLines b.lines :=
  clampIn_inLines b.text.lines_ne_nil p

/-! ## Text that is kept -/

@[simp] theorem text_atOffset (b : Buffer) (n : Nat) : (b.atOffset n).text = b.text :=
  List.take_append_drop n b.text

@[simp] theorem text_retreat (b : Buffer) (n : Nat) : (b.retreat n).text = b.text := by
  rw [text, retreat, ← List.append_assoc, List.take_append_drop]
  rfl

@[simp] theorem text_advance (b : Buffer) (n : Nat) : (b.advance n).text = b.text := by
  rw [text, advance, List.append_assoc, List.take_append_drop]
  rfl

@[simp] theorem retreat_zero (b : Buffer) : b.retreat 0 = b := by
  simp [retreat]

@[simp] theorem advance_zero (b : Buffer) : b.advance 0 = b := by
  simp [advance]

@[simp] theorem cutBefore_zero (b : Buffer) : b.cutBefore 0 = ([], b) := by
  simp [cutBefore]

@[simp] theorem cutAfter_zero (b : Buffer) : b.cutAfter 0 = ([], b) := by
  simp [cutAfter]

theorem text_insert (b : Buffer) (text : Text) :
    (b.insert text).text = b.before ++ text.normalizeBreaks ++ b.after :=
  rfl

/-- Text without carriage returns is inserted as it is. -/
theorem insert_eq {text : Text} (h : '\r' ∉ text) (b : Buffer) :
    b.insert text = { b with before := b.before ++ text } := by
  rw [insert, Text.normalizeBreaks_eq_self h]

/-- An insertion that leaves the text as it is inserts nothing. -/
theorem eq_nil_of_text_insert {b : Buffer} {text : Text} (h : (b.insert text).text = b.text) :
    text = [] := by
  have hlength := congrArg List.length h
  rw [text_insert, Buffer.text] at hlength
  simp only [List.length_append] at hlength
  exact Text.eq_nil_of_normalizeBreaks (List.eq_nil_of_length_eq_zero (by omega))

/-- Insertion brings no carriage return into the text. -/
theorem return_notMem_insert {b : Buffer} (h : '\r' ∉ b.text) (text : Text) :
    '\r' ∉ (b.insert text).text := by
  rw [Buffer.text, List.mem_append, not_or] at h
  rw [text_insert, List.mem_append, List.mem_append, not_or, not_or]
  exact ⟨⟨h.1, text.return_notMem_normalizeBreaks⟩, h.2⟩

/-- The buffer `b'` is left of `b` when the text `cut` around the cursor is cut out of it. -/
def Cuts (b : Buffer) (cut : Text) (b' : Buffer) : Prop :=
  ∃ back on, b.before = b'.before ++ back ∧ b.after = on ++ b'.after ∧ cut = back ++ on

theorem Cuts.text_eq {b b' : Buffer} {cut : Text} (h : b.Cuts cut b') :
    b.text = b'.before ++ cut ++ b'.after := by
  obtain ⟨back, on, hback, hon, rfl⟩ := h
  rw [text, hback, hon, List.append_assoc, List.append_assoc, List.append_assoc]

theorem Cuts.mem_of_mem_cut {b b' : Buffer} {cut : Text} (h : b.Cuts cut b') {c : Char}
    (hc : c ∈ cut) : c ∈ b.text := by
  rw [h.text_eq]
  exact List.mem_append_left _ (List.mem_append_right _ hc)

theorem Cuts.mem_of_mem_text {b b' : Buffer} {cut : Text} (h : b.Cuts cut b') {c : Char}
    (hc : c ∈ b'.text) : c ∈ b.text := by
  rw [h.text_eq]
  rcases List.mem_append.1 hc with hbefore | hafter
  · exact List.mem_append_left _ (List.mem_append_left _ hbefore)
  · exact List.mem_append_right _ hafter

theorem cuts_cutBefore (b : Buffer) (n : Nat) : b.Cuts (b.cutBefore n).1 (b.cutBefore n).2 :=
  ⟨(b.cutBefore n).1, [], (List.take_append_drop _ _).symm, rfl, (List.append_nil _).symm⟩

theorem cuts_cutAfter (b : Buffer) (n : Nat) : b.Cuts (b.cutAfter n).1 (b.cutAfter n).2 :=
  ⟨[], (b.cutAfter n).1, (List.append_nil _).symm, (List.take_append_drop _ _).symm, rfl⟩

theorem cutBefore_ne_nil {b : Buffer} {n : Nat} (hn : 0 < n) (h : n ≤ b.before.length) :
    (b.cutBefore n).1 ≠ [] := by
  show b.before.drop (b.before.length - n) ≠ []
  rw [ne_eq, List.drop_eq_nil_iff]
  omega

theorem cutAfter_ne_nil {b : Buffer} {n : Nat} (hn : 0 < n) (h : n ≤ b.after.length) :
    (b.cutAfter n).1 ≠ [] := by
  show b.after.take n ≠ []
  rw [ne_eq, List.take_eq_nil_iff]
  rintro (hzero | hnil)
  · omega
  · rw [hnil, List.length_nil] at h
    omega

/-! ## Cursor and erasure by positions -/

theorem text_eraseSpan (b : Buffer) {i j : Nat} (hij : i ≤ j) :
    (b.eraseSpan i j).text = b.text.take i ++ b.text.drop j := by
  show b.before.take i ++ b.before.drop j ++
      (b.after.take (i - b.before.length) ++ b.after.drop (j - b.before.length)) = _
  rw [text, List.take_append, List.drop_append]
  -- the span ends before the cursor, or all text before the cursor lies before its end
  by_cases hj : j ≤ b.before.length
  · have hi : i - b.before.length = 0 := by omega
    rw [hi, List.take_zero, List.nil_append, List.append_nil, List.append_assoc]
  · rw [List.drop_eq_nil_of_le (by omega), List.append_nil, List.nil_append, List.append_assoc]

/-- The cursor can be put after any leading part of the text. -/
theorem place_endOf {b : Buffer} {left right : Text} (h : b.text = left ++ right) :
    b.place (.endOf left) = .ok { before := left, after := right } := by
  rw [place, h, Text.offset?_append]
  show Except.ok (b.atOffset left.length) = _
  rw [atOffset, h, List.take_left, List.drop_left]

/-- Where the cursor was put, it is. -/
theorem of_place {b b' : Buffer} {p : Position} (h : b.place p = .ok b') :
    b'.text = b.text ∧ b'.cursor = p := by
  unfold place at h
  split at h
  · next n hn =>
    obtain rfl := Except.ok.inj h
    exact ⟨text_atOffset b n, (Text.endOf_take_of_offset? hn).2⟩
  · simp at h

/-- The cursor can be put at a position of the text, which keeps the text. -/
theorem exists_place_eq {b : Buffer} {p : Position} (h : b.isValid p = true) :
    ∃ b', b.place p = .ok b' ∧ b'.text = b.text ∧ b'.cursor = p := by
  obtain ⟨n, hn⟩ := Option.isSome_iff_exists.1 h
  have hplace : b.place p = .ok (b.atOffset n) := by rw [place, hn]
  exact ⟨_, hplace, of_place hplace⟩

@[simp] theorem eraseSpan_self (b : Buffer) (n : Nat) : b.eraseSpan n n = b := by
  simp [eraseSpan]

theorem eraseSpan_before (b : Buffer) {n : Nat} (hn : n ≤ b.before.length) :
    b.eraseSpan n b.before.length = { b with before := b.before.take n } := by
  simp [eraseSpan, Nat.sub_eq_zero_of_le hn]

theorem eraseSpan_after (b : Buffer) (n : Nat) :
    b.eraseSpan b.before.length (b.before.length + n) = { b with after := b.after.drop n } := by
  simp [eraseSpan]

/-- The order of the two positions does not matter. -/
theorem erase_comm (b : Buffer) (p q : Position) : b.erase p q = b.erase q p := by
  by_cases heq : p = q
  · rw [heq]
  · unfold erase
    rw [if_neg heq, if_neg (Ne.symm heq)]
    rcases Position.le_total p q with hle | hle
    · rw [if_neg (Position.not_lt_of_le hle), if_pos (Position.lt_of_le_of_ne hle heq)]
    · rw [if_neg (Position.not_lt_of_le hle), if_pos (Position.lt_of_le_of_ne hle (Ne.symm heq))]

/-- Erasure between the ends of two leading parts of the text takes out what one of them has more
than the other. -/
theorem erase_endOf {b : Buffer} {left cut right : Text} (h : b.text = left ++ cut ++ right) :
    b.erase (.endOf left) (.endOf (left ++ cut)) =
      .ok (cut, b.eraseSpan left.length (left ++ cut).length) := by
  have hleft : b.text.offset? (.endOf left) = some left.length := by
    rw [h, List.append_assoc, Text.offset?_append]
  have hcut : b.text.offset? (.endOf (left ++ cut)) = some (left ++ cut).length := by
    rw [h, Text.offset?_append]
  by_cases heq : Position.endOf left = Position.endOf (left ++ cut)
  · obtain rfl : cut = [] := Text.endOf_append_eq_iff.1 heq.symm
    rw [erase, if_pos heq, List.append_nil, eraseSpan_self]
  · have hle := Position.endOf_le_append left cut
    rw [erase, if_neg heq, if_neg (Position.not_lt_of_le hle)]
    dsimp only
    rw [hleft, hcut]
    dsimp only
    rw [h, List.take_left, List.drop_left]

theorem text_eraseSpan_append {b : Buffer} {left cut right : Text}
    (h : b.text = left ++ cut ++ right) :
    (b.eraseSpan left.length (left ++ cut).length).text = left ++ right := by
  rw [text_eraseSpan b (by rw [List.length_append]; omega), h, List.drop_left, List.append_assoc,
    List.take_left]

/-- Erasure between two positions takes out the text between them, whichever of them is first. -/
theorem erase_eq {b : Buffer} {p q : Position} {left cut right : Text}
    (h : b.text = left ++ cut ++ right) (hleft : Position.endOf left = min p q)
    (hcut : Position.endOf (left ++ cut) = max p q) :
    b.erase p q = .ok (cut, b.eraseSpan left.length (left ++ cut).length) := by
  rcases Position.le_total p q with hle | hle
  · rw [Position.min_eq_left hle] at hleft
    rw [Position.max_eq_right hle] at hcut
    rw [← hleft, ← hcut, erase_endOf h]
  · rw [Position.min_eq_right hle] at hleft
    rw [Position.max_eq_left hle] at hcut
    rw [← hleft, ← hcut, erase_comm, erase_endOf h]

/-- The text between two positions can be erased, which leaves the text before the first and after
the second of them. -/
theorem exists_erase_eq {b : Buffer} {p q : Position} (hp : p.InLines b.lines)
    (hq : q.InLines b.lines) :
    ∃ left cut right b', b.erase p q = .ok (cut, b') ∧ b.text = left ++ cut ++ right ∧
      b'.text = left ++ right ∧ Position.endOf left = min p q ∧
      Position.endOf (left ++ cut) = max p q := by
  obtain ⟨left, cut, right, htext, hleft, hcut⟩ := Text.exists_parts_min_max hp hq
  exact ⟨left, cut, right, _, erase_eq htext hleft hcut, htext, text_eraseSpan_append htext, hleft,
    hcut⟩

/-- Erasing characters before the cursor is erasing from where the cursor would go. -/
theorem erase_retreat (b : Buffer) (n : Nat) :
    b.erase (b.retreat n).cursor b.cursor = .ok (b.cutBefore n) := by
  have hbefore : b.before.take (b.before.length - n) ++ b.before.drop (b.before.length - n) =
      b.before := List.take_append_drop _ _
  have htext : b.text = b.before.take (b.before.length - n) ++
      b.before.drop (b.before.length - n) ++ b.after := by
    rw [hbefore]
    rfl
  have herase := erase_endOf htext
  rw [hbefore, List.length_take_of_le (Nat.sub_le _ _), eraseSpan_before _ (Nat.sub_le _ _)]
    at herase
  exact herase

/-- Erasing characters after the cursor is erasing to where the cursor would go. -/
theorem erase_advance (b : Buffer) (n : Nat) :
    b.erase b.cursor (b.advance n).cursor = .ok (b.cutAfter n) := by
  have htext : b.text = b.before ++ b.after.take n ++ b.after.drop n := by
    rw [List.append_assoc, List.take_append_drop]
    rfl
  have herase := erase_endOf htext
  rw [List.length_append, eraseSpan_after, List.length_take, ← List.drop_eq_drop_min] at herase
  exact herase

/-! ## Ways -/

/-- The clusters of the way back are the text right before the cursor. -/
theorem exists_before_eq (b : Buffer) (n : Nat) (across : Bool) :
    ∃ rest, b.before = rest ++ ((b.behind across).take n).reverse.flatten := by
  obtain ⟨front, hfront⟩ : ∃ front, b.before =
      front ++ (if across then b.before else b.before.lastLine) := by
    cases across with
    | true => exact ⟨[], rfl⟩
    | false => exact b.before.exists_eq_append_lastLine.imp fun _ h => h.1
  unfold behind
  generalize (if across then b.before else b.before.lastLine) = way at hfront ⊢
  refine ⟨front ++ (way.clusters.take (way.clusters.length - n)).flatten, ?_⟩
  rw [List.take_reverse, List.reverse_reverse, List.append_assoc, ← List.flatten_append,
    List.take_append_drop, Text.flatten_clusters]
  exact hfront

/-- The clusters of the way on are the text right after the cursor. -/
theorem exists_after_eq (b : Buffer) (n : Nat) (across : Bool) :
    ∃ rest, b.after = ((b.ahead across).take n).flatten ++ rest := by
  obtain ⟨back, hback⟩ : ∃ back, b.after =
      (if across then b.after else b.after.firstLine) ++ back := by
    cases across with
    | true => exact ⟨[], (List.append_nil _).symm⟩
    | false => exact b.after.exists_eq_firstLine_append.imp fun _ h => h.1
  unfold ahead
  generalize (if across then b.after else b.after.firstLine) = way at hback ⊢
  refine ⟨(way.clusters.drop n).flatten ++ back, ?_⟩
  rw [← List.append_assoc, ← List.flatten_append, List.take_append_drop, Text.flatten_clusters]
  exact hback

/-- The stops that a scan meets, each by the number of the clusters passed before it. -/
def scanStops (cls : WordClass) : List Text → Bool → Bool → List Nat
  | [], _, started => if started then [0] else []
  | cluster :: rest, inWord, started =>
    (if isWordStop cls inWord started cluster then [0] else []) ++
      (scanStops cls rest (cls.contains cluster) (cluster ≠ ['\n'])).map (· + 1)

/-- A scan meets its stops in order, goes up to the last one that was asked for, and to the end of its
way if there are fewer. -/
theorem wordScan_eq (cls : WordClass) (way : List Text) (inWord started : Bool) (n : Nat) :
    wordScan cls way inWord started n =
      (min n (scanStops cls way inWord started).length,
        if n = 0 then 0
        else (way.take ((scanStops cls way inWord started).getD (n - 1) way.length)).flatten.length) := by
  induction way generalizing inWord started n with
  | nil =>
    cases n with
    | zero => simp [wordScan]
    | succ n => cases started <;> simp [wordScan, scanStops]
  | cons cluster rest ih =>
    cases n with
    | zero => simp [wordScan]
    | succ n =>
      rw [wordScan, scanStops]
      dsimp only
      cases isWordStop cls inWord started cluster with
      | false => simp [ih]
      | true =>
        cases n with
        | zero => simp
        | succ n => simp [ih]

theorem wordWay_eq (cls : WordClass) (way : List Text) (n : Nat) :
    wordWay cls way n =
      if (wordScan cls way false false n).1 = 0 then (0, 0) else wordScan cls way false false n :=
  rfl

/-- A motion by words goes over whole clusters. -/
theorem exists_wordWay_eq (cls : WordClass) (way : List Text) (n : Nat) :
    ∃ k, (wordWay cls way n).2 = (way.take k).flatten.length := by
  rw [wordWay_eq, wordScan_eq]
  by_cases hmet : min n (scanStops cls way false false).length = 0
  · exact ⟨0, by rw [if_pos hmet]; rfl⟩
  · exact ⟨_, by rw [if_neg hmet, if_neg (by omega)]⟩

theorem length_behind_le (b : Buffer) (n : Nat) (across : Bool) :
    (((b.behind across).take n).flatten).length ≤ b.before.length := by
  obtain ⟨rest, hrest⟩ := exists_before_eq b n across
  rw [hrest, List.length_append, Text.length_flatten_reverse]
  omega

theorem length_ahead_le (b : Buffer) (n : Nat) (across : Bool) :
    (((b.ahead across).take n).flatten).length ≤ b.after.length := by
  obtain ⟨rest, hrest⟩ := exists_after_eq b n across
  rw [hrest, List.length_append]
  omega

theorem wordStart_le (b : Buffer) (n : Nat) (across : Bool) (cls : WordClass) :
    (b.wordStart n across cls).2 ≤ b.before.length := by
  obtain ⟨k, hk⟩ := exists_wordWay_eq cls (b.behind across) n
  rw [wordStart, hk]
  exact b.length_behind_le k across

theorem wordEnd_le (b : Buffer) (n : Nat) (across : Bool) (cls : WordClass) :
    (b.wordEnd n across cls).2 ≤ b.after.length := by
  obtain ⟨k, hk⟩ := exists_wordWay_eq cls (b.ahead across) n
  rw [wordEnd, hk]
  exact b.length_ahead_le k across

/-- A motion by words that meets a stop passes text: there is no stop before the first cluster. -/
theorem wordWay_pos {way : List Text} (hway : ∀ cluster ∈ way, cluster ≠ []) {cls : WordClass}
    {n : Nat} (h : (wordWay cls way n).1 ≠ 0) : 0 < (wordWay cls way n).2 := by
  have heq := wordWay_eq cls way n
  by_cases hmet : (wordScan cls way false false n).1 = 0
  · rw [heq, if_pos hmet] at h
    exact absurd rfl h
  · rw [heq, if_neg hmet]
    cases way with
    | nil => exact absurd (by cases n <;> rfl) hmet
    | cons cluster rest =>
      cases n with
      | zero => exact absurd rfl hmet
      | succ n =>
        have hstop : isWordStop cls false false cluster = false := by
          unfold isWordStop
          split <;> rfl
        have hpos : 0 < cluster.length := List.length_pos_iff.2 (hway cluster List.mem_cons_self)
        rw [wordScan, hstop]
        show 0 < cluster.length + _
        omega

theorem ne_nil_of_mem_behind (b : Buffer) (across : Bool) :
    ∀ cluster ∈ b.behind across, cluster ≠ [] :=
  fun _ h => Text.ne_nil_of_mem_clusters (List.mem_reverse.1 h)

theorem ne_nil_of_mem_ahead (b : Buffer) (across : Bool) :
    ∀ cluster ∈ b.ahead across, cluster ≠ [] :=
  fun _ h => Text.ne_nil_of_mem_clusters h

/-! ## Motion and erasure over clusters -/

/-- Clusters that are passed are text that is passed. -/
theorem length_passed_pos {way : List Text} (hway : ∀ cluster ∈ way, cluster ≠ []) {n : Nat}
    (h : (way.take n).length ≠ 0) : 0 < (way.take n).flatten.length := by
  obtain ⟨cluster, hmem⟩ := List.exists_mem_of_length_pos (Nat.pos_of_ne_zero h)
  have hpos : 0 < cluster.length := List.length_pos_iff.2 (hway cluster (List.mem_of_mem_take hmem))
  have hle : cluster.length ≤ (way.take n).flatten.length := (List.sublist_flatten_of_mem hmem).length_le
  omega

theorem retreat_ne {b : Buffer} {n : Nat} (hn : 0 < n) (h : n ≤ b.before.length) :
    b.retreat n ≠ b := by
  intro heq
  have hlength : (b.before.take (b.before.length - n)).length = b.before.length :=
    congrArg (·.before.length) heq
  rw [List.length_take] at hlength
  omega

theorem advance_ne {b : Buffer} {n : Nat} (hn : 0 < n) (h : n ≤ b.after.length) :
    b.advance n ≠ b := by
  intro heq
  have hlength : (b.after.drop n).length = b.after.length := congrArg (·.after.length) heq
  rw [List.length_drop] at hlength
  omega

theorem moveLeft_ne {b : Buffer} {n : Nat} {across : Bool} (h : (b.moveLeft n across).1 ≠ 0) :
    (b.moveLeft n across).2 ≠ b :=
  retreat_ne (length_passed_pos (b.ne_nil_of_mem_behind across) h) (b.length_behind_le n across)

theorem moveRight_ne {b : Buffer} {n : Nat} {across : Bool} (h : (b.moveRight n across).1 ≠ 0) :
    (b.moveRight n across).2 ≠ b :=
  advance_ne (length_passed_pos (b.ne_nil_of_mem_ahead across) h) (b.length_ahead_le n across)

theorem moveLeft_eq_self {b : Buffer} {n : Nat} {across : Bool}
    (h : (b.moveLeft n across).1 = 0) : (b.moveLeft n across).2 = b := by
  have hpassed : (b.behind across).take n = [] := List.eq_nil_of_length_eq_zero h
  unfold moveLeft
  rw [hpassed]
  exact b.retreat_zero

theorem moveRight_eq_self {b : Buffer} {n : Nat} {across : Bool}
    (h : (b.moveRight n across).1 = 0) : (b.moveRight n across).2 = b := by
  have hpassed : (b.ahead across).take n = [] := List.eq_nil_of_length_eq_zero h
  unfold moveRight
  rw [hpassed]
  exact b.advance_zero

theorem eraseBefore_eq_self {b : Buffer} {n : Nat} {across : Bool}
    (h : (b.eraseBefore n across).1 = 0) : (b.eraseBefore n across).2 = b := by
  have hpassed : (b.behind across).take n = [] := List.eq_nil_of_length_eq_zero h
  unfold eraseBefore
  rw [hpassed]
  exact congrArg Prod.snd b.cutBefore_zero

theorem eraseAfter_eq_self {b : Buffer} {n : Nat} {across : Bool}
    (h : (b.eraseAfter n across).1 = 0) : (b.eraseAfter n across).2 = b := by
  have hpassed : (b.ahead across).take n = [] := List.eq_nil_of_length_eq_zero h
  unfold eraseAfter
  rw [hpassed]
  exact congrArg Prod.snd b.cutAfter_zero

end Buffer

end LineEditor
