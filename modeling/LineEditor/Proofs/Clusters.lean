import LineEditor.Proofs.Clamp

/-!
# Where clusters part

Clusters are found from left to right, so whether two texts part between two clusters is decided by
the end of the last cluster of the first text and by the first character of the second.

* The scan.  `Tail.scan` is the end of the last cluster after more text.
* Two texts.  `Text.joins` says whether the second goes on with the last cluster of the first;
  `clusters_append` and `exists_take_clusters_iff` say that exactly otherwise the clusters of both
  are the clusters of the whole.  So are the clusters of leading and of further clusters
  (`clusters_flatten_take`, `clusters_flatten_drop`).
* Parts of texts.  Text in front of a parting and text behind it make no difference
  (`joins_append_left`, `joins_append_right`), so lines can be looked at one by one
  (`joins_lastLine_firstLine`).
* Positions.  `betweenClusters_endOf_iff` says which positions lie between two clusters.
* The cursor.  `Buffer.IsParted` says that the cursor is at such a position.
-/

namespace LineEditor

open Unicode

/-! ## The scan -/

namespace Tail

/-- The end of the last cluster of more text after an unfinished cluster with this end. -/
def scan (tail : Tail) : Text → Tail
  | [] => tail
  | c :: rest => (if tail.joins c then tail.push c else start c).scan rest

@[simp] theorem scan_nil (tail : Tail) : tail.scan [] = tail := rfl

theorem scan_cons (tail : Tail) (c : Char) (rest : Text) :
    tail.scan (c :: rest) = (if tail.joins c then tail.push c else start c).scan rest := rfl

theorem scan_append (tail : Tail) (left right : Text) :
    tail.scan (left ++ right) = (tail.scan left).scan right := by
  induction left generalizing tail with
  | nil => rfl
  | cons c left ih => rw [List.cons_append, scan_cons, scan_cons, ih]

/-- The class of the last character is remembered whether it joins a cluster or begins one. -/
theorem last_scan_singleton (tail : Tail) (c : Char) : (tail.scan [c]).last = Break.ofChar c := by
  rw [scan_cons, scan_nil]
  split <;> rfl

/-- Nothing joins a line feed. -/
theorem joins_of_last_eq_lineFeed {tail : Tail} (h : tail.last = .lineFeed) (c : Char) :
    tail.joins c = false := by
  simp [joins, joinsClass, h, Break.isAlone]

/-- A line feed joins nothing but a carriage return. -/
theorem joins_newline {tail : Tail} (h : tail.last ≠ .carriageReturn) :
    tail.joins '\n' = false := by
  have hclass : Break.ofChar '\n' = .lineFeed := by decide
  simp [joins, joinsClass, hclass, h, Break.isAlone]

theorem ofChar_ne_carriageReturn {c : Char} (h : c ≠ '\r') : Break.ofChar c ≠ .carriageReturn := by
  have hite {p : Prop} [Decidable p] {a b : Break} (ha : a ≠ .carriageReturn)
      (hb : b ≠ .carriageReturn) : (if p then a else b) ≠ .carriageReturn := by
    split
    · exact ha
    · exact hb
  unfold Break.ofChar
  rw [if_neg h]
  unfold Break.ofLetter
  repeat' apply hite
  all_goals decide

theorem last_scan_ne_carriageReturn {tail : Tail} (h : tail.last ≠ .carriageReturn) {text : Text}
    (htext : '\r' ∉ text) : (tail.scan text).last ≠ .carriageReturn := by
  induction text generalizing tail with
  | nil => exact h
  | cons c text ih =>
    rw [List.mem_cons, not_or] at htext
    have hc := ofChar_ne_carriageReturn (Ne.symm htext.1)
    rw [← last_scan_singleton tail c] at hc
    exact ih hc htext.2

end Tail

namespace Text

/-! ## Two texts -/

/-- Whether the first character of `right` joins the last cluster of `left`. -/
def joins : Text → Text → Bool
  | c :: left, d :: _ => ((Tail.start c).scan left).joins d
  | _, _ => false

@[simp] theorem joins_nil_left (right : Text) : joins [] right = false := rfl

@[simp] theorem joins_nil_right (left : Text) : joins left [] = false := by
  cases left <;> rfl

/-- A cluster that is under way goes on in the first cluster. -/
theorem exists_clustersFrom_eq_cons (tail : Tail) (current text : Text) :
    ∃ more rest, clustersFrom tail current text = (current.reverse ++ more) :: rest := by
  induction text generalizing tail current with
  | nil => exact ⟨[], [], by simp [clustersFrom]⟩
  | cons c text ih =>
    rw [clustersFrom]
    split
    · obtain ⟨more, rest, heq⟩ := ih (tail.push c) (c :: current)
      exact ⟨c :: more, rest, by simp [heq]⟩
    · exact ⟨[], _, by rw [List.append_nil]⟩

/-- Where a character does not join the scan starts anew. -/
theorem clustersFrom_append {tail : Tail} {left : Text} {c : Char}
    (h : (tail.scan left).joins c = false) (current right : Text) :
    clustersFrom tail current (left ++ c :: right) =
      clustersFrom tail current left ++ clusters (c :: right) := by
  induction left generalizing tail current with
  | nil =>
    rw [Tail.scan_nil] at h
    simp [clustersFrom, clusters, h]
  | cons d left ih =>
    rw [Tail.scan_cons] at h
    rw [List.cons_append, clustersFrom, clustersFrom]
    by_cases hd : tail.joins d = true
    · rw [if_pos hd] at h ⊢
      rw [if_pos hd, ih h]
    · rw [if_neg hd] at h ⊢
      rw [if_neg hd, ih h, List.cons_append]

/-- Texts that do not join fall into their clusters one after the other. -/
theorem clusters_append {left right : Text} (h : joins left right = false) :
    clusters (left ++ right) = clusters left ++ clusters right := by
  cases left with
  | nil => rfl
  | cons c left =>
    cases right with
    | nil => simp [clusters]
    | cons d right => exact clustersFrom_append h [c] right

/-- Where a character joins no cluster ends. -/
theorem take_clustersFrom_ne {tail : Tail} {current left : Text} {c : Char}
    (hcurrent : current ≠ []) (h : (tail.scan left).joins c = true) (right : Text) (n : Nat) :
    ((clustersFrom tail current (left ++ c :: right)).take n).flatten ≠ current.reverse ++ left := by
  induction left generalizing tail current n with
  | nil =>
    rw [Tail.scan_nil] at h
    rw [List.nil_append, clustersFrom, if_pos h, List.append_nil]
    obtain ⟨more, rest, heq⟩ := exists_clustersFrom_eq_cons (tail.push c) (c :: current) right
    rw [heq]
    intro hflatten
    have hlength := congrArg List.length hflatten
    have hpos := List.length_pos_iff.2 hcurrent
    cases n with
    | zero =>
      simp at hlength
      omega
    | succ n => simp at hlength
  | cons d left ih =>
    rw [Tail.scan_cons] at h
    rw [List.cons_append, clustersFrom]
    by_cases hd : tail.joins d = true
    · rw [if_pos hd] at h ⊢
      have hne := ih (List.cons_ne_nil d current) h n
      rwa [List.reverse_cons, List.append_assoc, List.singleton_append] at hne
    · rw [if_neg hd] at h ⊢
      cases n with
      | zero =>
        intro hnil
        have hlength := congrArg List.length hnil
        simp at hlength
      | succ n =>
        rw [List.take_succ_cons, List.flatten_cons, ne_eq, List.append_cancel_left_eq]
        exact ih (List.cons_ne_nil d []) h n

/-- A text ends between two clusters of the whole exactly if the rest does not join it. -/
theorem exists_take_clusters_iff {left right : Text} :
    (∃ n, ((clusters (left ++ right)).take n).flatten = left) ↔ joins left right = false := by
  constructor
  · rintro ⟨n, hn⟩
    cases left with
    | nil => rfl
    | cons c left =>
      cases right with
      | nil => rfl
      | cons d right =>
        by_contra hjoins
        rw [Bool.not_eq_false] at hjoins
        exact take_clustersFrom_ne (List.cons_ne_nil c []) hjoins right n hn
  · intro h
    refine ⟨(clusters left).length, ?_⟩
    rw [clusters_append h, List.take_left, flatten_clusters]

/-- Leading clusters of a text part from the rest. -/
theorem joins_take_clusters (text : Text) (n : Nat) :
    joins (text.clusters.take n).flatten (text.clusters.drop n).flatten = false := by
  rw [← exists_take_clusters_iff, ← List.flatten_append, List.take_append_drop, flatten_clusters]
  exact ⟨n, rfl⟩

/-- Two rows of texts that are not empty, of which one begins the other, are equal if they make up
the same text. -/
theorem eq_of_flatten_eq {front back front' back' : List Text} (h : front ++ back = front' ++ back')
    (hne : ∀ text ∈ front ++ back, text ≠ []) (hflatten : front.flatten = front'.flatten) :
    front = front' := by
  have hnil {more : List Text} (hmore : ∀ text ∈ more, text ≠ []) (hempty : more.flatten = []) :
      more = [] := by
    rw [List.flatten_eq_nil_iff] at hempty
    exact List.eq_nil_iff_forall_not_mem.2 fun text htext => hmore text htext (hempty text htext)
  rcases List.append_eq_append_iff.1 h with ⟨more, hmore, hback⟩ | ⟨more, hmore, -⟩
  · rw [hmore, List.flatten_append, List.self_eq_append_right] at hflatten
    rw [hmore, hnil (fun text htext => hne text ?_) hflatten, List.append_nil]
    rw [hback]
    exact List.mem_append_right _ (List.mem_append_left _ htext)
  · rw [hmore, List.flatten_append, List.append_right_eq_self] at hflatten
    rw [hmore, hnil (fun text htext => hne text ?_) hflatten, List.append_nil]
    rw [hmore]
    exact List.mem_append_left _ (List.mem_append_right _ htext)

/-- Leading clusters of a text are the clusters of what they make up. -/
theorem clusters_flatten_take (text : Text) (n : Nat) :
    clusters (text.clusters.take n).flatten = text.clusters.take n := by
  have hparts := clusters_append (joins_take_clusters text n)
  rw [← List.flatten_append, List.take_append_drop, flatten_clusters] at hparts
  refine eq_of_flatten_eq (hparts.symm.trans (List.take_append_drop n _).symm) (fun part hpart => ?_)
    (flatten_clusters _)
  rw [← hparts] at hpart
  exact ne_nil_of_mem_clusters hpart

/-- So are the clusters after them. -/
theorem clusters_flatten_drop (text : Text) (n : Nat) :
    clusters (text.clusters.drop n).flatten = text.clusters.drop n := by
  have hparts := clusters_append (joins_take_clusters text n)
  rw [← List.flatten_append, List.take_append_drop, flatten_clusters, clusters_flatten_take] at hparts
  exact List.append_cancel_left (hparts.symm.trans (List.take_append_drop n _).symm)

/-! ## Parts of texts -/

/-- Only the first character of the second text counts. -/
theorem joins_append_right {mid : Text} (hmid : mid ≠ []) (left right : Text) :
    joins left (mid ++ right) = joins left mid := by
  cases mid with
  | nil => exact absurd rfl hmid
  | cons d mid => cases left <;> rfl

theorem scan_append_of_joins_eq_false {left mid : Text} (h : joins left mid = false)
    {c d : Char} {left' mid' : Text} (hleft : left = c :: left') (hmid : mid = d :: mid') :
    (Tail.start c).scan (left' ++ mid) = (Tail.start d).scan mid' := by
  subst hleft hmid
  have hd : ((Tail.start c).scan left').joins d = false := h
  rw [Tail.scan_append, Tail.scan_cons, hd]
  rfl

/-- Text in front of a parting makes no difference. -/
theorem joins_append_left {left mid : Text} (h : joins left mid = false) (hmid : mid ≠ [])
    (right : Text) : joins (left ++ mid) right = joins mid right := by
  cases left with
  | nil => rfl
  | cons c left =>
    cases mid with
    | nil => exact absurd rfl hmid
    | cons d mid =>
      cases right with
      | nil => rfl
      | cons e right =>
        show ((Tail.start c).scan (left ++ d :: mid)).joins e = ((Tail.start d).scan mid).joins e
        rw [scan_append_of_joins_eq_false h rfl rfl]

/-- A place where the clusters of a middle part part is one where those of the whole do. -/
theorem joins_within {left mid mid' right : Text}
    (hleft : joins left (mid ++ (mid' ++ right)) = false) (hmid : joins mid mid' = false)
    (hright : joins (left ++ (mid ++ mid')) right = false) :
    joins (left ++ mid) (mid' ++ right) = false := by
  by_cases hnil : mid = []
  · subst hnil
    rw [List.append_nil]
    exact hleft
  by_cases hnil' : mid' = []
  · rw [hnil', List.append_nil] at hright
    rwa [hnil']
  rw [joins_append_right hnil] at hleft
  rw [joins_append_left hleft hnil, joins_append_right hnil', hmid]

/-! ### Lines -/

theorem joins_newline {left : Text} (h : '\r' ∉ left) (right : Text) :
    joins left ('\n' :: right) = false := by
  cases left with
  | nil => rfl
  | cons c left =>
    rw [List.mem_cons, not_or] at h
    have hlast : (Tail.start c).last ≠ .carriageReturn :=
      Tail.ofChar_ne_carriageReturn (Ne.symm h.1)
    exact Tail.joins_newline (Tail.last_scan_ne_carriageReturn hlast h.2)

theorem joins_append_newline (left right : Text) : joins (left ++ ['\n']) right = false := by
  have hlast : ∀ tail : Tail, (tail.scan ['\n']).last = .lineFeed := fun tail => by
    rw [Tail.last_scan_singleton]
    decide
  cases right with
  | nil => exact joins_nil_right _
  | cons d right =>
    cases left with
    | nil => exact Tail.joins_of_last_eq_lineFeed (by decide) d
    | cons c left =>
      show ((Tail.start c).scan (left ++ ['\n'])).joins d = false
      rw [Tail.scan_append]
      exact Tail.joins_of_last_eq_lineFeed (hlast _) d

/-- A line feed is a cluster of its own between those before it and those after it. -/
theorem clusters_append_newline {left : Text} (h : '\r' ∉ left) (right : Text) :
    clusters (left ++ '\n' :: right) = left.clusters ++ ['\n'] :: right.clusters := by
  rw [clusters_append (joins_newline h right)]
  exact congrArg _ (clusters_append (joins_append_newline [] right))

/-- Only the last line of the first text counts. -/
theorem joins_lastLine (left right : Text) : joins left.lastLine right = joins left right := by
  by_cases hmem : '\n' ∈ left
  · obtain ⟨rest, heq⟩ := exists_eq_append_newline hmem
    generalize left.lastLine = last at heq ⊢
    subst heq
    by_cases hnil : last = []
    · rw [hnil, List.append_nil, joins_append_newline, joins_nil_left]
    · rw [joins_append_left (joins_append_newline rest last) hnil]
  · rw [lastLine_eq_self hmem]

/-- Only the first line of the second text counts, unless a carriage return stands before it. -/
theorem joins_firstLine {left : Text} (h : '\r' ∉ left) (right : Text) :
    joins left right.firstLine = joins left right := by
  cases right with
  | nil => rfl
  | cons d right =>
    by_cases hd : d = '\n'
    · rw [hd, firstLine_newline, joins_nil_right, joins_newline h]
    · rw [firstLine_cons hd]
      cases left <;> rfl

/-- Whether texts join is decided on the line on which they meet. -/
theorem joins_lastLine_firstLine {left : Text} (h : '\r' ∉ left) (right : Text) :
    joins left.lastLine right.firstLine = joins left right := by
  rw [joins_lastLine, joins_firstLine h]

end Text

/-! ## Positions -/

/-- The place where two texts meet lies between two clusters of its line exactly if they do not
join. -/
theorem betweenClusters_endOf_iff {left : Text} (h : '\r' ∉ left) (right : Text) :
    (Position.endOf left).BetweenClusters (left ++ right).lines ↔
      Text.joins left right = false := by
  have hline : (left ++ right).lines[(Position.endOf left).line]? =
      some (left.lastLine ++ right.firstLine) := Text.lines_getElem?_append left right
  rw [← Text.joins_lastLine_firstLine h, ← Text.exists_take_clusters_iff]
  constructor
  · rintro ⟨line, hline', n, hn⟩
    rw [hline, Option.some.injEq] at hline'
    subst hline'
    refine ⟨n, ?_⟩
    -- the leading clusters have as many bytes as the part of the line in front of the place
    generalize hparts : (left.lastLine ++ right.firstLine).clusters = parts at hn ⊢
    have hwhole : (parts.take n).flatten ++ (parts.drop n).flatten =
        left.lastLine ++ right.firstLine := by
      rw [← List.flatten_append, List.take_append_drop, ← hparts, Text.flatten_clusters]
    obtain ⟨more, hmore, -⟩ := Text.exists_append_of_size_le hwhole (Nat.le_of_eq hn)
    have hsize := congrArg Text.size hmore
    rw [Text.size_append] at hsize
    have hoffset : (Position.endOf left).offset = left.lastLine.size := rfl
    have hnil : more = [] := Text.size_eq_zero_iff.1 (by omega)
    rw [hmore, hnil, List.append_nil]
  · rintro ⟨n, hn⟩
    exact ⟨_, hline, n, congrArg Text.size hn⟩

namespace Buffer

/-- Whether the cursor parts the text where its clusters part: the text after it does not join the
text before it. -/
def IsParted (b : Buffer) : Prop :=
  Text.joins b.before b.after = false

instance (b : Buffer) : Decidable b.IsParted :=
  inferInstanceAs (Decidable (Text.joins b.before b.after = false))

/-- The cursor is between two clusters of its line exactly if it parts the text there. -/
theorem cursor_betweenClusters_iff {b : Buffer} (h : '\r' ∉ b.text) :
    b.cursor.BetweenClusters b.lines ↔ b.IsParted :=
  betweenClusters_endOf_iff (fun hmem => h (List.mem_append_left _ hmem)) b.after

/-- At the end of the text there is nothing to join. -/
theorem isParted_of_after_eq_nil {b : Buffer} (h : b.after = []) : b.IsParted := by
  rw [IsParted, h, Text.joins_nil_right]

/-- A cursor that is put between two clusters parts the text there. -/
theorem isParted_of_place {b b' : Buffer} {p : Position} (hclean : '\r' ∉ b.text)
    (hp : p.BetweenClusters b.lines) (h : b.place p = .ok b') : b'.IsParted := by
  obtain ⟨htext, hcursor⟩ := of_place h
  rw [lines, ← htext, ← hcursor] at hp
  rw [← htext] at hclean
  exact (cursor_betweenClusters_iff hclean).1 hp

end Buffer

end LineEditor
