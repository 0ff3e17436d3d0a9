import LineEditor.Text
import Mathlib.Algebra.GroupWithZero.Nat
import Mathlib.Data.List.TakeWhile

/-!
# Sizes, cuts and lines

The facts about plain text that the rest of the theory rests on.

* Sizes.  `size` is additive, and only the empty text has size zero.
* Cuts.  `splitAt?_eq_some_iff` says that a cut at byte `n` succeeds exactly where the text falls
  into two parts, the first of which has `n` bytes.
* First and last lines.  `lastLine_cons` is the recursion of `lastLine`, whose definition works
  from the other end.
* Lines.  `lines_getElem?_append` names the line on which two texts meet, `lines_append` says what the
  lines of both together are, `newline_notMem_of_mem_lines` that no line holds a line feed, and
  `lines_eq_splitOn` that the lines are the pieces between the line feeds.  A text can be gone over
  line by line with `inductionOnLines` and `reverseInductionOnLines`.
* Line breaks from outside.  `normalizeBreaks` leaves no carriage return.
-/

namespace LineEditor.Text

/-! ## Sizes -/

@[simp] theorem size_nil : size [] = 0 := rfl

@[simp] theorem size_cons (c : Char) (text : Text) :
    size (c :: text) = c.utf8Size + size text := rfl

@[simp] theorem size_append (left right : Text) :
    size (left ++ right) = size left + size right := by
  induction left with
  | nil => simp
  | cons c left ih =>
    rw [List.cons_append, size_cons, size_cons, ih]
    omega

theorem size_eq_zero_iff {text : Text} : size text = 0 ↔ text = [] := by
  cases text with
  | nil => simp
  | cons c text =>
    have hpos := c.utf8Size_pos
    simp only [size_cons, reduceCtorEq, iff_false]
    omega

theorem size_pos_iff {text : Text} : 0 < size text ↔ text ≠ [] := by
  rw [Nat.pos_iff_ne_zero, ne_eq, size_eq_zero_iff]

theorem size_flatten (texts : List Text) : size texts.flatten = (texts.map size).sum := by
  induction texts with
  | nil => rfl
  | cons text texts ih =>
    rw [List.flatten_cons, size_append, ih, List.map_cons, List.sum_cons]

theorem length_flatten_reverse (texts : List Text) :
    texts.reverse.flatten.length = texts.flatten.length := by
  rw [List.length_flatten, List.length_flatten, List.map_reverse, List.sum_reverse]

/-- Of two parts of a text, the one with no more bytes begins the other. -/
theorem exists_append_of_size_le {a b c d : Text} (h : a ++ b = c ++ d) (hsize : a.size ≤ c.size) :
    ∃ e, c = a ++ e ∧ b = e ++ d := by
  rcases List.append_eq_append_iff.1 h with ⟨e, hc, hb⟩ | ⟨e, ha, hd⟩
  · exact ⟨e, hc, hb⟩
  · have he : e = [] := by
      rw [ha, size_append] at hsize
      exact size_eq_zero_iff.1 (by omega)
    subst he
    refine ⟨[], ?_, ?_⟩
    · rw [ha, List.append_nil, List.append_nil]
    · rw [hd, List.nil_append, List.nil_append]

/-! ## Cuts -/

/-- A cut at byte `n` succeeds exactly where the first `n` bytes are a text of their own. -/
theorem splitAt?_eq_some_iff {text left right : Text} {n : Nat} :
    splitAt? text n = some (left, right) ↔ text = left ++ right ∧ left.size = n := by
  induction text generalizing n left with
  | nil =>
    simp only [splitAt?]
    split
    · next hn =>
      subst hn
      simp only [Option.some.injEq, Prod.mk.injEq, List.nil_eq_append_iff, size_eq_zero_iff]
      constructor
      · rintro ⟨rfl, rfl⟩
        simp
      · rintro ⟨⟨rfl, rfl⟩, -⟩
        simp
    · next hn =>
      simp only [reduceCtorEq, List.nil_eq_append_iff, false_iff, not_and]
      rintro ⟨rfl, rfl⟩ h
      exact hn h.symm
  | cons c rest ih =>
    have hpos := c.utf8Size_pos
    simp only [splitAt?]
    split
    · next hn =>
      subst hn
      rw [size_eq_zero_iff]
      constructor
      · intro h
        obtain ⟨rfl, rfl⟩ : [] = left ∧ c :: rest = right := by simpa using h
        simp
      · rintro ⟨h, rfl⟩
        rw [List.nil_append] at h
        rw [h]
    · next hn =>
      cases left with
      | nil =>
        simp only [List.nil_append, size_nil, Ne.symm hn, and_false, iff_false]
        split
        · rw [Option.map_eq_some_iff]
          rintro ⟨parts, -, h⟩
          simp at h
        · exact nofun
      | cons d left =>
        simp only [List.cons_append, List.cons.injEq, size_cons]
        split
        · next hle =>
          simp only [Option.map_eq_some_iff, Prod.mk.injEq, List.cons.injEq, Prod.exists]
          constructor
          · rintro ⟨a, b, hab, ⟨rfl, rfl⟩, rfl⟩
            obtain ⟨hrest, hsize⟩ := ih.1 hab
            exact ⟨⟨rfl, hrest⟩, by omega⟩
          · rintro ⟨⟨rfl, hrest⟩, hsize⟩
            exact ⟨left, right, ih.2 ⟨hrest, by omega⟩, ⟨rfl, rfl⟩, rfl⟩
        · next hle =>
          simp only [reduceCtorEq, false_iff, not_and]
          rintro ⟨rfl, -⟩
          omega

theorem splitAt?_append (left right : Text) :
    splitAt? (left ++ right) left.size = some (left, right) :=
  splitAt?_eq_some_iff.2 ⟨rfl, rfl⟩

/-- The two parts of a cut make up the text, and a byte past its end is no place for one. -/
theorem le_size_of_splitAt? {text : Text} {n : Nat} {parts : Text × Text}
    (h : splitAt? text n = some parts) : n ≤ text.size := by
  obtain ⟨htext, hsize⟩ := splitAt?_eq_some_iff.1 h
  rw [htext, size_append]
  omega

/-! ## First and last lines -/

@[simp] theorem firstLine_newline (text : Text) : firstLine ('\n' :: text) = [] := by
  simp [firstLine]

theorem firstLine_cons {c : Char} (hc : c ≠ '\n') (text : Text) :
    firstLine (c :: text) = c :: firstLine text := by
  simp [firstLine, hc]

theorem newline_notMem_firstLine (text : Text) : '\n' ∉ text.firstLine := by
  intro hmem
  simpa using List.mem_takeWhile_imp hmem

theorem firstLine_eq_self {text : Text} (h : '\n' ∉ text) : firstLine text = text := by
  rw [firstLine, List.takeWhile_eq_self_iff]
  intro c hc
  have hne : c ≠ '\n' := by
    rintro rfl
    exact h hc
  simpa using hne

/-- Text without a line feed only makes the first line longer. -/
theorem firstLine_append {left : Text} (h : '\n' ∉ left) (right : Text) :
    firstLine (left ++ right) = left ++ firstLine right := by
  induction left with
  | nil => rfl
  | cons c left ih =>
    rw [List.mem_cons, not_or] at h
    rw [List.cons_append, firstLine_cons (Ne.symm h.1), ih h.2, List.cons_append]

/-- A text begins with its first line, and what follows begins no text without a line feed in any
other way. -/
theorem exists_eq_firstLine_append (text : Text) :
    ∃ rest, text = text.firstLine ++ rest ∧ ∀ line, '\n' ∉ line → firstLine (line ++ rest) = line := by
  refine ⟨text.dropWhile (· ≠ '\n'), List.takeWhile_append_dropWhile.symm, fun line hline => ?_⟩
  have hrest : firstLine (text.dropWhile (· ≠ '\n')) = [] := by
    rw [firstLine, List.takeWhile_eq_nil_iff]
    intro hlength
    exact List.dropWhile_get_zero_not (· ≠ '\n') text hlength
  rw [firstLine_append hline, hrest, List.append_nil]

/-- The last line grows with a text in front of it only as long as there is no line feed. -/
theorem lastLine_cons (c : Char) (text : Text) :
    lastLine (c :: text) =
      if '\n' ∈ text then lastLine text else if c = '\n' then text else c :: text := by
  unfold lastLine
  rw [List.reverse_cons, List.takeWhile_append]
  by_cases h : '\n' ∈ text
  · have hshort : (text.reverse.takeWhile (· ≠ '\n')).length ≠ text.reverse.length := by
      intro hlen
      have hall := (List.takeWhile_prefix (l := text.reverse) (· ≠ '\n')).eq_of_length hlen
      have hmem : '\n' ∈ text.reverse.takeWhile (· ≠ '\n') := by rw [hall]; simpa using h
      simpa using List.mem_takeWhile_imp hmem
    rw [if_neg hshort, if_pos h]
  · have hall : text.reverse.takeWhile (· ≠ '\n') = text.reverse := by
      rw [List.takeWhile_eq_self_iff]
      intro d hd
      have hdn : d ≠ '\n' := by
        rintro rfl
        exact h (by simpa using hd)
      simpa using hdn
    rw [hall, if_pos rfl, if_neg h]
    by_cases hc : c = '\n' <;> simp [hc]

theorem lastLine_eq_self {text : Text} (h : '\n' ∉ text) : lastLine text = text := by
  cases text with
  | nil => rfl
  | cons c text =>
    rw [List.mem_cons, not_or] at h
    rw [lastLine_cons, if_neg h.2, if_neg (Ne.symm h.1)]

/-- A line feed cuts off whatever stands before it. -/
theorem lastLine_append_newline (left right : Text) :
    lastLine (left ++ '\n' :: right) = lastLine right := by
  induction left with
  | nil =>
    rw [List.nil_append, lastLine_cons]
    split
    · rfl
    · next h => rw [if_pos rfl, lastLine_eq_self h]
  | cons c left ih =>
    rw [List.cons_append, lastLine_cons, if_pos (by simp), ih]

/-- Without a line feed in it, text only makes the last line longer. -/
theorem lastLine_append {right : Text} (h : '\n' ∉ right) (left : Text) :
    lastLine (left ++ right) = lastLine left ++ right := by
  induction left with
  | nil => rw [List.nil_append, lastLine_eq_self h]; rfl
  | cons c left ih =>
    have hmem : '\n' ∈ left ++ right ↔ '\n' ∈ left := by simp [h]
    rw [List.cons_append, lastLine_cons, lastLine_cons, ih]
    simp only [hmem]
    split
    · rfl
    · split <;> rfl

theorem newline_notMem_lastLine (text : Text) : '\n' ∉ text.lastLine := by
  intro hmem
  simpa using List.mem_takeWhile_imp (List.mem_reverse.1 hmem)

/-- A text with a line feed in it ends with the line after the last one. -/
theorem exists_eq_append_newline {text : Text} (h : '\n' ∈ text) :
    ∃ rest, text = rest ++ ['\n'] ++ text.lastLine := by
  induction text with
  | nil => exact absurd h List.not_mem_nil
  | cons c text ih =>
    rw [lastLine_cons]
    by_cases hmem : '\n' ∈ text
    · obtain ⟨rest, heq⟩ := ih hmem
      refine ⟨c :: rest, ?_⟩
      rw [if_pos hmem, List.cons_append, List.cons_append, ← heq]
    · have hc : c = '\n' := ((List.mem_cons.1 h).resolve_right hmem).symm
      exact ⟨[], by rw [if_neg hmem, if_pos hc, hc]; rfl⟩

/-- A text ends with its last line, and what stands before it ends no text without a line feed in
any other way. -/
theorem exists_eq_append_lastLine (text : Text) :
    ∃ rest, text = rest ++ text.lastLine ∧ ∀ line, '\n' ∉ line → lastLine (rest ++ line) = line := by
  by_cases h : '\n' ∈ text
  · obtain ⟨rest, heq⟩ := exists_eq_append_newline h
    refine ⟨rest ++ ['\n'], heq, fun line hline => ?_⟩
    rw [List.append_assoc, List.singleton_append, lastLine_append_newline, lastLine_eq_self hline]
  · refine ⟨[], by rw [lastLine_eq_self h, List.nil_append], fun line hline => ?_⟩
    exact lastLine_eq_self hline

/-! ## Lines -/

/-- Two lines are joined by a line feed. -/
theorem unlines_cons_cons (first next : Text) (rest : List Text) :
    unlines (first :: next :: rest) = first ++ '\n' :: unlines (next :: rest) := by
  rw [unlines]
  exact List.cons_ne_nil next rest

theorem mem_consFirst {c : Char} {line : Text} {lines : List Text}
    (h : line ∈ consFirst c lines) :
    (∃ first, (first = [] ∨ first ∈ lines) ∧ line = c :: first) ∨ line ∈ lines := by
  cases lines with
  | nil =>
    simp only [consFirst, List.mem_singleton] at h
    exact .inl ⟨[], .inl rfl, h⟩
  | cons first rest =>
    rcases List.mem_cons.1 h with rfl | h
    · exact .inl ⟨first, .inr List.mem_cons_self, rfl⟩
    · exact .inr (List.mem_cons_of_mem _ h)

/-- No line holds a line feed. -/
theorem newline_notMem_of_mem_lines {text line : Text} (h : line ∈ text.lines) :
    '\n' ∉ line := by
  induction text generalizing line with
  | nil =>
    obtain rfl : line = [] := by simpa [lines] using h
    exact List.not_mem_nil
  | cons c text ih =>
    simp only [lines] at h
    split at h
    · rcases List.mem_cons.1 h with rfl | h
      · exact List.not_mem_nil
      · exact ih h
    · next hc =>
      rcases mem_consFirst h with ⟨first, hfirst, rfl⟩ | h
      · rw [List.mem_cons, not_or]
        refine ⟨Ne.symm hc, ?_⟩
        rcases hfirst with rfl | hfirst
        · exact List.not_mem_nil
        · exact ih hfirst
      · exact ih h

/-- The lines of a text hold no characters but its own. -/
theorem mem_of_mem_lines {text line : Text} (h : line ∈ text.lines) {d : Char} (hd : d ∈ line) :
    d ∈ text := by
  induction text generalizing line with
  | nil =>
    obtain rfl : line = [] := by simpa [lines] using h
    exact hd
  | cons c text ih =>
    simp only [lines] at h
    split at h
    · rcases List.mem_cons.1 h with rfl | h
      · exact absurd hd List.not_mem_nil
      · exact List.mem_cons_of_mem _ (ih h hd)
    · rcases mem_consFirst h with ⟨first, hfirst, rfl⟩ | h
      · rcases List.mem_cons.1 hd with rfl | hd
        · exact List.mem_cons_self
        · rcases hfirst with rfl | hfirst
          · exact absurd hd List.not_mem_nil
          · exact List.mem_cons_of_mem _ (ih hfirst hd)
      · exact List.mem_cons_of_mem _ (ih h hd)

theorem lines_cons_newline (text : Text) : lines ('\n' :: text) = [] :: lines text := by
  simp [lines]

theorem lines_cons {c : Char} (hc : c ≠ '\n') (text : Text) :
    lines (c :: text) = consFirst c (lines text) := by
  simp [lines, hc]

theorem head?_lines (text : Text) : text.lines.head? = some text.firstLine := by
  induction text with
  | nil => rfl
  | cons c text ih =>
    by_cases hc : c = '\n'
    · subst hc
      rw [lines_cons_newline, firstLine_newline, List.head?_cons]
    · rw [lines_cons hc, firstLine_cons hc]
      cases hlines : lines text with
      | nil => exact absurd hlines (lines_ne_nil text)
      | cons first rest =>
        rw [hlines, List.head?_cons, Option.some.injEq] at ih
        rw [consFirst, List.head?_cons, ih]

/-- The line on which one text ends and the next one begins. -/
theorem lines_getElem?_append (left right : Text) :
    (lines (left ++ right))[left.count '\n']? = some (left.lastLine ++ right.firstLine) := by
  induction left with
  | nil =>
    have h := head?_lines right
    rwa [List.head?_eq_getElem?] at h
  | cons c left ih =>
    rw [List.cons_append, lastLine_cons]
    by_cases hc : c = '\n'
    · subst hc
      rw [lines_cons_newline, List.count_cons_self, List.getElem?_cons_succ, ih]
      split
      · rfl
      · next h => rw [if_pos rfl, lastLine_eq_self h]
    · rw [lines_cons hc, List.count_cons_of_ne hc]
      cases hlines : lines (left ++ right) with
      | nil => exact absurd hlines (lines_ne_nil _)
      | cons first rest =>
        rw [hlines] at ih
        rw [consFirst]
        by_cases h : '\n' ∈ left
        · obtain ⟨k, hk⟩ : ∃ k, left.count '\n' = k + 1 :=
            Nat.exists_eq_succ_of_ne_zero (Nat.pos_iff_ne_zero.1 (List.count_pos_iff.2 h))
          rw [hk, List.getElem?_cons_succ] at ih ⊢
          rw [ih, if_pos h]
        · rw [List.count_eq_zero_of_not_mem h, List.getElem?_cons_zero] at ih ⊢
          rw [lastLine_eq_self h, Option.some.injEq] at ih
          rw [ih, if_neg h, if_neg hc, List.cons_append]

/-- A line feed parts the lines before it from those after it. -/
theorem lines_append_newline (left right : Text) :
    lines (left ++ '\n' :: right) = lines left ++ lines right := by
  induction left with
  | nil => exact lines_cons_newline right
  | cons c left ih =>
    rw [List.cons_append]
    by_cases hc : c = '\n'
    · subst hc
      rw [lines_cons_newline, lines_cons_newline, ih, List.cons_append]
    · rw [lines_cons hc, lines_cons hc, ih]
      cases hlines : lines left with
      | nil => exact absurd hlines (lines_ne_nil left)
      | cons first rest => rfl

theorem lines_eq_cons (text : Text) : text.lines = text.firstLine :: text.lines.tail := by
  obtain ⟨rest, hrest⟩ := List.head?_eq_some_iff.1 (head?_lines text)
  rw [hrest, List.tail_cons]

/-- Every other character than a line feed is in a line. -/
theorem exists_mem_lines {text : Text} {c : Char} (h : c ∈ text) (hc : c ≠ '\n') :
    ∃ line ∈ text.lines, c ∈ line := by
  induction text with
  | nil => exact absurd h List.not_mem_nil
  | cons d text ih =>
    by_cases hd : d = '\n'
    · rw [hd, List.mem_cons] at h
      obtain ⟨line, hline, hmem⟩ := ih (h.resolve_left hc)
      refine ⟨line, ?_, hmem⟩
      rw [hd, lines_cons_newline]
      exact List.mem_cons_of_mem _ hline
    · rw [lines_eq_cons text] at ih
      rw [lines_cons hd, lines_eq_cons text, consFirst]
      rcases List.mem_cons.1 h with rfl | h
      · exact ⟨_, List.mem_cons_self, List.mem_cons_self⟩
      · obtain ⟨line, hline, hmem⟩ := ih h
        rcases List.mem_cons.1 hline with rfl | hline
        · exact ⟨_, List.mem_cons_self, List.mem_cons_of_mem _ hmem⟩
        · exact ⟨line, List.mem_cons_of_mem _ hline, hmem⟩

/-- Text without a line feed only makes the first line longer. -/
theorem lines_append_of_notMem {line : Text} (h : '\n' ∉ line) (right : Text) :
    lines (line ++ right) = (line ++ right.firstLine) :: right.lines.tail := by
  induction line with
  | nil => exact lines_eq_cons right
  | cons c line ih =>
    rw [List.mem_cons, not_or] at h
    rw [List.cons_append, lines_cons (Ne.symm h.1), ih h.2]
    rfl

theorem lines_eq_singleton {line : Text} (h : '\n' ∉ line) : lines line = [line] := by
  simpa [firstLine, lines] using lines_append_of_notMem h []

/-- Lines that hold no line feed are found again in the text that they make up. -/
theorem lines_unlines {rows : List Text} (hne : rows ≠ []) (h : ∀ row ∈ rows, '\n' ∉ row) :
    lines (unlines rows) = rows := by
  induction rows with
  | nil => exact absurd rfl hne
  | cons first rest ih =>
    obtain ⟨hfirst, hrest⟩ := List.forall_mem_cons.1 h
    cases rest with
    | nil => exact lines_eq_singleton hfirst
    | cons next more =>
      rw [unlines_cons_cons, lines_append_newline, lines_eq_singleton hfirst,
        ih (List.cons_ne_nil next more) hrest]
      rfl

/-- Two texts meet on one line: the lines of the first one before its last, and those of the second
one after its first, are lines of both together. -/
theorem lines_append (left right : Text) :
    lines (left ++ right) =
      left.lines.dropLast ++ (left.lastLine ++ right.firstLine) :: right.lines.tail := by
  by_cases hmem : '\n' ∈ left
  · obtain ⟨rest, heq⟩ := exists_eq_append_newline hmem
    have hlast := newline_notMem_lastLine left
    generalize left.lastLine = last at heq hlast ⊢
    rw [List.append_assoc, List.singleton_append] at heq
    subst heq
    rw [List.append_assoc, List.cons_append, lines_append_newline, lines_append_newline,
      lines_append_of_notMem hlast, lines_eq_singleton hlast, List.dropLast_concat]
  · rw [lines_append_of_notMem hmem, lines_eq_singleton hmem, lastLine_eq_self hmem]
    rfl

theorem lines_eq_append_lastLine (text : Text) :
    text.lines = text.lines.dropLast ++ [text.lastLine] := by
  simpa [firstLine, lines] using lines_append text []

/-- The lines before the last one of a text are kept, whatever follows it. -/
theorem lines_append_lastLine (left right : Text) :
    lines (left ++ right) = left.lines.dropLast ++ lines (left.lastLine ++ right) := by
  rw [lines_append, lines_append_of_notMem (newline_notMem_lastLine left)]

/-- The lines after the first one of a text are kept, whatever stands before it. -/
theorem lines_append_firstLine (left right : Text) :
    lines (left ++ right) = lines (left ++ right.firstLine) ++ right.lines.tail := by
  have hfirst := newline_notMem_firstLine right
  rw [lines_append, lines_append, firstLine_eq_self hfirst, lines_eq_singleton hfirst, List.tail_cons,
    List.append_assoc, List.singleton_append]

theorem length_lines (text : Text) : text.lines.length = text.count '\n' + 1 := by
  induction text with
  | nil => rfl
  | cons c text ih =>
    by_cases hc : c = '\n'
    · subst hc
      rw [lines_cons_newline, List.length_cons, ih, List.count_cons_self]
    · rw [lines_cons hc, List.count_cons_of_ne hc, ← ih]
      cases hlines : lines text with
      | nil => exact absurd hlines (lines_ne_nil text)
      | cons first rest => rfl

theorem length_dropLast_lines (text : Text) : text.lines.dropLast.length = text.count '\n' := by
  rw [List.length_dropLast, length_lines, Nat.add_sub_cancel]

/-- The lines above the one on which two texts meet. -/
theorem take_lines_append (left right : Text) :
    (lines (left ++ right)).take (left.count '\n') = left.lines.dropLast := by
  rw [lines_append, ← length_dropLast_lines, List.take_left]

/-- The lines below the one on which two texts meet. -/
theorem drop_lines_append (left right : Text) :
    (lines (left ++ right)).drop (left.count '\n' + 1) = right.lines.tail := by
  rw [lines_append, ← length_dropLast_lines, List.drop_length_add_append, List.drop_succ_cons,
    List.drop_zero]

/-- Induction on the lines of a text, from the last one on. -/
theorem inductionOnLines {motive : Text → Prop} (last : ∀ line, '\n' ∉ line → motive line)
    (more : ∀ line rest, '\n' ∉ line → motive rest → motive (line ++ '\n' :: rest)) (text : Text) :
    motive text := by
  induction hn : text.count '\n' generalizing text with
  | zero => exact last text (List.count_eq_zero.1 hn)
  | succ n ih =>
    have hmem : '\n' ∈ text := List.count_pos_iff.1 (hn ▸ Nat.succ_pos n)
    obtain ⟨line, rest, rfl, hline⟩ := List.eq_append_cons_of_mem hmem
    refine more line rest hline (ih rest ?_)
    rw [List.count_append, List.count_eq_zero_of_not_mem hline, List.count_cons_self] at hn
    omega

/-- Induction on the lines of a text, from the first one on. -/
theorem reverseInductionOnLines {motive : Text → Prop} (first : ∀ line, '\n' ∉ line → motive line)
    (more : ∀ rest line, '\n' ∉ line → motive rest → motive (rest ++ '\n' :: line)) (text : Text) :
    motive text := by
  induction hn : text.count '\n' generalizing text with
  | zero => exact first text (List.count_eq_zero.1 hn)
  | succ n ih =>
    have hmem : '\n' ∈ text := List.count_pos_iff.1 (hn ▸ Nat.succ_pos n)
    obtain ⟨rest, heq⟩ := exists_eq_append_newline hmem
    have hline := newline_notMem_lastLine text
    rw [List.append_assoc, List.singleton_append] at heq
    rw [heq]
    refine more rest _ hline (ih rest ?_)
    rw [heq, List.count_append, List.count_cons_self, List.count_eq_zero_of_not_mem hline] at hn
    omega

/-- The lines are the pieces between the line feeds. -/
theorem lines_eq_splitOn (text : Text) : text.lines = text.splitOn '\n' := by
  induction text with
  | nil => rfl
  | cons c text ih =>
    rw [List.splitOn_cons_eq_if_modifyHead, ← ih]
    by_cases hc : c = '\n'
    · rw [if_pos (beq_iff_eq.2 hc), hc, lines_cons_newline]
    · rw [if_neg (by simpa using hc), lines_cons hc]
      cases hlines : lines text with
      | nil => exact absurd hlines (lines_ne_nil text)
      | cons first rest => rfl

/-! ## Line breaks from outside -/

/-- No carriage return is left where line breaks from outside were put right. -/
theorem return_notMem_normalizeBreaks (text : Text) : '\r' ∉ text.normalizeBreaks := by
  fun_induction normalizeBreaks text with
  | case1 => exact List.not_mem_nil
  | case2 rest ih =>
    rw [List.mem_cons, not_or]
    exact ⟨by decide, ih⟩
  | case3 c rest h ih =>
    rw [List.mem_cons, not_or]
    refine ⟨?_, ih⟩
    split
    · decide
    · next hc => exact Ne.symm hc

/-- Without carriage returns there is nothing to put right. -/
theorem normalizeBreaks_eq_self {text : Text} (h : '\r' ∉ text) : text.normalizeBreaks = text := by
  fun_induction normalizeBreaks text with
  | case1 => rfl
  | case2 rest ih => exact absurd List.mem_cons_self h
  | case3 c rest _ ih =>
    rw [List.mem_cons, not_or] at h
    rw [ih h.2, if_neg (Ne.symm h.1)]

/-- Putting line breaks right takes no text away altogether. -/
theorem eq_nil_of_normalizeBreaks {text : Text} (h : text.normalizeBreaks = []) : text = [] := by
  fun_cases normalizeBreaks text with
  | case1 => rfl
  | case2 rest => simp [normalizeBreaks] at h
  | case3 c rest hcr => simp [normalizeBreaks] at h

@[simp] theorem times_one (text : Text) : text.times 1 = text := by
  cases text <;> simp [times]

end LineEditor.Text
