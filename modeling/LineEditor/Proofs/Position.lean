import LineEditor.Position
import LineEditor.Proofs.Text

/-!
# Positions of a text

A position of a text stands for a number of characters in front of it, and the other way round.

* Positions in lines.  `Position.InLines` says what it is for lines to have a position;
  `offsetInLines?_isSome_iff` says that this is decided by `offsetInLines?`.
* There and back.  `offset?_append` and `endOf_take_of_offset?` say that `offset?` and `endOf` are
  inverse to each other.
* Order.  `endOf_le_append` says that more text never moves its end back, `offset?_le_of_le` that
  positions are ordered as the characters are, and `exists_parts` that two positions part a text in
  three.
* Parts of a text.  `before?`, `after?` and `between?` name the text around positions; the text on
  either side of a position tells the position.
-/

namespace LineEditor

namespace Position

/-- Lines have the position `p` if there is a line with its number, and its offset lies between
two characters of the line or at one of its ends. -/
def InLines (p : Position) (lines : List Text) : Prop :=
  ∃ line, lines[p.line]? = some line ∧ ∃ left right, line = left ++ right ∧ left.size = p.offset

theorem InLines.offset_le {p : Position} {lines : List Text} (h : p.InLines lines) :
    ∃ line, lines[p.line]? = some line ∧ p.offset ≤ line.size := by
  obtain ⟨line, hline, left, right, rfl, hsize⟩ := h
  refine ⟨_, hline, ?_⟩
  rw [Text.size_append]
  omega

/-! ## The end of a text -/

theorem endOf_cons_newline (text : Text) :
    endOf ('\n' :: text) = { offset := (endOf text).offset, line := (endOf text).line + 1 } := by
  have hlast : Text.lastLine ('\n' :: text) = Text.lastLine text :=
    Text.lastLine_append_newline [] text
  simp [endOf, hlast]

/-- Text in front of a line feed counts by its line feeds only. -/
theorem endOf_append_newline (left right : Text) :
    endOf (left ++ '\n' :: right) =
      { offset := (endOf right).offset, line := left.count '\n' + 1 + (endOf right).line } := by
  simp only [endOf, Text.lastLine_append_newline, List.count_append, List.count_cons_self,
    Position.mk.injEq, true_and]
  omega

/-- A line feed ends the line. -/
theorem line_endOf_lt {right : Text} (h : '\n' ∈ right) (left : Text) :
    (endOf left).line < (endOf (left ++ right)).line := by
  have hpos : 0 < right.count '\n' := List.count_pos_iff.2 h
  simp only [endOf, List.count_append]
  omega

/-- More text never moves its end back. -/
theorem endOf_le_append (left right : Text) : endOf left ≤ endOf (left ++ right) := by
  show (endOf left).line < _ ∨ _
  by_cases h : '\n' ∈ right
  · exact .inl (line_endOf_lt h left)
  · right
    simp only [endOf, List.count_append, List.count_eq_zero_of_not_mem h,
      Text.lastLine_append h, Text.size_append]
    omega

/-! ## Order -/

theorem le_iff {p q : Position} :
    p ≤ q ↔ p.line < q.line ∨ (p.line = q.line ∧ p.offset ≤ q.offset) :=
  Iff.rfl

theorem le_refl (p : Position) : p ≤ p :=
  .inr ⟨rfl, Nat.le_refl _⟩

theorem le_total (p q : Position) : p ≤ q ∨ q ≤ p := by
  show (p.line < q.line ∨ (p.line = q.line ∧ p.offset ≤ q.offset)) ∨
    (q.line < p.line ∨ (q.line = p.line ∧ q.offset ≤ p.offset))
  omega

theorem le_antisymm {p q : Position} (h : p ≤ q) (h' : q ≤ p) : p = q := by
  obtain ⟨x, y⟩ := p
  obtain ⟨x', y'⟩ := q
  have hpq : y < y' ∨ (y = y' ∧ x ≤ x') := h
  have hqp : y' < y ∨ (y' = y ∧ x' ≤ x) := h'
  rw [Position.mk.injEq]
  omega

theorem not_lt_of_le {p q : Position} (h : p ≤ q) : ¬ q < p := by
  have h' : p.line < q.line ∨ (p.line = q.line ∧ p.offset ≤ q.offset) := h
  show ¬ (q.line < p.line ∨ (q.line = p.line ∧ q.offset < p.offset))
  omega

theorem le_of_lt {p q : Position} (h : p < q) : p ≤ q := by
  have h' : p.line < q.line ∨ (p.line = q.line ∧ p.offset < q.offset) := h
  show p.line < q.line ∨ (p.line = q.line ∧ p.offset ≤ q.offset)
  omega

theorem lt_of_le_of_ne {p q : Position} (h : p ≤ q) (hne : p ≠ q) : p < q := by
  obtain ⟨x, y⟩ := p
  obtain ⟨x', y'⟩ := q
  have hpq : y < y' ∨ (y = y' ∧ x ≤ x') := h
  rw [ne_eq, Position.mk.injEq] at hne
  show y < y' ∨ (y = y' ∧ x < x')
  omega

theorem min_eq_left {p q : Position} (h : p ≤ q) : min p q = p :=
  if_pos h

theorem max_eq_right {p q : Position} (h : p ≤ q) : max p q = q :=
  if_pos h

theorem min_eq_right {p q : Position} (h : q ≤ p) : min p q = q := by
  by_cases hle : p ≤ q
  · exact (min_eq_left hle).trans (le_antisymm hle h)
  · exact if_neg hle

theorem max_eq_left {p q : Position} (h : q ≤ p) : max p q = p := by
  by_cases hle : p ≤ q
  · exact (max_eq_right hle).trans (le_antisymm h hle)
  · exact if_neg hle

end Position

namespace Text

/-! ## Positions in lines -/

theorem offsetInLines?_isSome_iff {lines : List Text} {p : Position} :
    (offsetInLines? lines p.offset p.line).isSome ↔ p.InLines lines := by
  obtain ⟨offset, line⟩ := p
  simp only [Position.InLines]
  induction lines generalizing line with
  | nil => simp [offsetInLines?]
  | cons first rest ih =>
    cases line with
    | zero =>
      simp only [offsetInLines?, Option.isSome_map, List.getElem?_cons_zero,
        Option.some.injEq, exists_eq_left']
      constructor
      · intro h
        obtain ⟨parts, hparts⟩ := Option.isSome_iff_exists.1 h
        exact ⟨parts.1, parts.2, splitAt?_eq_some_iff.1 hparts⟩
      · rintro ⟨left, right, h⟩
        rw [splitAt?_eq_some_iff.2 h]
        rfl
    | succ line =>
      simp only [offsetInLines?, Option.isSome_map, List.getElem?_cons_succ]
      exact ih line

/-- The position at the end of the first part of a text stands for its characters. -/
theorem offset?_append (left right : Text) :
    offset? (left ++ right) (.endOf left) = some left.length := by
  unfold offset?
  induction left with
  | nil =>
    simp only [Position.endOf, List.nil_append, List.count_nil, List.length_nil]
    cases hlines : lines right with
    | nil => exact absurd hlines (lines_ne_nil right)
    | cons first rest =>
      have hsplit : splitAt? first 0 = some ([], first) := splitAt?_append [] first
      show offsetInLines? (first :: rest) 0 0 = some 0
      rw [offsetInLines?, hsplit]
      rfl
  | cons c left ih =>
    rw [List.cons_append, List.length_cons]
    by_cases hc : c = '\n'
    · subst hc
      rw [Position.endOf_cons_newline, lines_cons_newline, offsetInLines?, ih]
      simp [Nat.add_comm]
    · have hline : (Position.endOf (c :: left)).line = left.count '\n' := by
        simp [Position.endOf, hc]
      have hoffset : (Position.endOf (c :: left)).offset =
          (if '\n' ∈ left then lastLine left else c :: left).size := by
        simp only [Position.endOf, lastLine_cons, if_neg hc]
      rw [hline, hoffset, lines_cons hc]
      simp only [Position.endOf] at ih
      cases hlines : lines (left ++ right) with
      | nil => exact absurd hlines (lines_ne_nil _)
      | cons first rest =>
        rw [hlines] at ih
        rw [consFirst]
        by_cases h : '\n' ∈ left
        · obtain ⟨k, hk⟩ : ∃ k, left.count '\n' = k + 1 :=
            Nat.exists_eq_succ_of_ne_zero (Nat.pos_iff_ne_zero.1 (List.count_pos_iff.2 h))
          rw [hk, offsetInLines?] at ih ⊢
          obtain ⟨n, hn, hlen⟩ := Option.map_eq_some_iff.1 ih
          rw [if_pos h, hn, Option.map_some, List.length_cons]
          congr 1
          omega
        · rw [List.count_eq_zero_of_not_mem h, offsetInLines?] at ih ⊢
          rw [lastLine_eq_self h] at ih
          obtain ⟨⟨a, b⟩, hparts, hlen⟩ := Option.map_eq_some_iff.1 ih
          obtain ⟨hfirst, hsize⟩ := splitAt?_eq_some_iff.1 hparts
          have hcut : splitAt? (c :: first) (size (c :: left)) = some (c :: a, b) :=
            splitAt?_eq_some_iff.2 ⟨by rw [hfirst]; rfl, by rw [size_cons, size_cons, hsize]⟩
          have hlen' : a.length = left.length := hlen
          rw [if_neg h, hcut, Option.map_some, Option.some.injEq]
          show (c :: a).length = left.length + 1
          rw [List.length_cons, hlen']

/-- The characters in front of a position of lines are those that end there. -/
theorem endOf_take_of_offsetInLines? {lines : List Text} (hlines : ∀ line ∈ lines, '\n' ∉ line)
    {offset line n : Nat} (h : offsetInLines? lines offset line = some n) :
    n ≤ (unlines lines).length ∧
      Position.endOf ((unlines lines).take n) = { offset, line } := by
  induction lines generalizing line n with
  | nil => simp [offsetInLines?] at h
  | cons first rest ih =>
    have hfirst : '\n' ∉ first := hlines first List.mem_cons_self
    cases line with
    | zero =>
      rw [offsetInLines?] at h
      obtain ⟨⟨left, right⟩, hparts, rfl⟩ := Option.map_eq_some_iff.1 h
      obtain ⟨hsplit, hsize⟩ := splitAt?_eq_some_iff.1 hparts
      have hleft : '\n' ∉ left := by
        intro hmem
        rw [hsplit] at hfirst
        exact hfirst (List.mem_append_left _ hmem)
      obtain ⟨more, hmore⟩ : ∃ more, unlines (first :: rest) = left ++ more := by
        cases rest with
        | nil => exact ⟨right, hsplit⟩
        | cons next rest => exact ⟨right ++ '\n' :: unlines (next :: rest), by
            rw [unlines_cons_cons, hsplit, List.append_assoc]⟩
      rw [hmore, List.take_left]
      refine ⟨by simp, ?_⟩
      rw [Position.endOf, lastLine_eq_self hleft, hsize, List.count_eq_zero_of_not_mem hleft]
    | succ line =>
      rw [offsetInLines?] at h
      obtain ⟨m, hm, rfl⟩ := Option.map_eq_some_iff.1 h
      obtain ⟨hle, hend⟩ := ih (fun l hl => hlines l (List.mem_cons_of_mem _ hl)) hm
      cases rest with
      | nil => simp [offsetInLines?] at hm
      | cons next rest =>
        have htext := unlines_cons_cons first next rest
        have htake : (unlines (first :: next :: rest)).take (first.length + 1 + m) =
            first ++ '\n' :: (unlines (next :: rest)).take m := by
          rw [htext, Nat.add_assoc, List.take_length_add_append, Nat.add_comm 1 m,
            List.take_succ_cons]
        rw [htake, Position.endOf_append_newline, hend, List.count_eq_zero_of_not_mem hfirst, htext]
        refine ⟨?_, ?_⟩
        · rw [List.length_append, List.length_cons]
          omega
        · simp [Nat.add_comm]

/-- A position of a text is the end of the characters that it stands for. -/
theorem endOf_take_of_offset? {text : Text} {p : Position} {n : Nat}
    (h : offset? text p = some n) : n ≤ text.length ∧ Position.endOf (text.take n) = p := by
  have h' := endOf_take_of_offsetInLines? (fun _ hl => newline_notMem_of_mem_lines hl) h
  rwa [unlines_lines] at h'

theorem offset?_isSome_iff {text : Text} {p : Position} :
    (offset? text p).isSome ↔ p.InLines text.lines :=
  offsetInLines?_isSome_iff

/-! ## Two positions of a text -/

/-- Only text that is empty leaves the end where it is. -/
theorem endOf_append_eq_iff {left right : Text} :
    Position.endOf (left ++ right) = Position.endOf left ↔ right = [] := by
  constructor
  · intro heq
    have hlength : some left.length = some (left ++ right).length := by
      rw [← offset?_append left right, ← heq, ← offset?_append (left ++ right) [], List.append_nil]
    rw [Option.some.injEq, List.length_append] at hlength
    exact List.eq_nil_of_length_eq_zero (by omega)
  · rintro rfl
    rw [List.append_nil]

/-- More text moves its end on. -/
theorem endOf_lt_append (left : Text) {right : Text} (h : right ≠ []) :
    Position.endOf left < Position.endOf (left ++ right) :=
  Position.lt_of_le_of_ne (Position.endOf_le_append left right)
    fun heq => h (endOf_append_eq_iff.1 heq.symm)

/-- Positions of a text are ordered as the characters in front of them. -/
theorem offset?_le_of_le {text : Text} {p q : Position} {i j : Nat}
    (hp : offset? text p = some i) (hq : offset? text q = some j) (hpq : p ≤ q) : i ≤ j := by
  obtain ⟨-, hpi⟩ := endOf_take_of_offset? hp
  obtain ⟨-, hqj⟩ := endOf_take_of_offset? hq
  by_contra hij
  have htake : text.take i = text.take j ++ (text.take i).drop j := by
    have hcut := (List.take_append_drop j (text.take i)).symm
    rwa [List.take_take, Nat.min_eq_left (by omega)] at hcut
  have hle : q ≤ p := by
    rw [← hpi, ← hqj, htake]
    exact Position.endOf_le_append _ _
  rw [Position.le_antisymm hpq hle, hq, Option.some.injEq] at hp
  omega

/-- Two positions part a text: there is the text before the first, between them, and after the
second. -/
theorem exists_parts {text : Text} {p q : Position} (hp : p.InLines text.lines)
    (hq : q.InLines text.lines) (hpq : p ≤ q) :
    ∃ left cut right, text = left ++ cut ++ right ∧ Position.endOf left = p ∧
      Position.endOf (left ++ cut) = q := by
  obtain ⟨i, hi⟩ := Option.isSome_iff_exists.1 (offset?_isSome_iff.2 hp)
  obtain ⟨j, hj⟩ := Option.isSome_iff_exists.1 (offset?_isSome_iff.2 hq)
  have hij : i ≤ j := offset?_le_of_le hi hj hpq
  have htake : text.take i ++ (text.take j).drop i = text.take j := by
    have hcut := List.take_append_drop i (text.take j)
    rwa [List.take_take, Nat.min_eq_left hij] at hcut
  refine ⟨text.take i, (text.take j).drop i, text.drop j, ?_, (endOf_take_of_offset? hi).2, ?_⟩
  · rw [htake, List.take_append_drop]
  · rw [htake]
    exact (endOf_take_of_offset? hj).2

/-- Two positions part a text whichever of them is first. -/
theorem exists_parts_min_max {text : Text} {p q : Position} (hp : p.InLines text.lines)
    (hq : q.InLines text.lines) :
    ∃ left cut right, text = left ++ cut ++ right ∧ Position.endOf left = min p q ∧
      Position.endOf (left ++ cut) = max p q := by
  rcases Position.le_total p q with hle | hle
  · rw [Position.min_eq_left hle, Position.max_eq_right hle]
    exact exists_parts hp hq hle
  · rw [Position.min_eq_right hle, Position.max_eq_left hle]
    exact exists_parts hq hp hle

/-! ## Parts of a text -/

/-- The text before a position, if the text has the position. -/
def before? (text : Text) (p : Position) : Option Text :=
  (text.offset? p).map text.take

/-- The text after a position, if the text has the position. -/
def after? (text : Text) (p : Position) : Option Text :=
  (text.offset? p).map text.drop

/-- The text from one position to another, if the text has them. -/
def between? (text : Text) (p q : Position) : Option Text :=
  match text.offset? p, text.offset? q with
  | some i, some j => some ((text.take j).drop i)
  | _, _ => none

theorem before?_append (left right : Text) :
    before? (left ++ right) (.endOf left) = some left := by
  rw [before?, offset?_append, Option.map_some, List.take_left]

theorem after?_append (left right : Text) :
    after? (left ++ right) (.endOf left) = some right := by
  rw [after?, offset?_append, Option.map_some, List.drop_left]

theorem between?_append (left cut right : Text) :
    between? (left ++ cut ++ right) (.endOf left) (.endOf (left ++ cut)) = some cut := by
  have hleft : offset? (left ++ cut ++ right) (.endOf left) = some left.length := by
    rw [List.append_assoc, offset?_append]
  rw [between?, hleft, offset?_append]
  show some (((left ++ cut ++ right).take (left ++ cut).length).drop left.length) = some cut
  rw [List.take_left, List.drop_left]

/-- The text before a position tells the position. -/
theorem eq_of_before?_eq {text left : Text} {p q : Position} (hp : before? text p = some left)
    (hq : before? text q = some left) : p = q := by
  obtain ⟨i, hi, hleft⟩ := Option.map_eq_some_iff.1 hp
  obtain ⟨j, hj, hleft'⟩ := Option.map_eq_some_iff.1 hq
  rw [← (endOf_take_of_offset? hi).2, ← (endOf_take_of_offset? hj).2, hleft, hleft']

/-- The text after a position tells the position. -/
theorem eq_of_after?_eq {text right : Text} {p q : Position} (hp : after? text p = some right)
    (hq : after? text q = some right) : p = q := by
  obtain ⟨i, hi, hright⟩ := Option.map_eq_some_iff.1 hp
  obtain ⟨j, hj, hright'⟩ := Option.map_eq_some_iff.1 hq
  obtain ⟨hlei, hendi⟩ := endOf_take_of_offset? hi
  obtain ⟨hlej, hendj⟩ := endOf_take_of_offset? hj
  have hlength := congrArg List.length (hright.trans hright'.symm)
  rw [List.length_drop, List.length_drop] at hlength
  obtain rfl : i = j := by omega
  rw [← hendi, hendj]

end Text

end LineEditor
