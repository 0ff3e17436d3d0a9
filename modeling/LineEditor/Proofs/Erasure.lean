import LineEditor.Proofs.Buffer

/-!
# Erasure between two positions

An erasure takes the characters between two places out of the text.  Seen by lines and positions, it
cuts one line short, lets it go on with the rest of another one, and drops the lines between; and the
cursor has to be found a new line and a new offset.  This module says that the two views agree.

* Well-formed buffers.  `Buffer.WellFormed` is what is asked of lines and cursor, and
  `wellFormed_iff` says that only carriage returns can break it.
* Lines.  `Text.eraseLines?` erases between two positions of some lines, and `eraseLines?_append` says
  that this leaves the lines of the text on both sides.
* The cursor.  `eraseSpan_before_cases` says where the cursor is in the text; from it follow its offset
  and its position, which is that of `Position.afterErasure` (`cursor_eraseSpan`).
* The result.  `erase_between` says all of this of an erasure between any two positions of the text.
-/

namespace LineEditor

namespace Position

/-- More text without a line feed moves the end of a text on along its line. -/
theorem endOf_append_of_notMem {right : Text} (h : '\n' ∉ right) (left : Text) :
    endOf (left ++ right) =
      { offset := (endOf left).offset + right.size, line := (endOf left).line } := by
  simp only [endOf, Text.lastLine_append h, Text.size_append, List.count_append,
    List.count_eq_zero_of_not_mem h, Nat.add_zero]

/-- Where the position `p` is found once the text from `start` to `stop` is erased: text after `stop`
on its line comes to stand after `start`, and the lines below move up. -/
def afterErasure (p start stop : Position) : Position :=
  if p ≤ start then p
  else if p ≤ stop then start
  else if p.line = stop.line then
    { offset := start.offset + (p.offset - stop.offset), line := start.line }
  else { p with line := p.line - (stop.line - start.line) }

theorem afterErasure_of_le {p start : Position} (h : p ≤ start) (stop : Position) :
    p.afterErasure start stop = p :=
  if_pos h

theorem afterErasure_of_between {p start stop : Position} (h : start ≤ p) (h' : p ≤ stop) :
    p.afterErasure start stop = start := by
  unfold afterErasure
  by_cases hle : p ≤ start
  · rw [if_pos hle]
    exact le_antisymm hle h
  · rw [if_neg hle, if_pos h']

/-- Text after an erased part keeps its place behind the text before it. -/
theorem afterErasure_append (left cut right : Text) :
    (endOf (left ++ cut ++ right)).afterErasure (endOf left) (endOf (left ++ cut)) =
      endOf (left ++ right) := by
  by_cases hright : right = []
  · subst hright
    rw [List.append_nil, List.append_nil]
    exact afterErasure_of_between (endOf_le_append left cut) (le_refl _)
  have hstop : ¬ endOf (left ++ cut ++ right) ≤ endOf (left ++ cut) := fun hle =>
    not_lt_of_le hle (Text.endOf_lt_append _ hright)
  have hstart : ¬ endOf (left ++ cut ++ right) ≤ endOf left := by
    intro hle
    refine not_lt_of_le hle ?_
    rw [List.append_assoc]
    exact Text.endOf_lt_append left (List.append_ne_nil_of_right_ne_nil cut hright)
  unfold afterErasure
  rw [if_neg hstart, if_neg hstop]
  by_cases hmem : '\n' ∈ right
  · -- the line feed that ends the line of `stop` is in `right`, and so is all of the later line
    obtain ⟨upper, hupper⟩ := Text.exists_eq_append_newline hmem
    generalize right.lastLine = last at hupper
    rw [List.append_assoc, List.singleton_append] at hupper
    subst hupper
    rw [← List.append_assoc, ← List.append_assoc, endOf_append_newline, endOf_append_newline]
    simp only [endOf, List.count_append]
    rw [if_neg (by omega), Position.mk.injEq]
    omega
  · rw [endOf_append_of_notMem hmem, endOf_append_of_notMem hmem, if_pos rfl]
    dsimp only
    rw [Nat.add_sub_cancel_left]

end Position

namespace Text

/-- The number of bytes before a position of a text, if the text has the position. -/
def byteOffset? (text : Text) (p : Position) : Option Nat :=
  (text.before? p).map size

theorem byteOffset?_append (left right : Text) :
    byteOffset? (left ++ right) (.endOf left) = some left.size := by
  rw [byteOffset?, before?_append, Option.map_some]

/-- Lines without the text from `start` to `stop`: the line of `start` is cut there, and goes on with
what the line of `stop` has after it.  The lines have to have both positions. -/
def eraseLines? (lines : List Text) (start stop : Position) : Option (List Text) := do
  let (head, _) ← (← lines[start.line]?).splitAt? start.offset
  let (_, tail) ← (← lines[stop.line]?).splitAt? stop.offset
  pure (lines.take start.line ++ (head ++ tail) :: lines.drop (stop.line + 1))

/-- To erase from the lines is to erase from the text. -/
theorem eraseLines?_append (left cut right : Text) :
    eraseLines? (lines (left ++ cut ++ right)) (.endOf left) (.endOf (left ++ cut)) =
      some (lines (left ++ right)) := by
  have hfirst : (lines (left ++ cut ++ right))[left.count '\n']? =
      some (left.lastLine ++ (cut ++ right).firstLine) := by
    rw [List.append_assoc, lines_getElem?_append]
  have hlast := lines_getElem?_append (left ++ cut) right
  have habove : (lines (left ++ cut ++ right)).take (left.count '\n') = left.lines.dropLast := by
    rw [List.append_assoc, take_lines_append]
  have hbelow := drop_lines_append (left ++ cut) right
  unfold eraseLines?
  simp only [Position.endOf, hfirst, hlast, habove, hbelow, Option.bind_eq_bind, Option.bind_some,
    splitAt?_append, lines_append left right]
  rfl

end Text

namespace Buffer

/-! ## Well-formed buffers -/

/-- What is asked of the lines and of the cursor of a buffer. -/
structure WellFormed (b : Buffer) : Prop where
  lines : b.lines ≠ []
  breaks : ∀ line ∈ b.lines, '\n' ∉ line ∧ '\r' ∉ line
  cursor : b.isValid b.cursor = true

/-- A buffer is well-formed if its text has no carriage return; the rest is so for every buffer. -/
theorem wellFormed_iff {b : Buffer} : b.WellFormed ↔ '\r' ∉ b.text := by
  constructor
  · intro h hmem
    obtain ⟨line, hline, hreturn⟩ := Text.exists_mem_lines hmem (by decide)
    exact (h.breaks line hline).2 hreturn
  · intro h
    refine ⟨b.text.lines_ne_nil, fun line hline => ?_, ?_⟩
    · exact ⟨Text.newline_notMem_of_mem_lines hline, fun hmem => h (Text.mem_of_mem_lines hline hmem)⟩
    · exact (b.isValid_iff _).2 b.cursor_inLines

/-! ## The cursor -/

/-- Where the cursor of a buffer is from which `cut` is erased: before it, within it, or after it. -/
theorem eraseSpan_before_cases {b : Buffer} {left cut right : Text}
    (h : b.text = left ++ cut ++ right) :
    let b' := b.eraseSpan left.length (left ++ cut).length
    (∃ rest, left = b.before ++ rest ∧ b'.before = b.before) ∨
      (∃ gone rest, cut = gone ++ rest ∧ b.before = left ++ gone ∧ b'.before = left) ∨
      ∃ rest, b.before = left ++ cut ++ rest ∧ b'.before = left ++ rest := by
  intro b'
  have hbefore : b'.before = b.before.take left.length ++ b.before.drop (left ++ cut).length := rfl
  rw [hbefore]
  have htext : b.before ++ b.after = left ++ (cut ++ right) := by
    rw [← List.append_assoc]
    exact h
  rcases List.append_eq_append_iff.1 htext with ⟨rest, hleft, -⟩ | ⟨gone, heq, hgone⟩
  · left
    refine ⟨rest, hleft, ?_⟩
    have hlength : b.before.length ≤ left.length := by
      rw [hleft, List.length_append]
      omega
    have hlength' : b.before.length ≤ (left ++ cut).length := by
      rw [List.length_append]
      omega
    rw [List.take_of_length_le hlength, List.drop_eq_nil_of_le hlength', List.append_nil]
  right
  rcases List.append_eq_append_iff.1 hgone with ⟨rest, hrest, -⟩ | ⟨rest, hcut, -⟩
  · right
    refine ⟨rest, by rw [heq, hrest, List.append_assoc], ?_⟩
    rw [heq, List.take_left, hrest, ← List.append_assoc, List.drop_left]
  · left
    refine ⟨gone, rest, hcut, heq, ?_⟩
    rw [heq, List.take_left, List.drop_eq_nil_of_le (by simp [hcut]), List.append_nil]

/-- The cursor after an erasure is where its position is found then. -/
theorem cursor_eraseSpan {b : Buffer} {left cut right : Text} (h : b.text = left ++ cut ++ right) :
    (b.eraseSpan left.length (left ++ cut).length).cursor =
      b.cursor.afterErasure (.endOf left) (.endOf (left ++ cut)) := by
  unfold cursor
  rcases eraseSpan_before_cases h with ⟨rest, hleft, hbefore⟩ | ⟨gone, rest, hcut, heq, hbefore⟩ |
    ⟨rest, heq, hbefore⟩
  · rw [hbefore, Position.afterErasure_of_le]
    rw [hleft]
    exact Position.endOf_le_append _ rest
  · rw [hbefore, Position.afterErasure_of_between]
    · rw [heq]
      exact Position.endOf_le_append left gone
    · rw [heq, hcut, ← List.append_assoc]
      exact Position.endOf_le_append _ rest
  · rw [hbefore, heq, Position.afterErasure_append]

/-- How many bytes are before the cursor after an erasure. -/
theorem size_before_eraseSpan {b : Buffer} {left cut right : Text}
    (h : b.text = left ++ cut ++ right) :
    let c := b.before.size
    let c' := (b.eraseSpan left.length (left ++ cut).length).before.size
    (c ≤ left.size → c' = c) ∧ (left.size ≤ c → c ≤ (left ++ cut).size → c' = left.size) ∧
      ((left ++ cut).size ≤ c → c' = c - cut.size) := by
  intro c c'
  rw [Text.size_append]
  rcases eraseSpan_before_cases h with ⟨rest, hleft, hbefore⟩ | ⟨gone, rest, hcut, heq, hbefore⟩ |
    ⟨rest, heq, hbefore⟩
  · have hsize := congrArg Text.size hleft
    have hsize' : c' = c := congrArg Text.size hbefore
    rw [Text.size_append] at hsize
    omega
  · have hsize := congrArg Text.size hcut
    have hc : c = left.size + gone.size := by rw [← Text.size_append, ← heq]
    have hc' : c' = left.size := congrArg Text.size hbefore
    rw [Text.size_append] at hsize
    omega
  · have hc : c = left.size + cut.size + rest.size := by
      rw [← Text.size_append, ← Text.size_append, ← heq]
    have hc' : c' = left.size + rest.size := by rw [← Text.size_append, ← hbefore]
    omega

/-! ## The result -/

/-- Any two positions of a text have the text between them erased, whichever of them is first, and that
text is returned.  The text before and after it is kept, and its lines are those that an erasure from
the lines leaves.  If the cursor was before the erased text, it stays where it is; if it was within it,
it comes to where the erased text began; if it was after it, it goes back by as many bytes as were
erased, to the position that this place now has.  Between two equal positions nothing is erased. -/
theorem erase_between {b : Buffer} {p q : Position} (hp : b.isValid p = true)
    (hq : b.isValid q = true) :
    let start := min p q
    let stop := max p q
    ∃ cut b', b.erase p q = .ok (cut, b') ∧
      b.text.between? start stop = some cut ∧
      (∃ left right, b.text.before? start = some left ∧ b.text.after? stop = some right ∧
        Text.unlines b'.lines = left ++ right) ∧
      Text.eraseLines? b.lines start stop = some b'.lines ∧
      (b.WellFormed → b'.WellFormed) ∧
      b'.cursor = b.cursor.afterErasure start stop ∧
      (∃ i j c c', b.text.byteOffset? start = some i ∧ b.text.byteOffset? stop = some j ∧
        b.text.byteOffset? b.cursor = some c ∧ b'.text.byteOffset? b'.cursor = some c' ∧
        (c ≤ i → c' = c) ∧ (i ≤ c → c ≤ j → c' = i) ∧ (j ≤ c → c' = c - cut.size)) ∧
      (p = q → cut = [] ∧ b' = b) := by
  intro start stop
  rw [isValid_iff] at hp hq
  obtain ⟨left, cut, right, htext, hleft, hcut⟩ := Text.exists_parts_min_max hp hq
  let b' := b.eraseSpan left.length (left ++ cut).length
  have hstart : start = .endOf left := hleft.symm
  have hstop : stop = .endOf (left ++ cut) := hcut.symm
  have htext' : b'.text = left ++ right := text_eraseSpan_append htext
  have herase : b.erase p q = .ok (cut, b') := erase_eq htext hleft hcut
  refine ⟨cut, b', herase, ?_, ⟨left, right, ?_, ?_, ?_⟩, ?_, fun hwell => ?_, ?_, ?_,
    fun heq => ?_⟩
  · rw [hstart, hstop, htext, Text.between?_append]
  · rw [hstart, htext, List.append_assoc, Text.before?_append]
  · rw [hstop, htext, Text.after?_append]
  · rw [lines, Text.unlines_lines, htext']
  · rw [hstart, hstop, lines, lines, htext, htext', Text.eraseLines?_append]
  · rw [wellFormed_iff] at hwell ⊢
    rw [htext] at hwell
    rw [htext']
    intro hmem
    apply hwell
    rcases List.mem_append.1 hmem with hmem | hmem
    · exact List.mem_append_left _ (List.mem_append_left _ hmem)
    · exact List.mem_append_right _ hmem
  · rw [hstart, hstop]
    exact cursor_eraseSpan htext
  · refine ⟨left.size, (left ++ cut).size, b.before.size, b'.before.size, ?_, ?_, ?_, ?_,
      size_before_eraseSpan htext⟩
    · rw [hstart, htext, List.append_assoc, Text.byteOffset?_append]
    · rw [hstop, htext, Text.byteOffset?_append]
    · exact Text.byteOffset?_append b.before b.after
    · exact Text.byteOffset?_append b'.before b'.after
  · rw [erase, if_pos heq, Except.ok.injEq, Prod.mk.injEq] at herase
    exact ⟨herase.1.symm, herase.2.symm⟩

/-- A part of two lines is erased, with the cursor on the third. -/
theorem erase_between_two_lines :
    let b : Buffer := { before := "ab\ncdé\nf".toList, after := "gh".toList }
    let p : Position := { offset := 2, line := 1 }
    let q : Position := { offset := 1, line := 0 }
    b.isValid p = true ∧ b.isValid q = true ∧
      ∃ cut b', b.erase p q = .ok (cut, b') ∧ b.text.between? q p = some cut ∧
        Text.eraseLines? b.lines q p = some b'.lines ∧
        b'.cursor = b.cursor.afterErasure q p ∧
        ∃ i j c c', b.text.byteOffset? q = some i ∧ b.text.byteOffset? p = some j ∧
          b.text.byteOffset? b.cursor = some c ∧ b'.text.byteOffset? b'.cursor = some c' ∧
          j ≤ c ∧ c' = c - cut.size := by
  intro b p q
  have hp : b.isValid p = true := by decide
  have hq : b.isValid q = true := by decide
  have hstop : b.text.byteOffset? p = some 5 := by decide
  have hat : b.text.byteOffset? b.cursor = some 9 := by decide
  obtain ⟨cut, b', herase, hcut, -, hlines, -, hcursor, ⟨i, j, c, c', hi, hj, hc, hc', -, -, hback⟩,
    -⟩ := erase_between hp hq
  have hle : j ≤ c := by
    rw [Option.some.inj (hj.symm.trans hstop), Option.some.inj (hc.symm.trans hat)]
    decide
  exact ⟨hp, hq, cut, b', herase, hcut, hlines, hcursor, i, j, c, c', hi, hj, hc, hc', hle, hback hle⟩

end Buffer

end LineEditor
