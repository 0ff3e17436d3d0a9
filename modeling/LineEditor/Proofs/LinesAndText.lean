import LineEditor.Proofs.Clamp
import LineEditor.Proofs.Erasure

/-!
# Lines and text

What a buffer holds can be written down in two ways: as lines with the position of the cursor, or as the
text before and the text after the cursor.  Each of the two tells the other, because no line holds a
line feed.

* Lines around a position.  `Text.textBefore?` and `Text.textAfter?` put together the text on either
  side of a position of lines; `textBefore?_append` and `textAfter?_append` say that a text parted
  anywhere gives its parts, and `eq_of_textBefore?` that lines and position can be told from them.
* Runs.  `Buffer.Operation` is what can be done to a buffer, and `return_notMem_afterAll` says that no
  run of operations brings a carriage return into the text.
* The result.  `lines_and_text_agree` says for every run that both ways of writing the buffer down give
  the buffer back.
-/

namespace LineEditor

namespace Text

/-! ## Lines around a position -/

/-- Lines with a line feed after each of them. -/
def breakAfterEach (lines : List Text) : Text :=
  lines.flatMap (· ++ ['\n'])

/-- Lines with a line feed before each of them. -/
def breakBeforeEach (lines : List Text) : Text :=
  lines.flatMap ('\n' :: ·)

/-- The text before a position of lines, if they have the position: the lines above it, and its line up
to it. -/
def textBefore? (lines : List Text) (p : Position) : Option Text := do
  let (left, _) ← (← lines[p.line]?).splitAt? p.offset
  pure (breakAfterEach (lines.take p.line) ++ left)

/-- The text after a position of lines, if they have the position: its line from there on, and the lines
below it. -/
def textAfter? (lines : List Text) (p : Position) : Option Text := do
  let (_, right) ← (← lines[p.line]?).splitAt? p.offset
  pure (right ++ breakBeforeEach (lines.drop (p.line + 1)))

theorem unlines_cons (first : Text) (rest : List Text) :
    unlines (first :: rest) = first ++ breakBeforeEach rest := by
  induction rest generalizing first with
  | nil => exact (List.append_nil first).symm
  | cons next rest ih =>
    rw [unlines_cons_cons, ih]
    rfl

theorem unlines_append_cons (above : List Text) (line : Text) (below : List Text) :
    unlines (above ++ line :: below) = breakAfterEach above ++ unlines (line :: below) := by
  induction above with
  | nil => rfl
  | cons first above ih =>
    have hjoin : unlines (first :: (above ++ line :: below)) =
        first ++ '\n' :: unlines (above ++ line :: below) := by
      cases above <;> exact unlines_cons_cons _ _ _
    rw [List.cons_append, hjoin, ih, breakAfterEach, breakAfterEach, List.flatMap_cons]
    simp

theorem breakAfterEach_append_lastLine (text : Text) :
    breakAfterEach text.lines.dropLast ++ text.lastLine = text := by
  have hunlines := unlines_lines text
  rwa [lines_eq_append_lastLine text, unlines_append_cons] at hunlines

theorem firstLine_append_breakBeforeEach (text : Text) :
    text.firstLine ++ breakBeforeEach text.lines.tail = text := by
  rw [← unlines_cons, ← lines_eq_cons, unlines_lines]

/-- The part of a text before any place in it is put together from its lines. -/
theorem textBefore?_append (left right : Text) :
    textBefore? (lines (left ++ right)) (.endOf left) = some left := by
  simp only [textBefore?, Position.endOf, lines_getElem?_append, take_lines_append, splitAt?_append,
    Option.bind_eq_bind, Option.bind_some]
  exact congrArg some (breakAfterEach_append_lastLine left)

/-- So is the part after it. -/
theorem textAfter?_append (left right : Text) :
    textAfter? (lines (left ++ right)) (.endOf left) = some right := by
  simp only [textAfter?, Position.endOf, lines_getElem?_append, drop_lines_append, splitAt?_append,
    Option.bind_eq_bind, Option.bind_some]
  exact congrArg some (firstLine_append_breakBeforeEach right)

/-- The text up to a place in a line ends at that place. -/
theorem endOf_breakAfterEach_append {above : List Text} (h : ∀ line ∈ above, '\n' ∉ line)
    {left : Text} (hleft : '\n' ∉ left) :
    Position.endOf (breakAfterEach above ++ left) =
      { offset := left.size, line := above.length } := by
  induction above with
  | nil =>
    show Position.endOf left = _
    rw [Position.endOf, lastLine_eq_self hleft, List.count_eq_zero_of_not_mem hleft]
    rfl
  | cons first above ih =>
    obtain ⟨hfirst, habove⟩ := List.forall_mem_cons.1 h
    have hsplit : breakAfterEach (first :: above) ++ left =
        first ++ '\n' :: (breakAfterEach above ++ left) := by
      rw [breakAfterEach, List.flatMap_cons, List.append_assoc, List.append_assoc]
      rfl
    rw [hsplit, Position.endOf_append_newline, ih habove, List.count_eq_zero_of_not_mem hfirst,
      List.length_cons]
    simp [Nat.add_comm]

/-- Lines and a position in them can be told from the text on both sides, if no line holds a line
feed. -/
theorem eq_of_textBefore? {rows : List Text} (hrows : ∀ row ∈ rows, '\n' ∉ row) {p : Position}
    {left right : Text} (hleft : textBefore? rows p = some left)
    (hright : textAfter? rows p = some right) :
    rows = lines (left ++ right) ∧ p = .endOf left := by
  simp only [textBefore?, textAfter?, Option.bind_eq_bind, Option.bind_eq_some_iff,
    Option.pure_def, Option.some.injEq] at hleft hright
  obtain ⟨row, hrow, ⟨head, tail⟩, hcut, rfl⟩ := hleft
  obtain ⟨row', hrow', parts, hcut', rfl⟩ := hright
  cases hrow.symm.trans hrow'
  cases hcut.symm.trans hcut'
  obtain ⟨rfl, hsize⟩ := splitAt?_eq_some_iff.1 hcut
  obtain ⟨hlt, hget⟩ := List.getElem?_eq_some_iff.1 hrow
  have hsplit : rows = rows.take p.line ++ (head ++ tail) :: rows.drop (p.line + 1) := by
    rw [← hget, ← List.drop_eq_getElem_cons hlt, List.take_append_drop]
  constructor
  · have htext : unlines rows = breakAfterEach (rows.take p.line) ++ head ++
        (tail ++ breakBeforeEach (rows.drop (p.line + 1))) := by
      calc unlines rows
          = unlines (rows.take p.line ++ (head ++ tail) :: rows.drop (p.line + 1)) := by rw [← hsplit]
        _ = _ := by
          rw [unlines_append_cons, unlines_cons, List.append_assoc, List.append_assoc]
    rw [← htext, lines_unlines (List.ne_nil_of_length_pos (by omega)) hrows]
  · have hhead : '\n' ∉ head := fun hmem =>
      hrows _ (List.mem_of_getElem? hrow) (List.mem_append_left _ hmem)
    rw [endOf_breakAfterEach_append (fun row hmem => hrows row (List.mem_of_mem_take hmem)) hhead,
      hsize, List.length_take_of_le hlt.le]

end Text

namespace Buffer

/-! ## Runs -/

/-- What can be done to a buffer. -/
inductive Operation where
  | clear
  | setText (text : Text)
  | insert (text : Text)
  /-- Puts the cursor at a position, or as near to it as the text allows. -/
  | setCursor (p : Position)
  /-- Puts the cursor at a position of the text. -/
  | place (p : Position)
  | moveLeft (n : Nat) (across : Bool)
  | moveRight (n : Nat) (across : Bool)
  | moveToWordStart (n : Nat) (across : Bool) (cls : WordClass)
  | moveToWordEnd (n : Nat) (across : Bool) (cls : WordClass)
  | toLineStart
  | toLineEnd
  | toStart
  | toEnd
  | eraseBefore (n : Nat) (across : Bool)
  | eraseAfter (n : Nat) (across : Bool)
  | erase (p q : Position)
  deriving Repr, DecidableEq, Inhabited

/-- The buffer after an operation.  A misuse leaves it as it is. -/
def afterOperation (b : Buffer) : Operation → Buffer
  | .clear => .empty
  | .setText text => .ofText text
  | .insert text => b.insert text
  | .setCursor p => b.setCursor p
  | .place p =>
    match b.place p with
    | .ok b' => b'
    | .error _ => b
  | .moveLeft n across => (b.moveLeft n across).2
  | .moveRight n across => (b.moveRight n across).2
  | .moveToWordStart n across cls => (b.moveToWordStart n across cls).2
  | .moveToWordEnd n across cls => (b.moveToWordEnd n across cls).2
  | .toLineStart => b.toLineStart.2
  | .toLineEnd => b.toLineEnd.2
  | .toStart => b.toStart.2
  | .toEnd => b.toEnd.2
  | .eraseBefore n across => (b.eraseBefore n across).2
  | .eraseAfter n across => (b.eraseAfter n across).2
  | .erase p q =>
    match b.erase p q with
    | .ok (_, b') => b'
    | .error _ => b

/-- The buffer after operations. -/
def afterAll (b : Buffer) (operations : List Operation) : Buffer :=
  operations.foldl afterOperation b

/-- What an erasure leaves was there before. -/
theorem mem_text_of_erase {b b' : Buffer} {p q : Position} {cut : Text}
    (h : b.erase p q = .ok (cut, b')) {c : Char} (hc : c ∈ b'.text) : c ∈ b.text := by
  unfold erase at h
  by_cases heq : p = q
  · rw [if_pos heq] at h
    cases h
    exact hc
  · rw [if_neg heq] at h
    dsimp only at h
    split at h
    · cases h
      simp only [text, eraseSpan, List.mem_append] at hc ⊢
      rcases hc with (hc | hc) | (hc | hc)
      · exact .inl (List.mem_of_mem_take hc)
      · exact .inl (List.mem_of_mem_drop hc)
      · exact .inr (List.mem_of_mem_take hc)
      · exact .inr (List.mem_of_mem_drop hc)
    · cases h

/-- No operation brings a carriage return into the text. -/
theorem return_notMem_afterOperation {b : Buffer} (h : '\r' ∉ b.text) (operation : Operation) :
    '\r' ∉ (b.afterOperation operation).text := by
  have hkept : ∀ b' : Buffer, b'.text = b.text → '\r' ∉ b'.text := fun b' htext => htext ▸ h
  cases operation with
  | clear => exact List.not_mem_nil
  | setText text => exact return_notMem_insert List.not_mem_nil text
  | insert text => exact return_notMem_insert h text
  | setCursor p => exact hkept _ (of_place (b.place_clamp p)).1
  | place p =>
    rw [afterOperation]
    cases hplace : b.place p with
    | ok b' => exact hkept _ (of_place hplace).1
    | error misuse => exact h
  | moveLeft n across => exact hkept _ (b.text_retreat _)
  | moveRight n across => exact hkept _ (b.text_advance _)
  | moveToWordStart n across cls => exact hkept _ (b.text_retreat _)
  | moveToWordEnd n across cls => exact hkept _ (b.text_advance _)
  | toLineStart => exact hkept _ (b.text_retreat _)
  | toLineEnd => exact hkept _ (b.text_advance _)
  | toStart => exact h
  | toEnd => exact hkept _ (List.append_nil _)
  | eraseBefore n across => exact fun hmem => h ((b.cuts_cutBefore _).mem_of_mem_text hmem)
  | eraseAfter n across => exact fun hmem => h ((b.cuts_cutAfter _).mem_of_mem_text hmem)
  | erase p q =>
    rw [afterOperation]
    cases herase : b.erase p q with
    | ok erased => exact fun hmem => h (mem_text_of_erase herase hmem)
    | error misuse => exact h

/-- No run of operations does. -/
theorem return_notMem_afterAll {b : Buffer} (h : '\r' ∉ b.text) (operations : List Operation) :
    '\r' ∉ (b.afterAll operations).text := by
  induction operations generalizing b with
  | nil => exact h
  | cons operation operations ih => exact ih (return_notMem_afterOperation h operation)

/-! ## The result -/

/-- The text of a buffer, written into another one, brings back its lines. -/
theorem lines_ofText {b : Buffer} (h : '\r' ∉ b.text) :
    (ofText b.text).lines = b.lines ∧
      (ofText b.text).cursor =
        { offset := (b.lines.getLastD []).size, line := b.lines.length - 1 } := by
  have hbuffer : ofText b.text = { before := b.text, after := [] } := insert_eq h empty
  have hlast : b.lines.getLastD [] = b.text.lastLine := by
    rw [lines, Text.lines_eq_append_lastLine, List.getLastD_concat]
  rw [hbuffer]
  refine ⟨congrArg Text.lines (List.append_nil b.text), ?_⟩
  show Position.endOf b.text = _
  rw [hlast, lines, Text.length_lines, Nat.add_sub_cancel]
  rfl

/-- Whatever is done to a buffer, its text is its lines joined by line feeds.  Written into a new buffer,
or into any other one, that text brings back the lines, with the cursor at the end of the last of them.
What stands before and after the cursor is put together from the lines around it and makes up the text;
and there are no other lines and no other position in them that give the same text on both sides, so
two buffers have the same lines and the same cursor exactly if both sides of the cursor are the same. -/
theorem lines_and_text_agree (operations : List Operation) :
    let b := empty.afterAll operations
    let stop : Position := { offset := (b.lines.getLastD []).size, line := b.lines.length - 1 }
    Text.unlines b.lines = b.text ∧
      ((ofText b.text).lines = b.lines ∧ (ofText b.text).cursor = stop) ∧
      (∀ earlier, let b' := empty.afterAll (earlier ++ [.setText b.text])
        b'.lines = b.lines ∧ b'.cursor = stop) ∧
      (Text.textBefore? b.lines b.cursor = some b.before ∧
        Text.textAfter? b.lines b.cursor = some b.after ∧ b.before ++ b.after = b.text) ∧
      (∀ rows p, ((∀ row ∈ rows, '\n' ∉ row) ∧ Text.textBefore? rows p = some b.before ∧
        Text.textAfter? rows p = some b.after) ↔ rows = b.lines ∧ p = b.cursor) ∧
      ∀ others, let b' := empty.afterAll others
        (b.before = b'.before ∧ b.after = b'.after) ↔ (b.lines = b'.lines ∧ b.cursor = b'.cursor) := by
  intro b stop
  have hreturn : '\r' ∉ b.text := return_notMem_afterAll List.not_mem_nil operations
  have hbefore : Text.textBefore? b.lines b.cursor = some b.before :=
    Text.textBefore?_append b.before b.after
  have hafter : Text.textAfter? b.lines b.cursor = some b.after :=
    Text.textAfter?_append b.before b.after
  refine ⟨Text.unlines_lines b.text, lines_ofText hreturn, fun earlier => ?_,
    ⟨hbefore, hafter, rfl⟩, fun rows p => ⟨?_, ?_⟩, fun others => ⟨?_, ?_⟩⟩
  · rw [afterAll, List.foldl_append]
    exact lines_ofText hreturn
  · rintro ⟨hrows, hleft, hright⟩
    exact Text.eq_of_textBefore? hrows hleft hright
  · rintro ⟨rfl, rfl⟩
    exact ⟨fun row hrow => Text.newline_notMem_of_mem_lines hrow, hbefore, hafter⟩
  · rintro ⟨hleft, hright⟩
    have hlines : b.lines = (empty.afterAll others).lines := by
      rw [lines, lines, text, text, hleft, hright]
    exact ⟨hlines, by rw [cursor, cursor, hleft]⟩
  · rintro ⟨hlines, hcursor⟩
    rw [← eq_of_lines_cursor hlines hcursor]
    exact ⟨rfl, rfl⟩

end Buffer

end LineEditor
