import LineEditor.Proofs.LineBuffer.Insertion
import LineEditor.Proofs.LineBuffer.Word

/-!
# Runs of operations, line by line

Whatever is done to a buffer can be done to its lines, with the same outcome: no operation stops halfway,
and what it makes of lines in order is again lines in order.

* One operation.  `LineBuffer.afterOperation` does an operation to lines, and `stored_afterOperation` says
  that it comes to the lines of what the operation makes of the buffer.
* Runs.  `stored_afterAll` says so of any run of operations, and `exists_afterAll_eq` that every run from
  no text at all comes to lines in order.
-/

namespace LineEditor

namespace LineBuffer

/-! ## One operation -/

/-- The result of an operation, or what was there before if it was misused. -/
def orUnused (b : LineBuffer) : Except Panic LineBuffer → Except Panic LineBuffer
  | .error (.misuse _) => .ok b
  | result => result

/-- The lines after an operation.  A misuse leaves them as they are. -/
def afterOperation (b : LineBuffer) : Buffer.Operation → Except Panic LineBuffer
  | .clear => .ok empty
  | .setText text => setText text
  | .insert text => b.insert text
  | .setCursor p => b.setCursor p
  | .place p => b.orUnused (b.place p)
  | .moveLeft n across => (·.2) <$> b.moveLeft n across
  | .moveRight n across => (·.2) <$> b.moveRight n across
  | .moveToWordStart n across cls => (·.2) <$> b.moveToWordStart n across cls
  | .moveToWordEnd n across cls => (·.2) <$> b.moveToWordEnd n across cls
  | .toLineStart => .ok b.toLineStart.2
  | .toLineEnd => (·.2) <$> b.toLineEnd
  | .toStart => .ok b.toStart.2
  | .toEnd => (·.2) <$> b.toEnd
  | .eraseBefore n across => (·.2) <$> b.eraseBefore n across
  | .eraseAfter n across => (·.2) <$> b.eraseAfter n across
  | .erase p q => b.orUnused ((·.2) <$> b.erase p q)

/-- The lines after operations, one after the other. -/
def afterAll (b : LineBuffer) (operations : List Buffer.Operation) : Except Panic LineBuffer :=
  operations.foldlM afterOperation b

end LineBuffer

namespace Buffer

theorem stored_setText (text : Text) : LineBuffer.setText text = .ok (ofText text).stored := by
  have hinsert : LineBuffer.empty.insert text = .ok (ofText text).stored := empty.stored_insert text
  have hend : (ofText text).toEnd.2 = ofText text := by
    show ({ before := (ofText text).before ++ [], after := [] } : Buffer) = ofText text
    rw [List.append_nil]
    rfl
  rw [LineBuffer.setText, hinsert, Panic.ok_bind, stored_toEnd, hend]
  rfl

/-- An operation on lines is the operation on the buffer. -/
theorem stored_afterOperation {b : Buffer} (h : '\r' ∉ b.text) (operation : Operation) :
    b.stored.afterOperation operation = .ok (b.afterOperation operation).stored := by
  cases operation with
  | clear => rfl
  | setText text => exact stored_setText text
  | insert text => exact b.stored_insert text
  | setCursor p => exact b.stored_setCursor p
  | place p =>
    rw [LineBuffer.afterOperation, afterOperation, stored_place]
    cases b.place p <;> rfl
  | moveLeft n across => exact congrArg (Except.map (·.2)) (stored_moveLeft h n across)
  | moveRight n across => exact congrArg (Except.map (·.2)) (stored_moveRight h n across)
  | moveToWordStart n across cls =>
    exact congrArg (Except.map (·.2)) (stored_moveToWordStart h n across cls)
  | moveToWordEnd n across cls =>
    exact congrArg (Except.map (·.2)) (stored_moveToWordEnd h n across cls)
  | toLineStart => exact congrArg (fun moved => Except.ok moved.2) b.stored_toLineStart
  | toLineEnd => exact congrArg (Except.map (·.2)) b.stored_toLineEnd
  | toStart => exact congrArg (fun moved => Except.ok moved.2) b.stored_toStart
  | toEnd => exact congrArg (Except.map (·.2)) b.stored_toEnd
  | eraseBefore n across => exact congrArg (Except.map (·.2)) (stored_eraseBefore h n across)
  | eraseAfter n across => exact congrArg (Except.map (·.2)) (stored_eraseAfter h n across)
  | erase p q =>
    rw [LineBuffer.afterOperation, afterOperation, stored_erase]
    cases b.erase p q <;> rfl

/-! ## Runs -/

/-- A run of operations on lines is the run on the buffer. -/
theorem stored_afterAll {b : Buffer} (h : '\r' ∉ b.text) (operations : List Operation) :
    b.stored.afterAll operations = .ok (b.afterAll operations).stored := by
  induction operations generalizing b with
  | nil => rfl
  | cons operation operations ih =>
    rw [LineBuffer.afterAll, List.foldlM_cons, stored_afterOperation h, Panic.ok_bind]
    exact ih (return_notMem_afterOperation h operation)

end Buffer

/-- Whatever is done to lines, starting from a single one without text, no operation looks for a line or a
place that is not there.  The lines stay in order and free of carriage returns, and they are those of the
buffer to which the same is done. -/
theorem LineBuffer.exists_afterAll_eq (operations : List Buffer.Operation) :
    ∃ b, LineBuffer.empty.afterAll operations = .ok b ∧ b.WellFormed ∧
      (∀ line ∈ b.lines, '\r' ∉ line) ∧ b.text = (Buffer.empty.afterAll operations).text ∧
      b.textBefore = .ok (Buffer.empty.afterAll operations).before ∧
      b.textAfter = .ok (Buffer.empty.afterAll operations).after := by
  let z := Buffer.empty.afterAll operations
  have hclean : '\r' ∉ z.text := Buffer.return_notMem_afterAll List.not_mem_nil operations
  have hrun : LineBuffer.empty.afterAll operations = .ok z.stored :=
    Buffer.stored_afterAll (b := Buffer.empty) List.not_mem_nil operations
  exact ⟨z.stored, hrun, z.wellFormed_stored,
    fun line hline hmem => hclean (Text.mem_of_mem_lines hline hmem), z.stored_text,
    z.stored_textBefore, z.stored_textAfter⟩

end LineEditor
