import LineEditor.LineBuffer.Kill
import LineEditor.Proofs.Editing
import LineEditor.Proofs.LineBuffer.Insertion
import LineEditor.Proofs.LineBuffer.Word

/-!
# Kills and yanks, line by line

A kill takes out of the lines what it takes out of the text, and leaves the lines of the text that is left.
A yank puts text into the lines where it puts it into the text, and remembers the same extent.

* Lines.  `stored_cutAfter` and `stored_cutBefore` say which line is cut when the text is cut up to an end
  of the line of the cursor.
* Kills.  `Editing.afterCut` is a state from which something may have been cut; `stored_cutToLineEnd`,
  `stored_cutToLineStart`, `stored_cutToWordEnd` and `stored_cutToWordStart` say that every kill is such a
  cut, done to the lines.
* Yanks.  `stored_insertYanked` and `stored_exchangeYanked`.
-/

namespace LineEditor

namespace Buffer

/-! ## Lines -/

theorem cutAfter_firstLine (b : Buffer) {back : Text} (h : b.after = b.after.firstLine ++ back) :
    b.cutAfter b.after.firstLine.length = (b.after.firstLine, { b with after := back }) := by
  have htake := congrArg (List.take b.after.firstLine.length) h
  have hdrop := congrArg (List.drop b.after.firstLine.length) h
  rw [List.take_left] at htake
  rw [List.drop_left] at hdrop
  rw [cutAfter, htake, hdrop]

theorem cutBefore_lastLine (b : Buffer) {front : Text} (h : b.before = front ++ b.before.lastLine) :
    b.cutBefore b.before.lastLine.length = (b.before.lastLine, { b with before := front }) := by
  have hlength : b.before.length - b.before.lastLine.length = front.length := by
    have hsum := congrArg List.length h
    rw [List.length_append] at hsum
    exact Nat.sub_eq_of_eq_add hsum
  have htake := congrArg (List.take front.length) h
  have hdrop := congrArg (List.drop front.length) h
  rw [List.take_left] at htake
  rw [List.drop_left] at hdrop
  rw [cutBefore, hlength, htake, hdrop]

theorem wordWay_snd_eq_zero {cls : WordClass} {way : List Text} {n : Nat}
    (h : (wordWay cls way n).1 = 0) : (wordWay cls way n).2 = 0 := by
  rw [wordWay_eq] at h ⊢
  by_cases hmet : (wordScan cls way false false n).1 = 0
  · rw [if_pos hmet]
  · rw [if_neg hmet] at h
    exact absurd h hmet

/-- Without the rest of its line the text has the front of the line in its place. -/
theorem stored_cutAfter (b : Buffer) :
    (b.cutAfter b.after.firstLine.length).2.stored =
      { lines := b.lines.set b.cursor.line b.before.lastLine, cursor := b.cursor } := by
  obtain ⟨back, hback, hfirst⟩ := b.after.exists_eq_firstLine_append
  have hnil : back.firstLine = [] := hfirst [] List.not_mem_nil
  have htail : b.after.lines.tail = back.lines.tail := by
    calc b.after.lines.tail = (b.after.firstLine ++ back).lines.tail := by rw [← hback]
      _ = back.lines.tail := by
        rw [Text.lines_append_of_notMem (Text.newline_notMem_firstLine b.after), List.tail_cons]
  rw [b.cutAfter_firstLine hback, stored_mk, set_lines, Text.lines_append, hnil, List.append_nil, htail]
  rfl

/-- Without the front of its line the text has the rest of the line in its place. -/
theorem stored_cutBefore (b : Buffer) :
    (b.cutBefore b.before.lastLine.length).2.stored =
      { lines := b.lines.set b.cursor.line b.after.firstLine
        cursor := { b.cursor with offset := 0 } } := by
  obtain ⟨front, hfront, hlast, hend⟩ := b.exists_append_reachBack false
  have hnil : front.lastLine = [] := by
    have h := hlast [] List.not_mem_nil
    rwa [List.append_nil] at h
  have hupper : b.before.lines.dropLast = front.lines.dropLast := by
    have hline := Text.newline_notMem_lastLine b.before
    have hlines : b.before.lines = front.lines.dropLast ++ [b.before.lastLine] := by
      calc b.before.lines = (front ++ b.before.lastLine).lines := congrArg Text.lines hfront
        _ = _ := by
          rw [Text.lines_append, hnil, Text.firstLine_eq_self hline, Text.lines_eq_singleton hline]
          rfl
    rw [hlines, List.dropLast_concat]
  rw [b.cutBefore_lastLine hfront, stored_mk, set_lines, Text.lines_append, hnil, List.nil_append,
    hupper, hend]
  rfl

end Buffer

namespace Editing

/-! ## Kills -/

/-- The state after a cut, and whether anything was cut. -/
def afterCut (e : Editing) : Option Text × Buffer → Bool × Editing
  | (none, buffer) => (false, { e with buffer })
  | (some cut, buffer) => (true, e.kill cut buffer)

/-- To kill the rest of the line is to cut the line. -/
theorem stored_cutToLineEnd (e : Editing) :
    ∃ cut b, e.buffer.stored.cutToLineEnd = .ok (cut, b.stored) ∧ e.killToLineEnd = e.afterCut (cut, b) := by
  have hoffset := e.buffer.size_currentLine_le_iff
  rw [LineBuffer.cutToLineEnd, Buffer.stored_currentLine, Panic.ok_bind, Buffer.stored_cursor]
  by_cases hnil : e.buffer.after.firstLine = []
  · refine ⟨none, e.buffer, if_pos (hoffset.2 hnil), ?_⟩
    rw [killToLineEnd, hnil]
    rfl
  · obtain ⟨back, hback, -⟩ := e.buffer.after.exists_eq_firstLine_append
    have hcut : cutAt e.buffer.currentLine e.buffer.cursor.offset =
        .ok (e.buffer.before.lastLine, e.buffer.after.firstLine) := cutAt_append _ _
    have hstored := e.buffer.stored_cutAfter
    have hkill := e.buffer.cutAfter_firstLine hback
    rw [hkill] at hstored
    refine ⟨some e.buffer.after.firstLine, { e.buffer with after := back }, ?_, ?_⟩
    · rw [if_neg (mt hoffset.1 hnil), hcut, Panic.ok_bind, hstored]
      rfl
    · rw [killToLineEnd]
      split
      · next hlength => exact absurd (List.length_eq_zero_iff.1 hlength) hnil
      · rw [killAfter, hkill]
        rfl

/-- To kill the front of the line is to cut the line. -/
theorem stored_cutToLineStart (e : Editing) :
    ∃ cut b, e.buffer.stored.cutToLineStart = .ok (cut, b.stored) ∧
      e.killToLineStart = e.afterCut (cut, b) := by
  have hoffset : e.buffer.cursor.offset = 0 ↔ e.buffer.before.lastLine = [] := Text.size_eq_zero_iff
  rw [LineBuffer.cutToLineStart, Buffer.stored_cursor]
  by_cases hnil : e.buffer.before.lastLine = []
  · refine ⟨none, e.buffer, if_pos (hoffset.2 hnil), ?_⟩
    rw [killToLineStart, hnil]
    rfl
  · obtain ⟨front, hfront, -⟩ := e.buffer.before.exists_eq_append_lastLine
    have hstored := e.buffer.stored_cutBefore
    have hkill := e.buffer.cutBefore_lastLine hfront
    rw [hkill] at hstored
    refine ⟨some e.buffer.before.lastLine, { e.buffer with before := front }, ?_, ?_⟩
    · rw [if_neg (mt hoffset.1 hnil), Buffer.stored_lines, Buffer.cutLineAt_cursor, Panic.ok_bind,
        hstored]
      rfl
    · rw [killToLineStart]
      split
      · next hlength => exact absurd (List.length_eq_zero_iff.1 hlength) hnil
      · rw [killBefore, hkill]
        rfl

/-- To kill to word ends is to move there and erase the text between. -/
theorem stored_cutToWordEnd {e : Editing} (h : '\r' ∉ e.buffer.text) (amount : Nat) :
    ∃ cut b, e.buffer.stored.cutToWordEnd amount = .ok (cut, b.stored) ∧
      e.killNextWord amount = e.afterCut (cut, b) := by
  have hle := e.buffer.wordEnd_le amount true .alphanumeric
  have hstill : (e.buffer.wordEnd amount true .alphanumeric).1 = 0 →
      (e.buffer.wordEnd amount true .alphanumeric).2 = 0 := Buffer.wordWay_snd_eq_zero
  rw [LineBuffer.cutToWordEnd, Buffer.stored_moveToWordEnd h, Panic.ok_bind, killNextWord,
    Buffer.moveToWordEnd]
  cases hway : e.buffer.wordEnd amount true .alphanumeric with
  | mk met passed =>
    rw [hway] at hle hstill
    cases met with
    | zero =>
      obtain rfl : passed = 0 := hstill rfl
      exact ⟨none, e.buffer.advance 0, rfl, by rw [Buffer.advance_zero]; rfl⟩
    | succ met =>
      refine ⟨some (e.buffer.cutAfter passed).1, (e.buffer.cutAfter passed).2, ?_, rfl⟩
      dsimp only
      rw [if_pos (Nat.succ_pos met), Buffer.stored_cursor, Buffer.stored_cursor, Buffer.stored_erase,
        Buffer.erase_from_advance hle]
      rfl

/-- To kill to word starts is to move there and erase the text between. -/
theorem stored_cutToWordStart {e : Editing} (h : '\r' ∉ e.buffer.text) (amount : Nat)
    (cls : WordClass) :
    ∃ cut b, e.buffer.stored.cutToWordStart amount cls = .ok (cut, b.stored) ∧
      e.killPreviousWord amount cls = e.afterCut (cut, b) := by
  have hle := e.buffer.wordStart_le amount true cls
  have hstill : (e.buffer.wordStart amount true cls).1 = 0 →
      (e.buffer.wordStart amount true cls).2 = 0 := Buffer.wordWay_snd_eq_zero
  rw [LineBuffer.cutToWordStart, Buffer.stored_moveToWordStart h, Panic.ok_bind, killPreviousWord,
    Buffer.moveToWordStart]
  cases hway : e.buffer.wordStart amount true cls with
  | mk met passed =>
    rw [hway] at hle hstill
    cases met with
    | zero =>
      obtain rfl : passed = 0 := hstill rfl
      exact ⟨none, e.buffer.retreat 0, rfl, by rw [Buffer.retreat_zero]; rfl⟩
    | succ met =>
      refine ⟨some (e.buffer.cutBefore passed).1, (e.buffer.cutBefore passed).2, ?_, rfl⟩
      dsimp only
      rw [if_pos (Nat.succ_pos met), Buffer.stored_cursor, Buffer.stored_cursor, Buffer.stored_erase,
        Buffer.erase_from_retreat hle]
      rfl

/-! ## Yanks -/

/-- To yank is to insert into the lines. -/
theorem stored_insertYanked (e : Editing) (text : Text) :
    e.buffer.stored.insertYanked text =
      .ok ((e.insertYanked text).yankExtent, (e.insertYanked text).buffer.stored) := by
  rw [LineBuffer.insertYanked, Buffer.stored_insert, Panic.ok_bind]
  rfl

/-- To exchange a yank is to erase and insert in the lines. -/
theorem stored_exchangeYanked {e : Editing} (hchain : e.chain = .yanked) (hne : e.ring.rotate.1 ≠ []) :
    ∃ e', e.popYank = .ok (true, e') ∧
      e.buffer.stored.exchangeYanked e.yankExtent e.ring.rotate.1 =
        .ok (e'.yankExtent, e'.buffer.stored) := by
  obtain ⟨e', hpop, hdoes⟩ := exists_popYank_eq_true hchain hne 1
  refine ⟨e', hpop, ?_⟩
  cases hdoes with
  | moved haction => exact absurd haction (by decide)
  | erased haction => exact absurd haction (by decide)
  | killed haction => exact absurd haction (by decide)
  | @popped text left cut right ring _ hrotate _ htext hleft hcut =>
    have herase := Buffer.erase_eq htext hleft hcut
    have hplace := Buffer.place_endOf (Buffer.text_eraseSpan_append htext)
    rw [hleft] at hplace
    rw [LineBuffer.exchangeYanked, Buffer.stored_clamp, Panic.ok_bind, Buffer.stored_clamp, Panic.ok_bind,
      Buffer.stored_erase, herase, hrotate]
    show (Buffer.stored _).place _ >>= (fun b => _) = _
    rw [Buffer.stored_place, hplace]
    exact stored_insertYanked { e with buffer := { before := left, after := right }, ring } text

end Editing

end LineEditor
