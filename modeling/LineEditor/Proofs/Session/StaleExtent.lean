import LineEditor.Proofs.Session.Yank

/-!
# Yanks in a text that was replaced

Between a yank and the exchange of its text the host may replace the input.  The two positions that
the yank has remembered are then put back into a text that they were not taken from.

* The extent.  Its ends are in order whatever has been done (`Session.yankExtent_le`), since every
  yank remembers the cursor before and after an insertion.
* The result.  `popYank_keeps_before` says what an exchange keeps of a text that its extent was not
  taken from.  The ends may pass each other there, and `popYank_takes_text_before_start` is an
  exchange that takes out text before the place of the first one.
-/

namespace LineEditor

open SessionM

namespace Editing

/-! ## The extent -/

variable {e e' : Editing} {call : Call} {action : Action} {times : Nat}
  {r : Except SessionError Answer}

theorem received_yankExtent (e : Editing) (call : Call) :
    (e.received call).yankExtent = e.yankExtent := by
  cases call <;> rfl

/-- Text is inserted before the cursor, so the cursor moves on at most. -/
theorem insertYanked_yankExtent_le (e : Editing) (text : Text) :
    (e.insertYanked text).yankExtent.start ≤ (e.insertYanked text).yankExtent.stop :=
  Position.endOf_le_append e.buffer.before text.normalizeBreaks

theorem Does.yankExtent_le (h : Does e times action e')
    (hle : e.yankExtent.start ≤ e.yankExtent.stop) :
    e'.yankExtent.start ≤ e'.yankExtent.stop := by
  cases h with
  | moved _ _ _ => exact hle
  | erased _ _ _ => exact hle
  | killed _ _ _ => exact hle
  | yanked _ => exact insertYanked_yankExtent_le _ _
  | popped _ _ _ _ _ _ => exact insertYanked_yankExtent_le _ _
  | inserted _ => exact hle

theorem Called.yankExtent_le (h : Called e call r e')
    (hle : e.yankExtent.start ≤ e.yankExtent.stop) :
    e'.yankExtent.start ≤ e'.yankExtent.stop := by
  have hreceived : (e.received call).yankExtent.start ≤ (e.received call).yankExtent.stop := by
    rw [received_yankExtent]
    exact hle
  cases h with
  | received _ _ _ => exact hreceived
  | @refused action _ _ _ _ _ =>
    rw [(refused_agrees (e.received call) action).yankExtent]
    exact hreceived
  | aborted _ _ => exact hreceived
  | done _ hdoes _ => exact hdoes.yankExtent_le hreceived

end Editing

namespace Session

theorem yankExtent_le (config : Config) (calls : List (Terminal × Call)) :
    let extent := ((ofConfig config).afterAll calls).editing.yankExtent
    extent.start ≤ extent.stop :=
  afterAll_induction (P := fun s => s.editing.yankExtent.start ≤ s.editing.yankExtent.stop)
    (Position.le_refl _) calls fun s terminal call _ hle =>
      (call.run_called terminal s).yankExtent_le hle

/-! ## The result -/

/-- Positions that are put back into a text keep their order unless they pass each other, which takes
a first one on the last line or below it and a second one further below.  After any run of calls, also
of calls that replace the input, the ends of the last yank are in order, so they are put back in order
unless they pass each other.  An exchange that is done keeps the text before the earlier one of the
places that they are put back to, and the text after the later one; the earlier one is that of the
first end unless they pass each other. -/
theorem popYank_keeps_before (config : Config) (calls : List (Terminal × Call)) {s : Session}
    (hs : s = (ofConfig config).afterAll calls) :
    (∀ (b : Buffer) (p q : Position), p ≤ q → (b.clamp p ≤ b.clamp q ↔ ¬ b.Crosses p q)) ∧
      let b := s.editing.buffer
      let extent := s.editing.yankExtent
      let start := b.clamp extent.start
      let stop := b.clamp extent.stop
      extent.start ≤ extent.stop ∧ (start ≤ stop ↔ ¬ b.Crosses extent.start extent.stop) ∧
        ∀ terminal pop times, pop.action? s.editing.keyboard = some (.popYank, times) →
          s.editing.chain = .yanked ∧ 2 ≤ s.editing.ring.entries.length →
          let e' := (s.after terminal pop).editing
          Gives (.outcome .handled) (pop.run terminal s).1 ∧
            ∃ left right, b.text.before? (min start stop) = some left ∧
              b.text.after? (max start stop) = some right ∧
              e'.buffer.text = left ++ e'.ring.front ++ right ∧
              (¬ b.Crosses extent.start extent.stop → b.text.before? start = some left) := by
  refine ⟨fun b p q => Buffer.clamp_le_clamp_iff, ?_⟩
  intro b extent start stop
  have hsound : s.Sound := by
    rw [hs]
    exact (sound_ofConfig config).afterAll calls
  have hle : extent.start ≤ extent.stop := by
    have hrun := yankExtent_le config calls
    rwa [← hs] at hrun
  have horder : start ≤ stop ↔ ¬ b.Crosses extent.start extent.stop :=
    Buffer.clamp_le_clamp_iff hle
  refine ⟨hle, horder, fun terminal pop times hpop hready => ?_⟩
  have hcalled : Editing.Called s.editing pop (pop.run terminal s).1
      (s.after terminal pop).editing := pop.run_called terminal s
  rcases hcalled.popYank_cases hpop with ⟨hnot, -, -⟩ | ⟨hexchanges, hgives, -⟩
  · exact absurd ⟨hready.1, hsound.editing.rotate_ne_nil_iff.2 hready.2⟩ hnot
  · obtain ⟨left, right, hleft, hright, hbuffer, -⟩ :=
      hexchanges.kept hsound.editing.return_notMem_rotate
    refine ⟨hgives, left, right, hleft, hright, ?_, fun hcross => ?_⟩
    · rw [hexchanges.ring, KillRing.front_rotate hexchanges.next, hbuffer]
      rfl
    · rw [← Position.min_eq_left (horder.2 hcross)]
      exact hleft

/-- Two lines are yanked, and the input is replaced by one that has the first end of the yank but not
the second; the text before the first end is kept. -/
theorem popYank_keeps_before_start :
    let terminal := Faults.terminal {} 40
    let calls : List (Terminal × Call) :=
      [(terminal, .text "x".toList false), (terminal, .action .killToLineStart 1),
       (terminal, .text "p\nqr".toList false), (terminal, .action .killPreviousWord 2),
       (terminal, .text "a".toList false), (terminal, .action .yank 1),
       (terminal, .setText "one".toList)]
    let s := (ofConfig {}).afterAll calls
    let b := s.editing.buffer
    let extent := s.editing.yankExtent
    let start := b.clamp extent.start
    let stop := b.clamp extent.stop
    let e' := (s.after terminal (.action .popYank 1)).editing
    start = { offset := 1, line := 0 } ∧ stop = { offset := 2, line := 0 } ∧
      b.text.before? start = some "o".toList ∧
      Gives (.outcome .handled) (Call.run (.action .popYank 1) terminal s).1 ∧
      ∃ left right, b.text.before? (min start stop) = some left ∧
        b.text.after? (max start stop) = some right ∧
        e'.buffer.text = left ++ e'.ring.front ++ right ∧
        (¬ b.Crosses extent.start extent.stop → b.text.before? start = some left) := by
  intro terminal calls s b extent start stop e'
  have hready : s.editing.chain = .yanked ∧ 2 ≤ s.editing.ring.entries.length := by
    decide +kernel
  refine ⟨by decide +kernel, by decide +kernel, by decide +kernel, ?_⟩
  have hs : s = (ofConfig {}).afterAll calls := rfl
  -- the run is not to be evaluated once more
  clear_value s
  obtain ⟨-, -, -, hpop⟩ := popYank_keeps_before {} calls hs
  exact hpop terminal (.action .popYank 1) 1 rfl hready

/-- Positions that are put back in the other order, and an exchange that takes out text before the
place of the first one.  The yank has put a whole line after `abc`, so its second end is on the next
line, at the start; in the shorter text that is the start of the only line. -/
theorem popYank_takes_text_before_start :
    let terminal := Faults.terminal {} 40
    let calls : List (Terminal × Call) :=
      [(terminal, .text "x".toList false), (terminal, .action .killToLineStart 1),
       (terminal, .text "p\n".toList false), (terminal, .action .killPreviousWord 1),
       (terminal, .text "abc".toList false), (terminal, .action .yank 1),
       (terminal, .setText "wxy".toList)]
    let s := (ofConfig {}).afterAll calls
    let b := s.editing.buffer
    let extent := s.editing.yankExtent
    let e' := (s.after terminal (.action .popYank 1)).editing
    extent = { start := { offset := 3, line := 0 }, stop := { offset := 0, line := 1 } } ∧
      extent.start ≤ extent.stop ∧ ¬ b.clamp extent.start ≤ b.clamp extent.stop ∧
      b.text.before? (b.clamp extent.start) = some "wxy".toList ∧
      (Call.run (.action .popYank 1) terminal s).1 = .ok (.outcome .handled) ∧
      e'.buffer.text = "x".toList := by
  decide +kernel

end Session

end LineEditor
