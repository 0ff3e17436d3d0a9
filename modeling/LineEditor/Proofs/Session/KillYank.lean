import LineEditor.Proofs.Session.KillRuns
import LineEditor.Proofs.Session.Outcomes
import LineEditor.Proofs.Session.Yank

/-!
# A kill and the yank after it

A kill takes the text between the cursor and the place where the motion of the same kind would go.
A yank right after it puts that text back, and leaves the cursor at its end.

* What a kill takes.  `Buffer.killTarget` is the place where the motion goes, and `exists_kill_eq`
  says that the text between it and the cursor is what a kill takes, on the side of the cursor that
  the kill works on.
* Calls.  `Session.exists_kill` says what a kill has done that was answered as handled.
* The result.  `kill_yank_restores` says for all reachable sessions what a kill and a yank right
  after it come to.
-/

namespace LineEditor

open SessionM

/-- Whether a kill takes text before the cursor. -/
def Action.killsBack : Action → Bool
  | .killToLineStart | .killPreviousWord | .killPreviousSpaceDelimitedWord => true
  | _ => false

/-- The place where the motion goes that passes the text which a kill takes. -/
def Buffer.killTarget (b : Buffer) (times : Nat) : Action → Position
  | .killToLineEnd => b.toLineEnd.2.cursor
  | .killToLineStart => b.toLineStart.2.cursor
  | .killNextWord => (b.moveToWordEnd times true .alphanumeric).2.cursor
  | .killPreviousWord => (b.moveToWordStart times true .alphanumeric).2.cursor
  | .killPreviousSpaceDelimitedWord => (b.moveToWordStart times true .nonSpace).2.cursor
  | _ => b.cursor

namespace Editing

variable {e e' : Editing} {call : Call} {action : Action} {times : Nat}

/-! ## What a kill takes -/

/-- The text `cut` stands between the cursor of `b` and `target`, before the cursor if `back`;
without it `b` is `b'`. -/
inductive TakesTo (b : Buffer) (target : Position) : Bool → Text → Buffer → Prop
  | back {left cut right : Text} (hbuffer : b = { before := left ++ cut, after := right })
      (htarget : target = .endOf left) :
      TakesTo b target true cut { before := left, after := right }
  | on {left cut right : Text} (hbuffer : b = { before := left, after := cut ++ right })
      (htarget : target = .endOf (left ++ cut)) :
      TakesTo b target false cut { before := left, after := right }

/-- Characters before the cursor lie between it and the place that is so many characters back. -/
theorem takesTo_cutBefore (b : Buffer) (n : Nat) :
    TakesTo b (b.retreat n).cursor true (b.cutBefore n).1 (b.cutBefore n).2 := by
  apply TakesTo.back
  · show b = { before := b.before.take _ ++ b.before.drop _, after := b.after }
    rw [List.take_append_drop]
  · rfl

/-- Characters after the cursor lie between it and the place that is so many characters on. -/
theorem takesTo_cutAfter (b : Buffer) (n : Nat) :
    TakesTo b (b.advance n).cursor false (b.cutAfter n).1 (b.cutAfter n).2 := by
  apply TakesTo.on
  · show b = { before := b.before, after := b.after.take n ++ b.after.drop n }
    rw [List.take_append_drop]
  · rfl

theorem TakesTo.cuts {b b' : Buffer} {target : Position} {back : Bool} {cut : Text}
    (h : TakesTo b target back cut b') : b.Cuts cut b' := by
  cases h with
  | back hbuffer _ => exact ⟨cut, [], by simp [hbuffer], by simp [hbuffer], by simp⟩
  | on hbuffer _ => exact ⟨[], cut, by simp [hbuffer], by simp [hbuffer], by simp⟩

/-- Text that was taken reaches from the earlier to the later one of cursor and target. -/
theorem TakesTo.ends {b b' : Buffer} {target : Position} {back : Bool} {cut : Text}
    (h : TakesTo b target back cut b') (hcut : cut ≠ []) :
    (back = true → target < b.cursor) ∧ (back = false → b.cursor < target) ∧
      min b.cursor target = .endOf b'.before ∧ max b.cursor target = .endOf (b'.before ++ cut) := by
  cases h with
  | @back left cut right hbuffer htarget =>
    have hcursor : b.cursor = .endOf (left ++ cut) := by rw [hbuffer]; rfl
    have hlt := Text.endOf_lt_append left hcut
    rw [hcursor, htarget]
    refine ⟨fun _ => hlt, nofun, ?_, ?_⟩
    · exact Position.min_eq_right (Position.le_of_lt hlt)
    · exact Position.max_eq_left (Position.le_of_lt hlt)
  | @on left cut right hbuffer htarget =>
    have hcursor : b.cursor = .endOf left := by rw [hbuffer]; rfl
    have hlt := Text.endOf_lt_append left hcut
    rw [hcursor, htarget]
    refine ⟨nofun, fun _ => hlt, ?_, ?_⟩
    · exact Position.min_eq_left (Position.le_of_lt hlt)
    · exact Position.max_eq_right (Position.le_of_lt hlt)

/-- A kill that is done takes the text between the cursor and its target. -/
theorem exists_takesTo (h : e.act times action = .ok (true, e')) (haction : action.isKill = true) :
    ∃ cut b, e' = e.kill cut b ∧
      TakesTo e.buffer (e.buffer.killTarget times action) action.killsBack cut b := by
  have hword : ∀ cls, e.killPreviousWord times cls = (true, e') →
      ∃ cut b, e' = e.kill cut b ∧
        TakesTo e.buffer (e.buffer.moveToWordStart times true cls).2.cursor true cut b := by
    intro cls heq
    unfold killPreviousWord at heq
    split at heq
    · simp at heq
    · next met passed hmet hway =>
      have hmove : (e.buffer.moveToWordStart times true cls).2 = e.buffer.retreat passed := by
        simp only [Buffer.moveToWordStart, hway]
      rw [hmove]
      exact ⟨_, _, (congrArg Prod.snd heq).symm, takesTo_cutBefore e.buffer passed⟩
  cases action with
  | killToLineEnd =>
    have heq : e.killToLineEnd = (true, e') := Except.ok.inj h
    unfold killToLineEnd at heq
    split at heq
    · simp at heq
    · exact ⟨_, _, (congrArg Prod.snd heq).symm, takesTo_cutAfter e.buffer _⟩
  | killToLineStart =>
    have heq : e.killToLineStart = (true, e') := Except.ok.inj h
    unfold killToLineStart at heq
    split at heq
    · simp at heq
    · exact ⟨_, _, (congrArg Prod.snd heq).symm, takesTo_cutBefore e.buffer _⟩
  | killNextWord =>
    have heq : e.killNextWord times = (true, e') := Except.ok.inj h
    unfold killNextWord at heq
    split at heq
    · simp at heq
    · next met passed hmet hway =>
      have hmove : (e.buffer.moveToWordEnd times true .alphanumeric).2 = e.buffer.advance passed := by
        simp only [Buffer.moveToWordEnd, hway]
      refine ⟨_, _, (congrArg Prod.snd heq).symm, ?_⟩
      show TakesTo e.buffer (e.buffer.moveToWordEnd times true .alphanumeric).2.cursor _ _ _
      rw [hmove]
      exact takesTo_cutAfter e.buffer passed
  | killPreviousWord => exact hword _ (Except.ok.inj h)
  | killPreviousSpaceDelimitedWord => exact hword _ (Except.ok.inj h)
  | _ => simp [Action.isKill] at haction

/-- A kill that is done moves the text between the cursor and its target to the ring. -/
theorem exists_kill_eq (h : e.act times action = .ok (true, e')) (haction : action.isKill = true) :
    ∃ cut, cut ≠ [] ∧ e' = e.kill cut e'.buffer ∧
      TakesTo e.buffer (e.buffer.killTarget times action) action.killsBack cut e'.buffer := by
  obtain ⟨cut, b, rfl, htakes⟩ := exists_takesTo h haction
  obtain ⟨answer, hact, hanswer⟩ := exists_act_eq e times action
  rw [h, Except.ok.injEq] at hact
  subst hact
  rcases hanswer with ⟨hfalse, -⟩ | ⟨-, hdoes⟩
  · simp at hfalse
  · obtain ⟨cut', hne, hcuts, -⟩ := hdoes.kills haction
    have hcut : cut = cut' := by
      rw [← hcuts.removed_eq]
      exact htakes.cuts.removed_eq.symm
    subst hcut
    exact ⟨cut, hne, rfl, htakes⟩

end Editing

/-! ## Calls -/

namespace Session

/-- A kill that is handled moves the text between the cursor and its target to the ring. -/
theorem exists_kill {s : Session} {terminal : Terminal} {call : Call} {action : Action}
    {times : Nat} (hsound : s.Sound)
    (haction : call.action? s.editing.keyboard = some (action, times))
    (hkill : action.isKill = true) (hchain : s.editing.chain ≠ .killing)
    (hr : (call.run terminal s).1 = .ok (.outcome .handled)) :
    let e' := (s.after terminal call).editing
    ∃ cut, cut ≠ [] ∧ '\r' ∉ cut ∧ e'.ring.entries = cut :: s.editing.ring.entries ∧
      Editing.TakesTo s.editing.buffer (s.editing.buffer.killTarget times action)
        action.killsBack cut e'.buffer := by
  intro e'
  have hreceived := Editing.received_agrees_of_action? haction
  have hat : action.worksAtCursor = true := by
    cases action <;> simp_all [Action.isKill, Action.worksAtCursor]
  obtain ⟨e₁, hact, hafter⟩ := (Call.performed_of_ok haction hr).exists_act_eq hat
  obtain ⟨cut, hne, heq, htakes⟩ := Editing.exists_kill_eq hact hkill
  have hbuffer : e'.buffer = e₁.buffer := by
    show (s.after terminal call).editing.buffer = _
    rw [hafter]
    rfl
  have hring : e'.ring = s.editing.ring.push cut := by
    have hring := congrArg Editing.ring heq
    rw [Editing.kill, hreceived.chain, hreceived.ring] at hring
    dsimp only at hring
    rw [if_neg hchain] at hring
    show (s.after terminal call).editing.ring = _
    rw [hafter]
    exact hring
  rw [hreceived.buffer] at htakes
  refine ⟨cut, hne, fun hmem => ?_, ?_, ?_⟩
  · exact hsound.editing.text (htakes.cuts.mem_of_mem_cut hmem)
  · rw [hring, KillRing.push, if_neg (by simpa using hne)]
  · rw [hbuffer]
    exact htakes

/-! ## The result -/

/-- After any run of calls, when no run of kills lasts: a kill that is handled takes the text between
the cursor and the place where its motion goes, which lies before or after the cursor as the kill does.
A yank right after it is done.  It puts the text back, so that the lines are those before the kill;
the cursor is at the later end of the text that was killed, and that text is in front of the entries
which the ring had before. -/
theorem kill_yank_restores (config : Config) (calls : List (Terminal × Call)) {s : Session}
    (hs : s = (ofConfig config).afterAll calls) (terminal terminal' : Terminal) {kill yank : Call}
    {action : Action} {times times' : Nat} (hchain : s.editing.chain ≠ .killing)
    (hkill : action.isKill = true ∧ kill.action? s.editing.keyboard = some (action, times))
    (hr : (kill.run terminal s).1 = .ok (.outcome .handled))
    (hyank : yank.action? (s.after terminal kill).editing.keyboard = some (.yank, times')) :
    let b := s.editing.buffer
    let target := b.killTarget times action
    let s₁ := s.after terminal kill
    let s₂ := s₁.after terminal' yank
    (action.killsBack = true → target < b.cursor) ∧
      (action.killsBack = false → b.cursor < target) ∧
      Gives (.outcome .handled) (yank.run terminal' s₁).1 ∧
      s₂.editing.buffer.lines = b.lines ∧
      s₂.editing.buffer.cursor = max b.cursor target ∧
      ∃ killed, killed ≠ [] ∧
        b.text.between? (min b.cursor target) (max b.cursor target) = some killed ∧
        s₂.editing.ring.entries = killed :: s.editing.ring.entries := by
  intro b target s₁ s₂
  have hsound : s.Sound := by
    rw [hs]
    exact (sound_ofConfig config).afterAll calls
  obtain ⟨killed, hne, hclean, hring, htakes⟩ :=
    exists_kill hsound hkill.2 hkill.1 hchain hr
  have hfront : s₁.editing.ring.front = killed := by
    show s₁.editing.ring.entries.headD [] = killed
    rw [hring]
    rfl
  have hcalled : Editing.Called s₁.editing yank (yank.run terminal' s₁).1 s₂.editing :=
    yank.run_called terminal' s₁
  rcases hcalled.yank_cases hyank with ⟨hnone, -, -⟩ | ⟨hyanks, hgives, -⟩
  · rw [hfront] at hnone
    exact absurd hnone hne
  have hbuffer : s₂.editing.buffer =
      { s₁.editing.buffer with before := s₁.editing.buffer.before ++ killed } := by
    rw [hyanks.buffer, hfront, Buffer.insert_eq hclean]
  have hring₂ : s₂.editing.ring.entries = killed :: s.editing.ring.entries := by
    rw [hyanks.ring]
    exact hring
  obtain ⟨hback, hon, hmin, hmax⟩ := htakes.ends hne
  have htext : b.text = s₁.editing.buffer.before ++ killed ++ s₁.editing.buffer.after :=
    htakes.cuts.text_eq
  refine ⟨hback, hon, hgives, ?_, ?_, killed, hne, ?_, hring₂⟩
  · rw [Buffer.lines, Buffer.lines, htext, hbuffer]
    rfl
  · rw [hmax, hbuffer]
    rfl
  · rw [hmin, hmax, htext]
    exact Text.between?_append _ _ _

/-- Three words are killed, over a line break, and yanked again. -/
theorem kill_yank_restores_words :
    let terminal := Faults.terminal {} 40
    let calls : List (Terminal × Call) :=
      [(terminal, .text "one two\nthree four".toList false), (terminal, .action .cursorLeft 1)]
    let kill : Call := .action .killPreviousWord 3
    let yank : Call := .key { code := .char 'y', modifiers := .controlOnly }
    let s := (ofConfig {}).afterAll calls
    let b := s.editing.buffer
    let target := b.killTarget 3 .killPreviousWord
    let s₁ := s.after terminal kill
    let s₂ := s₁.after terminal yank
    target = { offset := 4, line := 0 } ∧
      (target < b.cursor ∧ Gives (.outcome .handled) (yank.run terminal s₁).1 ∧
        s₂.editing.buffer.lines = b.lines ∧ s₂.editing.buffer.cursor = max b.cursor target ∧
        ∃ killed, killed ≠ [] ∧
          b.text.between? (min b.cursor target) (max b.cursor target) = some killed ∧
          s₂.editing.ring.entries = killed :: s.editing.ring.entries) := by
  intro terminal calls kill yank s b target s₁ s₂
  have htarget : target = { offset := 4, line := 0 } := by decide +kernel
  have hchain : s.editing.chain ≠ .killing := by decide +kernel
  have hkill : Action.isKill .killPreviousWord = true ∧
      kill.action? s.editing.keyboard = some (.killPreviousWord, 3) := ⟨rfl, rfl⟩
  have hr : (kill.run terminal s).1 = .ok (.outcome .handled) := by decide +kernel
  have hyank : yank.action? (s.after terminal kill).editing.keyboard = some (.yank, 1) := by
    decide +kernel
  have hs : s = (ofConfig {}).afterAll calls := rfl
  -- the runs are not to be evaluated once more
  clear_value s
  obtain ⟨hback, -, hrest⟩ :=
    kill_yank_restores {} calls hs terminal terminal hchain hkill hr hyank
  dsimp only [s₂, s₁]
  exact ⟨htarget, hback rfl, hrest⟩

end Session

end LineEditor
