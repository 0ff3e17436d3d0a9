import LineEditor.Proofs.Session.Presentation
import LineEditor.Proofs.Session.Soundness
import LineEditor.Terminal.Fault

/-!
# Fresh inputs

When an input is given up or replaced, the next one is to begin as in a new session, with nothing kept
but the kill ring.  Two more things are in fact kept.  One is where the last yank stands, which nothing
looks at before the next yank.  The other is the text of a paste that has not ended, and it is inserted
together with the next text.

* Reports.  `Step.report` is what a host can tell from a call; sessions in lockstep report the same
  (`Alike.steps_report`).
* Starting anew.  `Step.StartsInput` says which calls start an input, and
  `Step.StartsInput.after_editing` what they leave.  `Session.renewed` is the new session to compare
  with.
* The result.  `fresh_input_is_new` says that a fresh input is like a new session in which the same text
  is being pasted, and like a new session exactly if no text is.
-/

namespace LineEditor

open SessionM

/-! ## Reports -/

/-- What a host can tell of what is edited: lines, cursor, ring, last action and chain. -/
def Editing.report (e : Editing) : List Text × Position × KillRing × Action × Chain :=
  (e.buffer.lines, e.buffer.cursor, e.ring, e.lastAction, e.chain)

theorem Editing.SameBut.report {exact : Prop} {e e' : Editing} (h : SameBut exact e e') :
    e'.report = e.report := by
  rcases h with rfl | ⟨-, -, extent, rfl⟩ <;> rfl

theorem Answer.Alike.outcome?_eq {seen : Prop} {answer answer' : Answer}
    (h : answer.Alike seen answer') : answer.outcome? = answer'.outcome? := by
  have hblank : ∀ answer : Answer, answer.blank.outcome? = answer.outcome? := by
    intro answer
    cases answer <;> rfl
  rw [← hblank, h.1, hblank]

namespace Session

/-- What a host can tell from a call: its outcome, and what is edited after it. -/
def Step.report (step : Step) :
    Except SessionError (Option Outcome) × List Text × Position × KillRing × Action × Chain :=
  (step.result.map Answer.outcome?, step.after.editing.report)

/-- Sessions in lockstep report the same. -/
theorem Alike.steps_report {seen exact : Prop} {s s' : Session} (hs : s.Alike seen exact s')
    {calls : List (Terminal × Call)} (hblind : ∀ call ∈ calls, seen ∨ call.1.IsBlind) :
    (s.steps calls).map Step.report = (s'.steps calls).map Step.report := by
  have hcalls : List.Forall₂
      (fun call call' : Terminal × Call => call = call' ∧ (seen ∨ call.1.IsBlind)) calls calls := by
    rw [List.forall₂_same]
    exact fun call hmem => ⟨rfl, hblind call hmem⟩
  have hany : ∀ (s : Session), ∀ step ∈ s.steps calls, (fun _ => True) step := fun _ _ _ => trivial
  refine map_steps_eq hcalls hs (hany s) (hany s') ?_
  rintro ⟨s, terminal, call⟩ ⟨s', _, _⟩ hs ⟨heq, hblind⟩ - -
  cases heq
  obtain ⟨hrelated, hafter⟩ := hs.run hblind call
  refine ⟨?_, hafter⟩
  have hresult : (call.run terminal s).1.map Answer.outcome? =
      (call.run terminal s').1.map Answer.outcome? :=
    (hrelated.map (S := (· = ·)) fun _ _ h => h.outcome?_eq).eq
  exact Prod.ext hresult hafter.editing.report.symm

end Session

/-! ## Starting anew -/

namespace Editing

variable {e e' : Editing} {call : Call} {times : Nat}

/-- An input that was given up has been replaced by a new one. -/
theorem Called.eq_reset (h : Called e call (.ok (.outcome .handled)) e')
    (haction : call.action? e.keyboard = some (.abortLine, times)) :
    e' = (e.received call).reset := by
  cases h with
  | received hnone _ _ => exact absurd (hnone.symm.trans haction) nofun
  | refused haction' _ hrefused =>
    cases haction'.symm.trans haction
    obtain ⟨outcome, hmem, hgives⟩ := hrefused
    obtain rfl := List.mem_singleton.1 hmem
    exact absurd hgives.eq_of_ok nofun
  | aborted _ _ => rfl
  | done haction' hdoes _ =>
    cases haction'.symm.trans haction
    cases hdoes with
    | moved hmem _ _ => exact absurd hmem (by decide)
    | erased hmem _ _ => exact absurd hmem (by decide)
    | killed hkill _ _ => exact absurd hkill nofun

/-- To give up the input takes in no part of a paste, and ends none. -/
theorem pasted_received_of_abort (haction : call.action? e.keyboard = some (.abortLine, times)) :
    (e.received call).pasted = e.pasted := by
  cases call with
  | text text withinPaste => cases withinPaste <;> exact absurd haction nofun
  | reset => rfl
  | _ => rfl

end Editing

namespace Session

/-- The call starts an input: this was asked for, or the input was given up. -/
def Step.StartsInput (step : Step) : Prop :=
  step.call = .reset ∨
    ∃ times, step.action? = some (.abortLine, times) ∧ step.result = .ok (.outcome .handled)

/-- A fresh input is new but for the ring, the place of the last yank, and a paste that has not
ended. -/
theorem Step.StartsInput.after_editing {step : Step} (h : step.StartsInput)
    (hstaged : step.before.editing.staged = []) :
    step.after.editing =
      { Editing.initial with
        ring := step.before.editing.ring
        yankExtent := step.before.editing.yankExtent
        pasted := step.before.editing.pasted } := by
  obtain ⟨s, terminal, call⟩ := step
  rcases h with hcall | ⟨times, haction, hr⟩
  · obtain rfl : call = .reset := hcall
    show s.editing.reset = _
    rw [Editing.reset, hstaged]
    rfl
  · have haction : call.action? s.editing.keyboard = some (.abortLine, times) := haction
    have hcalled : Editing.Called s.editing call (call.run terminal s).1
        (s.after terminal call).editing := call.run_called terminal s
    rw [show (call.run terminal s).1 = .ok (.outcome .handled) from hr] at hcalled
    have hagrees := Editing.received_agrees_of_action? haction
    have hstaged' : (s.editing.received call).staged = [] :=
      (Editing.received_staged fun times => by rw [haction]; exact nofun).trans hstaged
    show (s.after terminal call).editing = _
    rw [hcalled.eq_reset haction, Editing.reset, hagrees.ring, hagrees.yankExtent, hstaged',
      Editing.pasted_received_of_abort haction]
    rfl

/-- A new session with the prompts, the known width and the kill ring of this one, at the same point of
its history and `row` rows below the first one drawn. -/
def renewed (s : Session) (row : Nat) : Session :=
  { s with editing := { Editing.initial with ring := s.editing.ring }, cursorRow := row }

/-- A session that goes on with a paste. -/
def pasting (s : Session) (pasted : Text) : Session :=
  { s with editing := { s.editing with pasted } }

/-- A fresh input is in lockstep with a new session in which the same text is being pasted. -/
theorem Step.StartsInput.alike {step : Step} (h : step.StartsInput)
    (hstaged : step.before.editing.staged = []) (row : Nat) :
    step.after.Alike (row = step.after.cursorRow) False
      ((step.after.renewed row).pasting step.before.editing.pasted) where
  editing := by
    refine .inr ⟨not_false, ?_, .initial, ?_⟩
    · rw [h.after_editing hstaged]
      exact nofun
    · rw [pasting, renewed, h.after_editing hstaged]
      rfl
  width := rfl
  prompts := rfl
  length := rfl
  look hrow := ⟨⟨rfl, rfl, rfl⟩, hrow⟩

/-! ## The next text -/

/-- Once a text has come to its end, it is inserted together with what was pasted before. -/
theorem report_text {terminal : Terminal} (hreliable : terminal.Reliable) (s : Session)
    (text : Text) :
    let inserted := (s.editing.received (.text text false)).insertStaged 1
    Step.report { before := s, terminal, call := .text text false } =
      (.ok (some (outcomeOf inserted.1)),
        (inserted.2.remember .addText (outcomeOf inserted.1, true)).report) := by
  intro inserted
  have hsteps : ∀ step ∈ s.steps [(terminal, .text text false)], step.IsAnswered :=
    s.steps_isAnswered (by simp [hreliable])
  obtain ⟨answer, hrun⟩ := hsteps _ List.mem_cons_self
  have haction : Call.action? s.editing.keyboard (.text text false) = some (.addText, 1) := rfl
  have hact : (s.editing.received (.text text false)).act 1 .addText = .ok inserted := rfl
  have heffect : Call.effect (.text text false) terminal s = _ :=
    Call.effect_of_act haction (by decide) (by decide) hact hrun
  have hboth := Prod.ext_iff.1 heffect
  exact Prod.ext hboth.1 (congrArg Editing.report hboth.2)

/-- Nothing is being pasted if the end of the paste does the same as it would otherwise. -/
theorem eq_nil_of_report_pasting {terminal : Terminal} (hreliable : terminal.Reliable) {s : Session}
    {pasted : Text} (hnil : s.editing.pasted = [])
    (h : Step.report { before := s.pasting pasted, terminal, call := .text [] false } =
      Step.report { before := s, terminal, call := .text [] false }) : pasted = [] := by
  have hpasting : ((s.pasting pasted).editing.received (.text [] false)).staged = pasted :=
    List.append_nil pasted
  have hnothing : (s.editing.received (.text [] false)).staged = [] := by
    show s.editing.pasted ++ [] = []
    rw [hnil, List.append_nil]
  rw [report_text hreliable, report_text hreliable] at h
  unfold Editing.insertStaged at h
  dsimp only at h
  rw [hpasting, hnothing, if_pos (by decide : Text.size [] * 1 ≤ Editing.maxInsertSize)] at h
  by_cases hsize : pasted.size * 1 ≤ Editing.maxInsertSize
  · rw [if_pos hsize] at h
    simp only [Text.times_one] at h
    have hreport := congrArg Prod.snd h
    have hlines : (s.editing.buffer.insert pasted).lines = (s.editing.buffer.insert []).lines :=
      congrArg Prod.fst hreport
    have hcursor : (s.editing.buffer.insert pasted).cursor = (s.editing.buffer.insert []).cursor :=
      congrArg (fun report => report.2.1) hreport
    refine Buffer.eq_nil_of_text_insert (b := s.editing.buffer) ?_
    rw [Buffer.eq_of_lines_cursor hlines hcursor, Buffer.insert_eq List.not_mem_nil,
      List.append_nil]
  · rw [if_neg hsize] at h
    exact absurd (congrArg Prod.fst h) (by simp [outcomeOf])

/-! ## The result -/

/-- After any run of calls an input is started, because that is asked for or because the input before
it was given up.  The ring is kept, and so is the text of a paste that has not ended.  Apart from these,
and whatever is called next, the session goes on as a new one does: in every continuation the reports of
all calls are those of a new session in which the same text is being pasted, and they are those of a
new session exactly if no text is.

The two sessions may have been drawn at different rows if the terminals fail or do not fail whatever is
written; otherwise they are compared at the same row. -/
theorem fresh_input_is_new (config : Config) (calls : List (Terminal × Call)) {s : Session}
    (hs : s = (ofConfig config).afterAll calls) (terminal : Terminal) {call : Call}
    (hstart : Step.StartsInput { before := s, terminal, call }) (row : Nat) :
    let s' := s.after terminal call
    let new := s'.renewed row
    s'.editing.ring = s.editing.ring ∧ s'.editing.pasted = s.editing.pasted ∧
      (∀ later : List (Terminal × Call),
        (∀ call ∈ later, row = s'.cursorRow ∨ call.1.IsBlind) →
          (s'.steps later).map Step.report =
            ((new.pasting s.editing.pasted).steps later).map Step.report) ∧
      ((∀ later : List (Terminal × Call),
        (∀ call ∈ later, row = s'.cursorRow ∨ call.1.IsBlind) →
          (s'.steps later).map Step.report = (new.steps later).map Step.report) ↔
        s.editing.pasted = []) := by
  intro s' new
  have hsound : s.Sound := by
    rw [hs]
    exact (sound_ofConfig config).afterAll calls
  have hediting : s'.editing = _ := hstart.after_editing hsound.staged
  have hlater : ∀ later : List (Terminal × Call),
      (∀ call ∈ later, row = s'.cursorRow ∨ call.1.IsBlind) →
        (s'.steps later).map Step.report =
          ((new.pasting s.editing.pasted).steps later).map Step.report :=
    fun later => (hstart.alike hsound.staged row).steps_report
  refine ⟨by rw [hediting], by rw [hediting], hlater, fun hsame => ?_, fun hnil => ?_⟩
  · -- the end of the paste tells the two sessions apart
    have hreliable := terminal.reliable_mended
    have hblind : ∀ call ∈ [(terminal.mended, Call.text [] false)],
        row = s'.cursorRow ∨ call.1.IsBlind :=
      fun call hmem => .inr (by rw [List.mem_singleton.1 hmem]; exact hreliable.isBlind)
    have hreports := (hlater _ hblind).symm.trans (hsame _ hblind)
    exact eq_nil_of_report_pasting (s := new) hreliable rfl (List.cons.inj hreports).1
  · rw [hnil] at hlater
    exact hlater

/-- A word is typed, killed and yanked, a number is begun, and the input is given up by a key.  The next
input is that of a new session, with the word in its ring. -/
theorem fresh_input_is_new_after_abort :
    let terminal := Faults.terminal {} 40
    let calls : List (Terminal × Call) :=
      [(terminal, .text "rm -rf".toList false),
       (terminal, .key { code := .char 'w', modifiers := .controlOnly }),
       (terminal, .key { code := .char 'y', modifiers := .controlOnly }),
       (terminal, .key { code := .char '3', modifiers := .altOnly })]
    let abort : Call := .key { code := .char 'c', modifiers := .controlOnly }
    let s := (ofConfig {}).afterAll calls
    let s' := s.after terminal abort
    s.text = "rm -rf".toList ∧ s.editing.chain = .yanked ∧ s.editing.keyboard.argument = some 3 ∧
      Step.StartsInput { before := s, terminal, call := abort } ∧
      s'.editing.ring = s.editing.ring ∧
      ∀ later : List (Terminal × Call), (∀ call ∈ later, call.1.IsBlind) →
        (s'.steps later).map Step.report = ((s'.renewed 0).steps later).map Step.report := by
  intro terminal calls abort s s'
  have htext : s.text = "rm -rf".toList := by decide +kernel
  have hchain : s.editing.chain = .yanked := by decide +kernel
  have hargument : s.editing.keyboard.argument = some 3 := by decide +kernel
  have hpasted : s.editing.pasted = [] := by decide +kernel
  have haction : abort.action? s.editing.keyboard = some (.abortLine, 3) := by decide +kernel
  have hr : (abort.run terminal s).1 = .ok (.outcome .handled) := by decide +kernel
  have hstart : Step.StartsInput { before := s, terminal, call := abort } := .inr ⟨3, haction, hr⟩
  have hs : s = (ofConfig {}).afterAll calls := rfl
  -- the runs are not to be evaluated once more
  clear_value s
  obtain ⟨hring, -, -, hnew⟩ := fresh_input_is_new {} calls hs terminal hstart 0
  refine ⟨htext, hchain, hargument, hstart, hring, fun later hblind => ?_⟩
  exact hnew.2 hpasted later fun call hmem => .inr (hblind call hmem)

/-- The beginning of a paste comes, the input is started afresh, and what is typed next is inserted
together with it. -/
theorem fresh_input_takes_abandoned_paste :
    let terminal := Faults.terminal {} 40
    let next : Call := .text "ls".toList false
    let s := (ofConfig { mark := false }).after terminal (.text "rm -rf ".toList true)
    let s' := s.after terminal .reset
    (s'.after terminal next).editing.buffer.lines = ["rm -rf ls".toList] ∧
      ((s'.renewed 0).after terminal next).editing.buffer.lines = ["ls".toList] := by
  decide +kernel

end Session

end LineEditor
