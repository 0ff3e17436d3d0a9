import LineEditor.Proofs.Session.Atomicity
import LineEditor.Proofs.Session.Lockstep
import LineEditor.Proofs.Session.Outcomes

/-!
# Editing does not depend on how it is shown

Markers and highlighters change what is written to the terminal, and nothing that is read back.  So two
sessions that differ in these only (`Session.Restyled`) go on in lockstep.  Prompts of another width and
screens of another width do change the rows, but only motions up and down look at them.

* Views.  `Step.view` is what a call answers and leaves behind without the texts of prompts, and
  `Step.effect` is its outcome with what is edited.
* Styles.  `Alike.after_of_answered` keeps two sessions alike through a call that both answer.
* Widths.  `Applies.unique` says that a step of an action is determined by what is edited unless it is
  a motion up or down, and `Call.effect_unique` says so of calls.
* The result (`editing_ignores_presentation`).
-/

namespace LineEditor

open SessionM

/-! ## Views -/

/-- The outcome that an answer is, if it is one. -/
def Answer.outcome? : Answer → Option Outcome
  | .outcome o => some o
  | _ => none

/-- The outcome of a call, and what is edited after it. -/
def Call.effect (call : Call) (terminal : Terminal) (s : Session) :
    Except SessionError (Option Outcome) × Editing :=
  ((call.run terminal s).1.map Answer.outcome?, (s.after terminal call).editing)

namespace Session

/-- What a call answers, and what is edited and shown after it, without the texts of prompts. -/
def Step.view (step : Step) : Except SessionError Answer × Editing × List Row :=
  (step.result.map Answer.blank, step.after.editing, step.after.rows.map Row.blank)

/-- The outcome of a call, and what is edited after it. -/
def Step.effect (step : Step) : Except SessionError (Option Outcome) × Editing :=
  step.call.effect step.terminal step.before

/-- The call was answered, as it is unless the terminal fails. -/
def Step.IsAnswered (step : Step) : Prop :=
  ∃ answer, step.result = .ok answer

/-- Whether the action of the call moves the cursor up or down. -/
def Step.isVertical (step : Step) : Bool :=
  step.action?.any fun action => action.1.isVertical

/-- On reliable terminals all calls are answered. -/
theorem steps_isAnswered (s : Session) {calls : List (Terminal × Call)}
    (hreliable : ∀ call ∈ calls, call.1.Reliable) : ∀ step ∈ s.steps calls, step.IsAnswered := by
  refine forall_mem_steps (P := fun _ => True) trivial calls fun s terminal call hmem _ => ?_
  refine ⟨trivial, ?_⟩
  cases hresult : (call.run terminal s).1 with
  | ok answer => exact ⟨answer, hresult⟩
  | error e =>
    have hcalled : Editing.Called s.editing call (call.run terminal s).1
        (s.after terminal call).editing := call.run_called terminal s
    obtain ⟨error, rfl⟩ := hcalled.noMisuse e hresult
    exact absurd hresult (call.run_composed.ne_terminal_error (hreliable _ hmem) s error)

end Session

/-! ## Styles -/

/-- The two prompts have the same text, with its marker or without it. -/
def Prompt.Restyled (secondary : Bool) (prompt prompt' : Prompt) : Prop :=
  ∃ text mark mark', prompt = .ofText text secondary mark ∧ prompt' = .ofText text secondary mark'

theorem Prompt.Restyled.blank_eq {secondary : Bool} {prompt prompt' : Prompt}
    (h : Restyled secondary prompt prompt') : prompt'.blank = prompt.blank := by
  obtain ⟨text, mark, mark', rfl, rfl⟩ := h
  exact blank_ofText text secondary mark' mark

namespace Session

/-- The two sessions edit the same on screens of the same width.  They may differ in whether prompts and
rows carry markers, in the highlighter, and in what they have written so far. -/
structure Restyled (s s' : Session) : Prop where
  editing : s'.editing = s.editing
  width : s'.width = s.width
  primary : s.prompts.primary.Restyled false s'.prompts.primary
  continuation : s.prompts.continuation.Restyled true s'.prompts.continuation
  length : s'.history.length = s.history.length

variable {s s' : Session} {terminal terminal' : Terminal}

theorem Restyled.alike (h : s.Restyled s') : s.Alike False True s' where
  editing := .inl h.editing
  width := h.width
  prompts := by
    rw [Prompts.blank, h.primary.blank_eq, h.continuation.blank_eq]
    rfl
  length := h.length
  look := False.elim

theorem Alike.editing_eq {seen : Prop} (h : s.Alike seen True s') : s'.editing = s.editing := by
  rcases h.editing with heq | ⟨hexact, -⟩
  · exact heq
  · exact absurd trivial hexact

/-- A call that both sessions answer on screens of the same width is answered alike, whatever the
terminals reply to what is written. -/
theorem Alike.after_of_answered {exact : Prop} (hs : s.Alike False exact s')
    (hwidth : terminal'.width = terminal.width) {call : Call} {answer answer' : Answer}
    (hrun : (call.run terminal s).1 = .ok answer) (hrun' : (call.run terminal' s').1 = .ok answer') :
    answer.blank = answer'.blank ∧
      (s.after terminal call).Alike False exact (s'.after terminal' call) := by
  have hmended : terminal'.mended = terminal.mended := by
    rw [Terminal.mended, Terminal.mended, hwidth]
  -- both runs are as on the mended terminal, which takes no notice of what is written
  obtain ⟨h, hcall, hlength⟩ := call.run_composed.exists_mended (Eq.refl s.history.length)
    (Prod.ext hrun rfl : call.run terminal s = (.ok answer, s.after terminal call))
  obtain ⟨h', hcall', hlength'⟩ := call.run_composed.exists_mended (Eq.refl s'.history.length)
    (Prod.ext hrun' rfl : call.run terminal' s' = (.ok answer', s'.after terminal' call))
  have hboth : InStep False exact call.run call.run terminal.mended s s' (Answer.Alike False) :=
    hs.run (.inr terminal.reliable_mended.isBlind) call
  unfold InStep at hboth
  have hcall : call.run terminal.mended s = _ := hcall
  have hcall' : call.run terminal'.mended s' = _ := hcall'
  rw [hmended] at hcall'
  rw [hcall, hcall'] at hboth
  obtain ⟨hanswer, halike⟩ := hboth
  constructor
  · cases hanswer with
    | ok h => exact h.1
  · have hsame : h'.length = h.length := halike.length
    exact halike.withHistory (hlength'.symm.trans (hsame.trans hlength))

end Session

/-! ## Widths -/

namespace Editing

/-- The step of an action that is no motion up or down is determined by what is edited. -/
theorem Applies.unique {e e₁ e₂ : Editing} {times : Nat} {action : Action}
    {answer answer' : Outcome × Bool} (hvertical : action.isVertical = false)
    (h : Applies e times action answer e₁) (h' : Applies e times action answer' e₂) :
    answer' = answer ∧ e₂ = e₁ := by
  cases h with
  | answered haction hact _ =>
    cases h' with
    | answered _ hact' _ =>
      rcases hact with rfl | rfl | hact
      · exact absurd hvertical nofun
      · exact absurd hvertical nofun
      · rcases hact' with rfl | rfl | hact'
        · exact absurd hvertical nofun
        · exact absurd hvertical nofun
        · rw [hact] at hact'
          cases hact'
          exact ⟨rfl, rfl⟩
    | accepted haction' =>
      rcases haction' with rfl | ⟨rfl, -⟩
      · exact absurd (by decide) haction
      · exact absurd (by decide) haction
    | ended _ => exact absurd (by decide) haction
    | aborted => exact absurd (by decide) haction
    | cleared => exact absurd (by decide) haction
  | accepted haction =>
    rcases haction with rfl | ⟨rfl, hline⟩
    · cases h' with
      | answered haction' _ _ => exact absurd (by decide) haction'
      | accepted _ => exact ⟨rfl, rfl⟩
    · cases h' with
      | answered haction' _ _ => exact absurd (by decide) haction'
      | accepted _ => exact ⟨rfl, rfl⟩
      | ended hempty => exact absurd hempty hline
  | ended hempty =>
    cases h' with
    | answered haction' _ _ => exact absurd (by decide) haction'
    | accepted haction' =>
      rcases haction' with haction' | ⟨-, hline⟩
      · exact absurd haction' nofun
      · exact absurd hempty hline
    | ended _ => exact ⟨rfl, rfl⟩
  | aborted =>
    cases h' with
    | answered haction' _ _ => exact absurd (by decide) haction'
    | accepted haction' =>
      rcases haction' with haction' | ⟨haction', -⟩ <;> exact absurd haction' nofun
    | aborted => exact ⟨rfl, rfl⟩
  | cleared =>
    cases h' with
    | answered haction' _ _ => exact absurd (by decide) haction'
    | accepted haction' =>
      rcases haction' with haction' | ⟨haction', -⟩ <;> exact absurd haction' nofun
    | cleared => exact ⟨rfl, rfl⟩

end Editing

namespace Call

variable {call : Call} {terminal terminal' : Terminal} {s s' : Session} {answer answer' : Answer}

/-- A call with an action that is answered has taken the step of its action. -/
theorem exists_effect_eq {action : Action} {times : Nat}
    (haction : call.action? s.editing.keyboard = some (action, times))
    (hrun : (call.run terminal s).1 = .ok answer) :
    ∃ step e, Editing.Applies (s.editing.received call) times action step e ∧
      call.effect terminal s = (.ok (some step.1), e.remember action step) := by
  obtain ⟨q, hq, hperformed⟩ := call.run_performed haction terminal
  unfold effect
  rw [hq]
  rw [hq] at hrun
  show ∃ step e, _ ∧ (_, (call.run terminal s).2.editing) = _
  generalize (call.run terminal s).2.editing = e' at hperformed
  cases hperformed with
  | done happlies => exact ⟨_, _, happlies, rfl⟩
  | failedBefore _ _ => exact absurd hrun nofun
  | failedAfter _ _ _ => exact absurd hrun nofun

/-- A call whose action needs no screen, and does not end the input, has done that action. -/
theorem effect_of_act {action : Action} {times : Nat} {change : Bool × Editing}
    (haction : call.action? s.editing.keyboard = some (action, times))
    (hvertical : action.isVertical = false)
    (hother : action ∉ [.acceptInput, .endInput, .abortLine, .clearScreen])
    (hact : (s.editing.received call).act times action = .ok change)
    (hrun : (call.run terminal s).1 = .ok answer) :
    call.effect terminal s =
      (.ok (some (outcomeOf change.1)),
        change.2.remember action (outcomeOf change.1, true)) := by
  obtain ⟨step, e, happlies, heffect⟩ := exists_effect_eq haction hrun
  obtain ⟨change', hact', hanswers⟩ :=
    Editing.exists_act_eq (s.editing.received call) times action
  obtain rfl : change = change' := Except.ok.inj (hact.symm.trans hact')
  have hanswered := Editing.Applies.answered hother (.inr (.inr hact)) hanswers
  obtain ⟨hstep, he⟩ := hanswered.unique hvertical happlies
  rw [heffect, hstep, he]

/-- A call without an action that is answered takes in its key or text. -/
theorem exists_effect_eq_of_none {e : Editing} (haction : call.action? e.keyboard = none) :
    ∃ outcome, ∀ {terminal s answer}, s.editing = e → (call.run terminal s).1 = .ok answer →
      call.effect terminal s = (.ok outcome, e.received call) := by
  have hcalled (terminal : Terminal) (s : Session) : Editing.Called s.editing call
      (call.run terminal s).1 (s.after terminal call).editing := call.run_called terminal s
  cases hinput : call.isInput with
  | true =>
    obtain ⟨outcome, -, hrun⟩ := exists_run_eq hinput haction
    refine ⟨some outcome, ?_⟩
    rintro terminal s answer rfl -
    rw [effect, (hcalled terminal s).eq_received haction, hrun terminal s rfl]
    rfl
  | false =>
    refine ⟨none, ?_⟩
    rintro terminal s answer rfl hrun
    have hcalled := hcalled terminal s
    rw [effect, hcalled.eq_received haction, hrun]
    rw [hrun] at hcalled
    cases answer with
    | outcome o => exact absurd (hinput.symm.trans hcalled.isInput) nofun
    | done => rfl
    | rows r => rfl

/-- What an answered call does to what is edited depends on nothing else, unless it moves the cursor up
or down. -/
theorem effect_unique (hediting : s'.editing = s.editing)
    (hvertical : (call.action? s.editing.keyboard).any (fun action => action.1.isVertical) = false)
    (hrun : (call.run terminal s).1 = .ok answer) (hrun' : (call.run terminal' s').1 = .ok answer') :
    call.effect terminal s = call.effect terminal' s' := by
  cases haction : call.action? s.editing.keyboard with
  | some action =>
    obtain ⟨action, times⟩ := action
    rw [haction] at hvertical
    obtain ⟨step, e, happlies, heffect⟩ := exists_effect_eq haction hrun
    rw [← hediting] at haction happlies
    obtain ⟨step', e', happlies', heffect'⟩ := exists_effect_eq haction hrun'
    obtain ⟨hstep, he⟩ := happlies.unique hvertical happlies'
    rw [heffect, heffect', hstep, he]
  | none =>
    obtain ⟨outcome, heffect⟩ := exists_effect_eq_of_none haction
    rw [heffect rfl hrun, heffect hediting hrun']

end Call

/-! ## The result -/

namespace Session

variable {s s' : Session} {calls calls' : List (Terminal × Call)}

/-- Sessions that are alike go on alike while they are answered. -/
theorem Alike.steps_view (hs : s.Alike False True s')
    (hcalls : List.Forall₂ (fun call call' => call'.2 = call.2 ∧ call'.1.width = call.1.width)
      calls calls')
    (hanswered : ∀ step ∈ s.steps calls, step.IsAnswered)
    (hanswered' : ∀ step ∈ s'.steps calls', step.IsAnswered) :
    (s.steps calls).map Step.view = (s'.steps calls').map Step.view := by
  refine map_steps_eq hcalls hs hanswered hanswered' ?_
  rintro ⟨s, terminal, call⟩ ⟨s', terminal', _⟩ hs ⟨rfl, hwidth⟩ ⟨answer, hrun⟩ ⟨answer', hrun'⟩
  obtain ⟨hblank, hafter⟩ := hs.after_of_answered hwidth hrun hrun'
  refine ⟨?_, hafter⟩
  rw [Step.view, Step.view, hrun, hrun']
  show (Except.ok answer.blank, (s.after terminal _).editing,
      (s.after terminal _).rows.map Row.blank) =
    (Except.ok answer'.blank, (s'.after terminal' _).editing,
      (s'.after terminal' _).rows.map Row.blank)
  rw [hblank, hafter.editing_eq, hafter.rows.1]

/-- Sessions that edit the same go on doing so while they are answered and the cursor goes neither up
nor down. -/
theorem steps_effect (hediting : s'.editing = s.editing)
    (hcalls : List.Forall₂ (fun call call' => call'.2 = call.2) calls calls')
    (hanswered : ∀ step ∈ s.steps calls, step.IsAnswered)
    (hanswered' : ∀ step ∈ s'.steps calls', step.IsAnswered)
    (hvertical : ∀ step ∈ s.steps calls, step.isVertical = false) :
    (s.steps calls).map Step.effect = (s'.steps calls').map Step.effect := by
  refine map_steps_eq (R := fun s s' => s'.editing = s.editing)
    (P := fun step => step.IsAnswered ∧ step.isVertical = false) hcalls hediting
    (fun step hmem => ⟨hanswered step hmem, hvertical step hmem⟩) hanswered' ?_
  rintro ⟨s, terminal, call⟩ ⟨s', terminal', _⟩ hediting rfl ⟨⟨answer, hrun⟩, hvertical⟩
    ⟨answer', hrun'⟩
  have heffect := Call.effect_unique hediting hvertical hrun hrun'
  exact ⟨heffect, (congrArg Prod.snd heffect).symm⟩

/-- Two runs of the same calls, all of which are answered.

If the sessions differ in markers and highlighters only, and the terminals tell the same widths, then
every call is answered the same, leaves the same state of editing and the same rows on the screen, but
for the texts of prompts.

If the sessions edit the same, and no call moves the cursor up or down, then every call has the same
outcome and leaves the same state of editing, whatever the prompts and the widths are. -/
theorem editing_ignores_presentation (s s' : Session) (calls calls' : List (Terminal × Call))
    (hanswered : ∀ step ∈ s.steps calls, step.IsAnswered)
    (hanswered' : ∀ step ∈ s'.steps calls', step.IsAnswered) :
    (s.Restyled s' →
        List.Forall₂ (fun call call' => call'.2 = call.2 ∧ call'.1.width = call.1.width)
          calls calls' →
        (s.steps calls).map Step.view = (s'.steps calls').map Step.view) ∧
      (s'.editing = s.editing → List.Forall₂ (fun call call' => call'.2 = call.2) calls calls' →
        (∀ step ∈ s.steps calls, step.isVertical = false) →
        (s.steps calls).map Step.effect = (s'.steps calls').map Step.effect) := by
  constructor
  · intro hstyle hcalls
    exact hstyle.alike.steps_view hcalls hanswered hanswered'
  · intro hediting hcalls hvertical
    exact steps_effect hediting hcalls hanswered hanswered' hvertical

/-- A marked session beside one without markers whose rows are turned about, and beside one with another
prompt on a wider screen. -/
theorem editing_ignores_presentation_turned_about :
    let narrow := Faults.terminal {} 10
    let wide := Faults.terminal {} 60
    let input : Call := .text "one\ntwo three four".toList false
    let calls : List (Terminal × Call) :=
      [(narrow, input), (narrow, .action .cursorUp 1), (narrow, .action .killToLineEnd 1)]
    let level : List (Terminal × Call) :=
      [(narrow, input), (narrow, .action .cursorLeft 4), (narrow, .action .killToLineEnd 1)]
    let level' : List (Terminal × Call) :=
      [(wide, input), (wide, .action .cursorLeft 4), (wide, .action .killToLineEnd 1)]
    let marked := ofConfig {}
    let turned := ofConfig { mark := false, highlighter := some fun text _ _ => text.reverse }
    let other := ofConfig { prompt := "another prompt> ".toList }
    (∀ step ∈ marked.steps calls ++ turned.steps calls ++ marked.steps level ++ other.steps level',
        step.IsAnswered) ∧
      marked.Restyled turned ∧
      (marked.steps calls).map Step.view = (turned.steps calls).map Step.view ∧
      other.editing = marked.editing ∧ (∀ step ∈ marked.steps level, step.isVertical = false) ∧
      (marked.steps level).map Step.effect = (other.steps level').map Step.effect := by
  intro narrow wide input calls level level' marked turned other
  have hnarrow : narrow.Reliable := fun _ _ => rfl
  have hwide : wide.Reliable := fun _ _ => rfl
  have hcalls (s : Session) : ∀ step ∈ s.steps calls, step.IsAnswered :=
    s.steps_isAnswered (by simp [calls, hnarrow])
  have hlevel (s : Session) : ∀ step ∈ s.steps level, step.IsAnswered :=
    s.steps_isAnswered (by simp [level, hnarrow])
  have hlevel' (s : Session) : ∀ step ∈ s.steps level', step.IsAnswered :=
    s.steps_isAnswered (by simp [level', hwide])
  have hstyle : marked.Restyled turned :=
    ⟨rfl, rfl, ⟨_, true, false, rfl, rfl⟩, ⟨_, true, false, rfl, rfl⟩, rfl⟩
  have hvertical : ∀ step ∈ marked.steps level, step.isVertical = false := by
    intro step hmem
    rcases List.mem_cons.1 hmem with rfl | hmem
    · rfl
    · rcases List.mem_cons.1 hmem with rfl | hmem
      · rfl
      · rcases List.mem_singleton.1 hmem with rfl
        rfl
  refine ⟨?_, hstyle, ?_, rfl, hvertical, ?_⟩
  · simp only [List.mem_append, or_imp, forall_and]
    exact ⟨⟨⟨hcalls _, hcalls _⟩, hlevel _⟩, hlevel' _⟩
  · have hviews := (editing_ignores_presentation marked turned calls calls (hcalls _) (hcalls _)).1
    exact hviews hstyle (by simp [calls])
  · have heffects :=
      (editing_ignores_presentation marked other level level' (hlevel _) (hlevel' _)).2
    exact heffects rfl (by simp [level, level']) hvertical

end Session

end LineEditor
