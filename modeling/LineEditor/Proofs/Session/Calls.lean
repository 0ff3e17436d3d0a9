import LineEditor.Proofs.Session.Perform
import Mathlib.Data.List.Forall2

/-!
# Calls and runs

A call first takes in its key or its text, and then does an action if it has one.  All that a call
can do to what is edited is said here, so that an invariant of sessions needs only the cases of
`Editing.Called` and of `Editing.Performed.cases`.

* What an action comes to.  `Performed.cases` has three cases: the action was turned down, the
  input was given up, or the action was done and is remembered.
* Calls.  `Call.action?` is the action of a call, `Editing.received` what is edited once the call
  has taken in its key or text, and `Editing.Called` says how a call ends; `Call.run_called` says
  that calls end so.
* Runs.  `Session.afterAll_induction` carries an invariant along a run, and `Session.steps` lists
  the calls of a run, each with the session before it; `Session.map_steps_eq` compares two runs.
-/

namespace LineEditor

open SessionM

/-- The outcomes that an action can have while it leaves what is edited alone. -/
def Action.idleOutcomes : Action → List Outcome
  | .acceptInput => [.accepted]
  | .endInput => [.accepted, .endOfStream]
  | .clearScreen => [.handled]
  | _ => [.couldNotPerform]

namespace Editing

/-! ## What an action comes to -/

/-- A step turns the action down, gives up the input, or does the action. -/
theorem Applies.cases {e e' : Editing} {times : Nat} {action : Action} {answer : Outcome × Bool}
    (h : Applies e times action answer e') :
    (answer.1 ∈ action.idleOutcomes ∧ e.act times action = .ok (false, e.refused action) ∧
        e'.remember action answer = e.refused action) ∨
      (answer.1 = .handled ∧ action = .abortLine ∧ e'.remember action answer = e.reset) ∨
      ∃ e₁, answer.1 = .handled ∧ Does e times action e₁ ∧
        e'.remember action answer = e₁.record action := by
  cases h with
  | @answered _ answer haction hact hanswer =>
    obtain ⟨done, e₁⟩ := answer
    rcases hanswer with ⟨rfl, rfl⟩ | ⟨rfl, hdoes⟩
    · refine .inl ⟨?_, ?_, rfl⟩
      · show Outcome.couldNotPerform ∈ action.idleOutcomes
        cases action <;> first | exact List.mem_cons_self | exact absurd haction (by decide)
      · rcases hact with rfl | rfl | hact
        · rfl
        · rfl
        · exact hact
    · exact .inr (.inr ⟨e₁, rfl, hdoes, rfl⟩)
  | accepted haction =>
    rcases haction with rfl | ⟨rfl, -⟩
    · exact .inl ⟨List.mem_cons_self, rfl, rfl⟩
    · exact .inl ⟨List.mem_cons_self, rfl, rfl⟩
  | ended _ => exact .inl ⟨List.mem_cons_of_mem _ List.mem_cons_self, rfl, rfl⟩
  | aborted => exact .inr (.inl ⟨rfl, rfl, rfl⟩)
  | cleared => exact .inl ⟨List.mem_cons_self, rfl, rfl⟩

/-- An action is turned down, or the input is given up, or the action is done and remembered.  The
answer says so, unless the terminal fails; an action that is turned down is answered at once if it
needs no screen and the terminal is not asked for more. -/
theorem Performed.cases {e e' : Editing} {times : Nat} {action : Action} {more : List Outcome}
    {r : Except SessionError Outcome} (h : Performed e times action more r e') :
    ((∃ outcome ∈ action.idleOutcomes, Gives outcome r ∧
          (action.usesScreen = false → outcome ∉ more → r = .ok outcome)) ∧
        e.act times action = .ok (false, e.refused action) ∧ e' = e.refused action) ∨
      (Gives .handled r ∧ action = .abortLine ∧ e' = e.reset) ∨
      ∃ e₁, Gives .handled r ∧ Does e times action e₁ ∧ e' = e₁.record action := by
  cases h with
  | done happlies =>
    rcases happlies.cases with ⟨houtcome, hact, heq⟩ | ⟨houtcome, haction, heq⟩ |
      ⟨e₁, houtcome, hdoes, heq⟩
    · exact .inl ⟨⟨_, houtcome, .inl rfl, fun _ _ => rfl⟩, hact, heq⟩
    · exact .inr (.inl ⟨.inl (congrArg Except.ok houtcome), haction, heq⟩)
    · exact .inr (.inr ⟨e₁, .inl (congrArg Except.ok houtcome), hdoes, heq⟩)
  | failedBefore haction error =>
    have hrefused : e.refused action = e := if_neg (by rintro rfl; exact absurd haction nofun)
    refine .inl ⟨?_, ?_, hrefused.symm⟩
    · cases action <;> exact ⟨_, List.mem_cons_self, .inr ⟨error, rfl⟩,
        fun hnot => absurd (haction.symm.trans hnot) nofun⟩
    · rw [hrefused]
      cases action <;> first | rfl | exact absurd haction nofun
  | failedAfter happlies hmore error =>
    rcases happlies.cases with ⟨houtcome, hact, heq⟩ | ⟨-, haction, heq⟩ | ⟨e₁, -, hdoes, heq⟩
    · exact .inl ⟨⟨_, houtcome, .inr ⟨error, rfl⟩, fun _ hnot => absurd hmore hnot⟩, hact, heq⟩
    · exact .inr (.inl ⟨.inr ⟨error, rfl⟩, haction, heq⟩)
    · exact .inr (.inr ⟨e₁, .inr ⟨error, rfl⟩, hdoes, heq⟩)

end Editing

/-! ## Calls -/

namespace Call

/-- Whether the call is a key, a text or an action. -/
def isInput : Call → Bool
  | .key _ | .text _ _ | .action _ _ => true
  | _ => false

/-- The action that a call does, and how often, if it does one. -/
def action? (keyboard : Keyboard) : Call → Option (Action × Nat)
  | .key k =>
    match (keyboard.resolve k).1 with
    | .action a times => some (a, times)
    | .text _ times => some (.addText, times)
    | .pending | .unbound | .ignored => none
  | .text _ withinPaste => if withinPaste then none else some (.addText, 1)
  | .action a times => some (a, times)
  | _ => none

/-- How a call does its action: for a key it rings the bell if there is nothing to do. -/
def perform : Call → Action → Nat → SessionM Outcome
  | .key _ => SessionM.performOrBeep
  | _ => SessionM.perform

end Call

namespace Editing

/-- What is edited when a call has taken in its key or text and has not yet done its action. -/
def received (e : Editing) : Call → Editing
  | .key k =>
    { e with
      keyboard := (e.keyboard.resolve k).2
      staged := match (e.keyboard.resolve k).1 with
        | .text text _ => text
        | _ => e.staged }
  | .text text withinPaste =>
    { e with
      pasted := if withinPaste then e.pasted ++ text else []
      staged := if withinPaste then e.staged else e.pasted ++ text }
  | .setText text => { e with buffer := .ofText text }
  | .reset => e.reset
  | _ => e

/-- The two states are the same but for what is being typed or pasted. -/
structure Agrees (e e' : Editing) : Prop where
  buffer : e'.buffer = e.buffer
  ring : e'.ring = e.ring
  yankExtent : e'.yankExtent = e.yankExtent
  lastAction : e'.lastAction = e.lastAction
  chain : e'.chain = e.chain

theorem Agrees.refl (e : Editing) : e.Agrees e :=
  ⟨rfl, rfl, rfl, rfl, rfl⟩

theorem Agrees.trans {e e' e'' : Editing} (h : e.Agrees e') (h' : e'.Agrees e'') : e.Agrees e'' :=
  ⟨h'.buffer.trans h.buffer, h'.ring.trans h.ring, h'.yankExtent.trans h.yankExtent,
    h'.lastAction.trans h.lastAction, h'.chain.trans h.chain⟩

theorem refused_agrees (e : Editing) (action : Action) : e.Agrees (e.refused action) := by
  unfold refused
  split <;> exact ⟨rfl, rfl, rfl, rfl, rfl⟩

/-- A call that neither replaces nor gives up the input takes in something typed or pasted at
most. -/
theorem received_agrees (e : Editing) {call : Call} (hset : ∀ text, call ≠ .setText text)
    (hreset : call ≠ .reset) : e.Agrees (e.received call) := by
  cases call with
  | setText text => exact absurd rfl (hset text)
  | reset => exact absurd rfl hreset
  | _ => exact ⟨rfl, rfl, rfl, rfl, rfl⟩

/-- Only a key or text that is to be inserted is staged. -/
theorem received_staged {e : Editing} {call : Call}
    (h : ∀ times, call.action? e.keyboard ≠ some (.addText, times)) :
    (e.received call).staged = e.staged := by
  cases call with
  | key k =>
    rw [Call.action?] at h
    rw [received]
    cases hmeaning : e.keyboard.resolve k with
    | mk meaning keyboard =>
      rw [hmeaning] at h
      cases meaning with
      | text text times => exact absurd rfl (h times)
      | _ => rfl
  | text text withinPaste =>
    cases withinPaste with
    | true => rfl
    | false => exact absurd rfl (h 1)
  | _ => rfl

/-- How a call ends, and what is edited after it. -/
inductive Called (e : Editing) (call : Call) : Except SessionError Answer → Editing → Prop
  /-- The call has no action. -/
  | received {r : Except SessionError Answer} (haction : call.action? e.keyboard = none)
      (hinput : ∀ outcome, r = .ok (.outcome outcome) → call.isInput = true)
      (hmisuse : NoMisuse r) : Called e call r (e.received call)
  /-- There was nothing to do to what is edited, or the terminal failed before it was done. -/
  | refused {action : Action} {times : Nat} {r : Except SessionError Answer}
      (haction : call.action? e.keyboard = some (action, times))
      (hact : (e.received call).act times action =
        .ok (false, (e.received call).refused action))
      (hr : ∃ outcome ∈ action.idleOutcomes, Gives (.outcome outcome) r) :
      Called e call r ((e.received call).refused action)
  /-- The input was given up. -/
  | aborted {times : Nat} {r : Except SessionError Answer}
      (haction : call.action? e.keyboard = some (.abortLine, times))
      (hr : Gives (.outcome .handled) r) : Called e call r (e.received call).reset
  /-- The action was done, and is remembered. -/
  | done {action : Action} {times : Nat} {r : Except SessionError Answer} {e' : Editing}
      (haction : call.action? e.keyboard = some (action, times))
      (hdoes : Does (e.received call) times action e') (hr : Gives (.outcome .handled) r) :
      Called e call r (e'.record action)

theorem received_agrees_of_action? {e : Editing} {call : Call} {action : Action × Nat}
    (h : call.action? e.keyboard = some action) : e.Agrees (e.received call) := by
  refine e.received_agrees ?_ ?_
  · rintro text rfl
    exact absurd h nofun
  · rintro rfl
    exact absurd h nofun

/-- Only keys, texts and actions are answered with an outcome. -/
theorem Called.isInput {e e' : Editing} {call : Call} {outcome : Outcome}
    (h : Called e call (.ok (.outcome outcome)) e') : call.isInput = true := by
  have hinput : ∀ {action}, call.action? e.keyboard = some action → call.isInput = true := by
    intro action haction
    cases call <;> first | rfl | exact absurd haction nofun
  cases h with
  | received _ hr _ => exact hr outcome rfl
  | refused haction _ _ => exact hinput haction
  | aborted haction _ => exact hinput haction
  | done haction _ _ => exact hinput haction

/-- A call without an action only takes in its key or text. -/
theorem Called.eq_received {e e' : Editing} {call : Call} {r : Except SessionError Answer}
    (h : Called e call r e') (haction : call.action? e.keyboard = none) : e' = e.received call := by
  cases h with
  | received _ _ _ => rfl
  | refused hsome _ _ => exact absurd (haction.symm.trans hsome) nofun
  | aborted hsome _ => exact absurd (haction.symm.trans hsome) nofun
  | done hsome _ _ => exact absurd (haction.symm.trans hsome) nofun

/-- A call with an action, other than to give up the input, turns the action down or does it. -/
theorem Called.refused_or_done {e e' : Editing} {call : Call} {action : Action} {times : Nat}
    {r : Except SessionError Answer} (h : Called e call r e')
    (haction : call.action? e.keyboard = some (action, times)) (hother : action ≠ .abortLine) :
    ((e.received call).act times action = .ok (false, (e.received call).refused action) ∧
        (∃ outcome ∈ action.idleOutcomes, Gives (.outcome outcome) r) ∧ e.Agrees e') ∨
      ∃ e₁, Does (e.received call) times action e₁ ∧ Gives (.outcome .handled) r ∧
        e' = e₁.record action := by
  cases h with
  | received hnone _ _ => exact absurd (hnone.symm.trans haction) nofun
  | refused haction' hact hr =>
    cases haction'.symm.trans haction
    exact .inl ⟨hact, hr, (received_agrees_of_action? haction).trans (refused_agrees _ _)⟩
  | aborted haction' _ =>
    cases haction'.symm.trans haction
    exact absurd rfl hother
  | done haction' hdoes hr =>
    cases haction'.symm.trans haction
    exact .inr ⟨_, hdoes, hr, rfl⟩

/-- A call that is to insert the staged text does so, unless that is too much. -/
theorem Called.eq_inserted {e e' : Editing} {call : Call} {times : Nat}
    {r : Except SessionError Answer} (h : Called e call r e')
    (haction : call.action? e.keyboard = some (.addText, times))
    (hsize : (e.received call).staged.size * times ≤ maxInsertSize) :
    Gives (.outcome .handled) r ∧
      e' = Editing.record { e.received call with
        buffer := (e.received call).buffer.insert ((e.received call).staged.times times)
        staged := [] } .addText := by
  rcases h.refused_or_done haction (by decide) with ⟨hact, -, -⟩ | ⟨e₁, hdoes, hgives, heq⟩
  · -- only too much is turned down
    rw [act, insertStaged, if_pos hsize] at hact
    cases congrArg Prod.fst (Except.ok.inj hact)
  · refine ⟨hgives, heq.trans ?_⟩
    cases hdoes with
    | moved hmem _ _ => exact absurd hmem (by decide)
    | erased hmem _ _ => exact absurd hmem (by decide)
    | killed hkill _ _ => exact absurd hkill (by decide)
    | inserted _ => rfl

end Editing

open Editing

/-- The session when a call has taken in its key or text. -/
def Session.receive (s : Session) (call : Call) : Session :=
  { s with editing := s.editing.received call }

theorem SessionM.onKey_apply (k : Key) (terminal : Terminal) (s : Session) :
    onKey k terminal s = match (s.editing.keyboard.resolve k).1 with
      | .action action times => performOrBeep action times terminal (s.receive (.key k))
      | .text _ times => performOrBeep .addText times terminal (s.receive (.key k))
      | .pending | .ignored => (.ok .handled, s.receive (.key k))
      | .unbound => (.ok .unhandled, s.receive (.key k)) := by
  unfold onKey Session.receive received
  rw [bind_apply, get_apply]
  dsimp only
  rcases s.editing.keyboard.resolve k with ⟨meaning, keyboard⟩
  cases meaning <;> rfl

section

variable {α : Type} {terminal : Terminal} {s : Session} {call : Call}

/-- A call that only shows the input does no action. -/
theorem SessionM.OnlyShows.called {x : SessionM α} (hx : OnlyShows x) {answer : α → Answer}
    (haction : call.action? s.editing.keyboard = none)
    (hreceived : s.editing.received call = s.editing)
    (hanswer : ∀ a outcome, answer a ≠ .outcome outcome) :
    Ends (x >>= fun a => pure (answer a)) terminal s
      fun r s' => Called s.editing call r s'.editing := by
  refine hx.bind_ends (fun a s' hs => ?_) (fun error s' hs => ?_)
  · refine .of_eq rfl ?_
    rw [hs.editing.trans hreceived.symm]
    exact .received haction (fun outcome hr => absurd (Except.ok.inj hr) (hanswer a outcome))
      (.of_ok _)
  · rw [hs.editing.trans hreceived.symm]
    exact .received haction nofun fun _ he => ⟨error, (Except.error.inj he).symm⟩

/-- A key or a text is taken in first, and then its action is done. -/
theorem Call.run_of_action? {action : Action} {times : Nat}
    (haction : call.action? s.editing.keyboard = some (action, times)) :
    call.run terminal s = (.outcome <$> call.perform action times) terminal (s.receive call) := by
  cases call with
  | key k =>
    rw [Call.run, SessionM.map_apply, SessionM.map_apply, SessionM.onKey_apply]
    rw [Call.action?] at haction
    cases hmeaning : (s.editing.keyboard.resolve k).1 with
    | action action' times' =>
      rw [hmeaning] at haction
      cases haction
      rfl
    | text text times' =>
      rw [hmeaning] at haction
      cases haction
      rfl
    | pending => exact absurd haction (by simp [hmeaning])
    | ignored => exact absurd haction (by simp [hmeaning])
    | unbound => exact absurd haction (by simp [hmeaning])
  | text text withinPaste =>
    cases withinPaste with
    | true => exact absurd haction nofun
    | false =>
      cases haction
      rfl
  | action action' times' =>
    cases haction
    rfl
  | _ => exact absurd haction nofun

/-- A key or a text without an action is only taken in, and what it is answered depends on the
keyboard only. -/
theorem Call.exists_run_eq {keyboard : Keyboard} (hinput : call.isInput = true)
    (haction : call.action? keyboard = none) :
    ∃ outcome ∈ [Outcome.handled, .unhandled], ∀ terminal (s : Session),
      s.editing.keyboard = keyboard →
        call.run terminal s = (.ok (.outcome outcome), s.receive call) := by
  have hkey : ∀ {k : Key} {outcome : Outcome} {s : Session} {terminal : Terminal},
      SessionM.onKey k terminal s = (.ok outcome, s.receive (.key k)) →
        (Call.key k).run terminal s = (.ok (.outcome outcome), s.receive (.key k)) := by
    intro k outcome s terminal hrun
    rw [Call.run, SessionM.map_apply, hrun]
    rfl
  cases call with
  | key k =>
    rw [Call.action?] at haction
    cases hmeaning : (keyboard.resolve k).1 with
    | action action' times' => exact absurd haction (by simp [hmeaning])
    | text text times' => exact absurd haction (by simp [hmeaning])
    | pending =>
      refine ⟨.handled, by decide, fun terminal s hkeyboard => hkey ?_⟩
      rw [SessionM.onKey_apply, hkeyboard, hmeaning]
    | ignored =>
      refine ⟨.handled, by decide, fun terminal s hkeyboard => hkey ?_⟩
      rw [SessionM.onKey_apply, hkeyboard, hmeaning]
    | unbound =>
      refine ⟨.unhandled, by decide, fun terminal s hkeyboard => hkey ?_⟩
      rw [SessionM.onKey_apply, hkeyboard, hmeaning]
  | text text withinPaste =>
    cases withinPaste with
    | true => exact ⟨.handled, by decide, fun _ _ _ => rfl⟩
    | false => exact absurd haction nofun
  | action action' times' => exact absurd haction nofun
  | _ => exact absurd hinput nofun

/-- A key or a text without an action is only taken in. -/
theorem Call.run_of_none (hinput : call.isInput = true)
    (haction : call.action? s.editing.keyboard = none) :
    ∃ outcome ∈ [Outcome.handled, .unhandled],
      call.run terminal s = (.ok (.outcome outcome), s.receive call) := by
  obtain ⟨outcome, hmem, hrun⟩ := exists_run_eq hinput haction
  exact ⟨outcome, hmem, hrun terminal s rfl⟩

theorem Call.perform_ends (call : Call) (action : Action) (times : Nat) (terminal : Terminal)
    (s : Session) :
    Ends (call.perform action times) terminal s fun r s' => s.SameLook s' ∧
      Performed s.editing times action [.handled, .couldNotPerform] r s'.editing := by
  have hperform : Ends (SessionM.perform action times) terminal s fun r s' => s.SameLook s' ∧
      Performed s.editing times action [.handled, .couldNotPerform] r s'.editing :=
    (SessionM.perform_ends action times terminal s).mono fun _ _ hs => ⟨hs.1, hs.2.mono (by simp)⟩
  cases call with
  | key k => exact SessionM.performOrBeep_ends action times terminal s
  | _ => exact hperform

/-- A call with an action ends as the action does. -/
theorem Call.run_called_of_action? {action : Action} {times : Nat}
    (haction : call.action? s.editing.keyboard = some (action, times)) :
    Ends call.run terminal s fun r s' => Called s.editing call r s'.editing := by
  refine Ends.of_apply_eq (Call.run_of_action? haction) ?_
  refine (call.perform_ends action times terminal (s.receive call)).map fun r s' hs => ?_
  rcases hs.2.cases with ⟨⟨outcome, hmem, hr, -⟩, hact, heq⟩ | ⟨hr, rfl, heq⟩ |
    ⟨e₁, hr, hdoes, heq⟩
  · rw [heq]
    exact .refused haction hact ⟨outcome, hmem, hr.map _⟩
  · rw [heq]
    exact .aborted haction (hr.map _)
  · rw [heq]
    exact .done haction hdoes (hr.map _)

/-- A call takes in its key or text and does its action. -/
theorem Call.run_called (call : Call) (terminal : Terminal) (s : Session) :
    Ends call.run terminal s fun r s' => Called s.editing call r s'.editing := by
  cases hinput : call.isInput with
  | true =>
    cases haction : call.action? s.editing.keyboard with
    | some action => exact Call.run_called_of_action? haction
    | none =>
      obtain ⟨outcome, -, hrun⟩ := Call.run_of_none hinput haction
      exact .of_eq hrun (.received haction (fun _ _ => hinput) (.of_ok _))
  | false =>
    cases call with
    | key k => exact absurd hinput nofun
    | text text withinPaste => exact absurd hinput nofun
    | action action times => exact absurd hinput nofun
    | setText text => exact .of_eq rfl (Called.received rfl nofun (.of_ok _))
    | setPrompt text => exact .of_eq rfl (Called.received rfl nofun (.of_ok _))
    | reset => exact .of_eq rfl (Called.received rfl nofun (.of_ok _))
    | start => exact onlyShows_start.called rfl rfl nofun
    | finish => exact onlyShows_finish.called rfl rfl nofun
    | redraw => exact onlyShows_redraw.called rfl rfl nofun
    | resize => exact onlyShows_resize.called rfl rfl nofun
    | screen =>
      rw [Call.run, ← bind_pure_comp]
      exact onlyShows_screen.called rfl rfl nofun

end

/-! ## Runs -/

namespace Session

theorem afterAll_append (s : Session) (calls later : List (Terminal × Call)) :
    s.afterAll (calls ++ later) = (s.afterAll calls).afterAll later :=
  List.foldl_append

/-- What every call of a run keeps, the run keeps. -/
theorem afterAll_induction {P : Session → Prop} {s : Session} (h : P s)
    (calls : List (Terminal × Call))
    (hstep : ∀ s terminal call, (terminal, call) ∈ calls → P s → P (s.after terminal call)) :
    P (s.afterAll calls) := by
  induction calls generalizing s with
  | nil => exact h
  | cons call calls ih =>
    exact ih (hstep s call.1 call.2 List.mem_cons_self h) fun s terminal call hmem =>
      hstep s terminal call (List.mem_cons_of_mem _ hmem)

/-- A call in a run, with the session before it. -/
structure Step where
  before : Session
  terminal : Terminal
  call : Call

/-- The session after the call. -/
def Step.after (step : Step) : Session := step.before.after step.terminal step.call

/-- What the call gave. -/
def Step.result (step : Step) : Except SessionError Answer :=
  (step.call.run step.terminal step.before).1

/-- The action of the call, and how often it is to be done. -/
def Step.action? (step : Step) : Option (Action × Nat) :=
  step.call.action? step.before.editing.keyboard

/-- The calls of a run. -/
def steps (s : Session) : List (Terminal × Call) → List Step
  | [] => []
  | (terminal, call) :: rest =>
    { before := s, terminal, call } :: (s.after terminal call).steps rest

theorem steps_append (s : Session) (calls later : List (Terminal × Call)) :
    s.steps (calls ++ later) = s.steps calls ++ (s.afterAll calls).steps later := by
  induction calls generalizing s with
  | nil => rfl
  | cons call calls ih =>
    rw [List.cons_append, steps, steps, ih, List.cons_append]
    rfl

/-- What every call does while the run keeps `P` is so for all of its calls. -/
theorem forall_mem_steps {P : Session → Prop} {Q : Step → Prop} {s : Session} (h : P s)
    (calls : List (Terminal × Call))
    (hstep : ∀ s terminal call, (terminal, call) ∈ calls → P s →
      P (s.after terminal call) ∧ Q { before := s, terminal, call }) :
    ∀ step ∈ s.steps calls, Q step := by
  induction calls generalizing s with
  | nil => exact fun _ hstep => absurd hstep List.not_mem_nil
  | cons call calls ih =>
    intro step hmem
    obtain ⟨hafter, hfirst⟩ := hstep s call.1 call.2 List.mem_cons_self h
    rcases List.mem_cons.1 hmem with rfl | hmem
    · exact hfirst
    · refine ih hafter (fun s terminal call hcall => ?_) step hmem
      exact hstep s terminal call (List.mem_cons_of_mem _ hcall)

/-- Two runs of which every two calls, taken together, do the same in `f` and keep `R`, do the same
all along. -/
theorem map_steps_eq {γ : Type} {R : Session → Session → Prop}
    {Q : Terminal × Call → Terminal × Call → Prop} {P P' : Step → Prop} {f : Step → γ}
    {s s' : Session} {calls calls' : List (Terminal × Call)} (hcalls : List.Forall₂ Q calls calls')
    (h : R s s') (hP : ∀ step ∈ s.steps calls, P step) (hP' : ∀ step ∈ s'.steps calls', P' step)
    (hstep : ∀ step step' : Step, R step.before step'.before →
      Q (step.terminal, step.call) (step'.terminal, step'.call) → P step → P' step' →
        f step = f step' ∧ R step.after step'.after) :
    (s.steps calls).map f = (s'.steps calls').map f := by
  induction hcalls generalizing s s' with
  | nil => rfl
  | @cons call call' calls calls' hcall _ ih =>
    rw [steps, List.forall_mem_cons] at hP hP'
    obtain ⟨hsame, hafter⟩ := hstep _ _ h hcall hP.1 hP'.1
    rw [steps, steps, List.map_cons, List.map_cons, hsame]
    exact congrArg (List.cons _) (ih hafter hP.2 hP'.2)

theorem Step.called (step : Step) :
    Editing.Called step.before.editing step.call step.result step.after.editing :=
  step.call.run_called step.terminal step.before

end Session

end LineEditor
