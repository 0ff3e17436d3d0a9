import LineEditor.Proofs.Editing
import LineEditor.Proofs.Layout.Vertical
import LineEditor.Proofs.Session.Program

/-!
# Actions in a session

An action changes what is edited in one step, and the terminal can fail only before that step, when
the action asks for the rows on the screen, or after it, when the result is drawn.  So a failing
action has either done nothing or all of its work.

* `Editing.Applies` is that step, for all actions: those of `Editing.Does`, and those that end the
  input or talk to the terminal.
* `Editing.Performed` says how an action ends, with all it has done to what is edited; `perform_ends`
  and `performOrBeep_ends` say that actions end so.
-/

namespace LineEditor

/-- Whether the action moves the cursor up or down. -/
def Action.isVertical : Action → Bool
  | .cursorUp | .cursorDown => true
  | _ => false

/-- Whether an action asks for the rows on the screen before it does anything. -/
def Action.usesScreen : Action → Bool
  | .cursorUp | .cursorDown | .abortLine | .clearScreen => true
  | _ => false

namespace Editing

/-! ## Steps -/

/-- The answer to an action, with whether it is to be remembered, and the state after it. -/
inductive Applies (e : Editing) (times : Nat) : Action → Outcome × Bool → Editing → Prop
  | answered {action : Action} {answer : Bool × Editing}
      (haction : action ∉ [.acceptInput, .endInput, .abortLine, .clearScreen])
      (hact : action = .cursorUp ∨ action = .cursorDown ∨ e.act times action = .ok answer)
      (hanswer : Answers e times action answer) :
      Applies e times action (SessionM.outcomeOf answer.1, true) answer.2
  | accepted {action : Action}
      (haction : action = .acceptInput ∨ action = .endInput ∧ e.buffer.currentLine ≠ []) :
      Applies e times action (.accepted, false) e
  | ended (hline : e.buffer.currentLine = []) : Applies e times .endInput (.endOfStream, false) e
  | aborted : Applies e times .abortLine (.handled, false) e.reset
  | cleared : Applies e times .clearScreen (.handled, false) e

/-- How a step ends, and the state after it. -/
inductive Applied (e : Editing) (times : Nat) (action : Action) :
    Except SessionError (Outcome × Bool) → Editing → Prop
  | done {answer : Outcome × Bool} {e' : Editing} (happlies : Applies e times action answer e') :
      Applied e times action (.ok answer) e'
  /-- The terminal failed before anything was done. -/
  | failed (haction : action.usesScreen = true) (error : TerminalError) :
      Applied e times action (.error (.terminal error)) e

/-- The state after an action with this answer, the action being remembered if it is to be. -/
def remember (e : Editing) (action : Action) (answer : Outcome × Bool) : Editing :=
  if answer = (.handled, true) then e.record action else e

/-- An action is remembered only if it was handled. -/
theorem remember_of_ne {e : Editing} {action : Action} {answer : Outcome × Bool}
    (h : answer.1 ≠ .handled) : e.remember action answer = e :=
  if_neg fun hanswer => h (congrArg Prod.fst hanswer)

/-- How an action ends, and the state after it.  The terminal is asked for something more after
the outcomes `more`. -/
inductive Performed (e : Editing) (times : Nat) (action : Action) (more : List Outcome) :
    Except SessionError Outcome → Editing → Prop
  | done {answer : Outcome × Bool} {e' : Editing} (happlies : Applies e times action answer e') :
      Performed e times action more (.ok answer.1) (e'.remember action answer)
  /-- The terminal failed before anything was done. -/
  | failedBefore (haction : action.usesScreen = true) (error : TerminalError) :
      Performed e times action more (.error (.terminal error)) e
  /-- The terminal failed after everything was done, when the result was drawn or the bell rung. -/
  | failedAfter {answer : Outcome × Bool} {e' : Editing}
      (happlies : Applies e times action answer e') (houtcome : answer.1 ∈ more)
      (error : TerminalError) :
      Performed e times action more (.error (.terminal error)) (e'.remember action answer)

/-- An action that ends like this also ends like this if the terminal is asked for more. -/
theorem Performed.mono {e e' : Editing} {times : Nat} {action : Action} {more more' : List Outcome}
    {r : Except SessionError Outcome} (h : Performed e times action more r e')
    (hmore : more ⊆ more') : Performed e times action more' r e' := by
  cases h with
  | done happlies => exact .done happlies
  | failedBefore haction error => exact .failedBefore haction error
  | failedAfter happlies houtcome error => exact .failedAfter happlies (hmore houtcome) error

end Editing

namespace SessionM

open Editing

/-- Moving up or down puts the cursor at a position of the text, or nowhere. -/
theorem moveVertically_ends {action : Action} (haction : action = .cursorUp ∨ action = .cursorDown)
    (amount : Int) (times : Nat) (terminal : Terminal) (s : Session) :
    Ends (moveVertically amount) terminal s fun r s' => s.SameLook s' ∧
      ((∃ done, r = .ok done ∧ Answers s.editing times action (done, s'.editing)) ∨
        ∃ error, r = .error (.terminal error) ∧ s'.editing = s.editing) := by
  have hother : action ≠ .addText := by
    rcases haction with rfl | rfl <;> decide
  refine (screen_ends terminal s).bind (fun rows s' hs => ?_) (fun e s' hs => ?_)
  · obtain ⟨hsame, -, hrows⟩ := hs
    obtain rfl := hrows rows rfl
    cases htarget : verticalTarget s'.rows amount with
    | none =>
      refine .of_eq rfl ⟨hsame.toSameLook, .inl ⟨false, rfl, ?_⟩⟩
      rw [hsame.editing]
      exact answers_false hother
    | some p =>
      have hvalid : s'.editing.buffer.isValid p = true :=
        (Buffer.isValid_iff _ p).2 (verticalTarget_inLines htarget)
      obtain ⟨b, hplace, htext, -⟩ := Buffer.exists_place_eq hvalid
      have hchange : (do
          let buffer ← s'.editing.buffer.place p
          pure (true, { s'.editing with buffer }) : Except Misuse (Bool × Editing)) =
            .ok (true, { s'.editing with buffer := b }) := by
        rw [hplace]
        rfl
      refine .of_eq (edit_apply hchange) ⟨⟨hsame.prompts, hsame.mark, hsame.highlighter⟩,
        .inl ⟨true, rfl, .inr ⟨rfl, ?_⟩⟩⟩
      rw [hsame.editing] at htext ⊢
      refine .moved ?_ htext fun hside => ?_
      · rcases haction with rfl | rfl <;> decide
      · rcases haction with rfl | rfl <;> exact absurd hside (by decide)
  · obtain ⟨error, rfl⟩ := hs.2.1 e rfl
    exact ⟨hs.1.toSameLook, .inr ⟨error, rfl, hs.1.editing⟩⟩

/-- The step of an action that needs no screen changes what is edited, and nothing else. -/
theorem edit_act_apply {action : Action} {times : Nat} {answer : Bool × Editing} {s : Session}
    (hact : s.editing.act times action = .ok answer) (terminal : Terminal) :
    (do
      let done ← edit fun e => e.act times action
      pure (outcomeOf done, true) : SessionM (Outcome × Bool)) terminal s =
        (.ok (outcomeOf answer.1, true), { s with editing := answer.2 }) := by
  rw [bind_apply, edit_apply hact]
  rfl

/-- An action that needs no screen takes its step at once. -/
theorem edit_act_ends {action : Action}
    (haction : action ∉ [.acceptInput, .endInput, .abortLine, .clearScreen]) (times : Nat)
    (terminal : Terminal) (s : Session) :
    Ends (do
        let done ← edit fun e => e.act times action
        pure (outcomeOf done, true)) terminal s
      fun r s' => s.SameLook s' ∧ Applied s.editing times action r s'.editing := by
  obtain ⟨answer, hact, hanswer⟩ := exists_act_eq s.editing times action
  exact .of_eq (edit_act_apply hact terminal)
    ⟨⟨rfl, rfl, rfl⟩, .done (.answered haction (.inr (.inr hact)) hanswer)⟩

/-- An action that needs no screen and does not end the input is its step. -/
theorem apply_act {action : Action} {times : Nat} {answer : Bool × Editing} {s : Session}
    (hscreen : action.usesScreen = false) (hends : action ∉ [.acceptInput, .endInput])
    (hact : s.editing.act times action = .ok answer) (terminal : Terminal) :
    apply action times terminal s =
      (.ok (outcomeOf answer.1, true), { s with editing := answer.2 }) := by
  cases action with
  | acceptInput => exact absurd (by decide) hends
  | endInput => exact absurd (by decide) hends
  | cursorUp => exact absurd hscreen nofun
  | cursorDown => exact absurd hscreen nofun
  | abortLine => exact absurd hscreen nofun
  | clearScreen => exact absurd hscreen nofun
  | _ => exact edit_act_apply hact terminal

/-- A motion up or down takes its step, or the terminal fails before it. -/
theorem moveVertically_applied {action : Action}
    (haction : action = .cursorUp ∨ action = .cursorDown) (amount : Int) (times : Nat)
    (terminal : Terminal) (s : Session) :
    Ends (do
        let moved ← moveVertically amount
        pure (outcomeOf moved, true)) terminal s
      fun r s' => s.SameLook s' ∧ Applied s.editing times action r s'.editing := by
  refine (moveVertically_ends haction amount times terminal s).bind (fun moved s' hs => ?_)
    (fun e s' hs => ?_)
  · obtain ⟨hsame, ⟨done, hdone, hanswer⟩ | ⟨error, herror, -⟩⟩ := hs
    · cases hdone
      refine .of_eq rfl ⟨hsame, .done (.answered ?_ ?_ hanswer)⟩
      · rcases haction with rfl | rfl <;> decide
      · exact haction.imp_right .inl
    · exact absurd herror nofun
  · obtain ⟨hsame, ⟨done, hdone, -⟩ | ⟨error, herror, hediting⟩⟩ := hs
    · exact absurd hdone nofun
    · cases herror
      rw [hediting]
      refine ⟨hsame, .failed ?_ error⟩
      rcases haction with rfl | rfl <;> rfl

/-- An action takes its step, or the terminal fails before it. -/
theorem apply_ends (action : Action) (times : Nat) (terminal : Terminal) (s : Session) :
    Ends (apply action times) terminal s
      fun r s' => s.SameLook s' ∧ Applied s.editing times action r s'.editing := by
  cases action with
  | cursorUp => exact moveVertically_applied (.inl rfl) _ times terminal s
  | cursorDown => exact moveVertically_applied (.inr rfl) _ times terminal s
  | acceptInput => exact .of_eq rfl ⟨⟨rfl, rfl, rfl⟩, .done (.accepted (.inl rfl))⟩
  | endInput =>
    refine Ends.get_bind ?_
    refine .ite (fun hline => ?_) (fun hline => ?_)
    · exact .of_eq rfl ⟨⟨rfl, rfl, rfl⟩, .done (.ended (List.isEmpty_iff.1 hline))⟩
    · exact .of_eq rfl ⟨⟨rfl, rfl, rfl⟩, .done (.accepted (.inr ⟨rfl, by simpa using hline⟩))⟩
  | abortLine =>
    have hfailed : ∀ error s', s.SameInput s' → s.SameLook s' ∧
        Applied s.editing times .abortLine (.error (.terminal error)) s'.editing := by
      intro error s' hs
      rw [hs.editing]
      exact ⟨hs.toSameLook, .failed rfl error⟩
    refine onlyShows_belowInput.bind_ends (fun below s₁ hs₁ => ?_) hfailed
    refine (onlyShows_request _).bind_ends (fun _ s₂ hs₂ => ?_)
      (fun error s₂ hs₂ => hfailed error s₂ (hs₁.trans hs₂))
    have hs := hs₁.trans hs₂
    refine .of_eq rfl ⟨⟨hs.prompts, hs.mark, hs.highlighter⟩, ?_⟩
    show Applied s.editing times .abortLine _ s₂.editing.reset
    rw [hs.editing]
    exact .done .aborted
  | clearScreen =>
    refine (onlyShows_draw true).bind_ends (fun _ s' hs => ?_) (fun error s' hs => ?_)
    · refine .of_eq rfl ⟨hs.toSameLook, ?_⟩
      rw [hs.editing]
      exact .done .cleared
    · rw [hs.editing]
      exact ⟨hs.toSameLook, .failed rfl error⟩
  | _ => exact edit_act_ends (by decide) times terminal s

/-- After its step an action only shows the input, or rings the bell. -/
theorem performed_of_onlyShows {action : Action} {times : Nat} {more : List Outcome}
    {answer : Outcome × Bool} {e' : Editing} {terminal : Terminal} {s s₁ : Session}
    (happlies : Applies s.editing times action answer e') (houtcome : answer.1 ∈ more)
    (hlook : s.SameLook s₁) (hediting : s₁.editing = e'.remember action answer)
    {x : SessionM Unit} (hx : OnlyShows x) :
    Ends (do x; pure answer.1) terminal s₁
      fun r s' => s.SameLook s' ∧ Performed s.editing times action more r s'.editing := by
  refine hx.bind_ends (fun _ s' hs => ?_) (fun error s' hs => ?_)
  · refine .of_eq rfl ⟨hlook.trans hs.toSameLook, ?_⟩
    rw [hs.editing, hediting]
    exact .done happlies
  · rw [hs.editing, hediting]
    exact ⟨hlook.trans hs.toSameLook, .failedAfter happlies houtcome error⟩

/-- An action takes its step and is remembered, and what was handled is drawn unless that was the
step. -/
theorem perform_apply {action : Action} {times : Nat} {answer : Outcome × Bool}
    {terminal : Terminal} {s s₁ : Session} (h : apply action times terminal s = (.ok answer, s₁)) :
    perform action times terminal s =
      if answer.1 = .handled then
        (if action ≠ .clearScreen then do redraw; pure .handled
          else pure .handled : SessionM Outcome) terminal
          { s₁ with editing := s₁.editing.remember action answer }
      else (.ok answer.1, s₁) := by
  obtain ⟨outcome, remembered⟩ := answer
  unfold perform
  rw [bind_apply, h]
  dsimp only
  by_cases houtcome : outcome = .handled
  · rw [if_pos houtcome, if_pos houtcome, houtcome]
    cases remembered with
    | true => rfl
    | false => rfl
  · rw [if_neg houtcome, if_neg houtcome]
    rfl

/-- An action takes its step, is remembered, and is drawn; or the terminal fails before or after
its step. -/
theorem perform_ends (action : Action) (times : Nat) (terminal : Terminal) (s : Session) :
    Ends (perform action times) terminal s
      fun r s' => s.SameLook s' ∧ Performed s.editing times action [.handled] r s'.editing := by
  refine (apply_ends action times terminal s).bind (fun answer s₁ hs => ?_) (fun e s₁ hs => ?_)
  · obtain ⟨outcome, remembered⟩ := answer
    obtain ⟨hlook, happlied⟩ := hs
    have happlies : Applies s.editing times action (outcome, remembered) s₁.editing := by
      cases happlied with
      | done happlies => exact happlies
    dsimp only
    refine .ite (fun houtcome => ?_) (fun houtcome => ?_)
    · have hdraw : ∀ s₂, s.SameLook s₂ →
          s₂.editing = s₁.editing.remember action (outcome, remembered) →
          Ends (if action ≠ .clearScreen then do redraw; pure outcome else pure outcome) terminal s₂
            fun r s' => s.SameLook s' ∧
              Performed s.editing times action [.handled] r s'.editing := by
        intro s₂ hlook₂ hediting
        refine .ite (fun _ => ?_) (fun _ => ?_)
        · exact performed_of_onlyShows happlies (List.mem_singleton.2 houtcome) hlook₂ hediting
            onlyShows_redraw
        · refine .of_eq rfl ⟨hlook₂, ?_⟩
          rw [hediting]
          exact .done happlies
      refine .ite (fun hremembered => ?_) (fun hremembered => ?_)
      · refine Ends.modify_bind (hdraw _ ⟨hlook.prompts, hlook.mark, hlook.highlighter⟩ ?_)
        exact (if_pos (by rw [houtcome, hremembered])).symm
      · exact hdraw s₁ hlook (if_neg fun h => hremembered (congrArg Prod.snd h)).symm
    · refine .of_eq rfl ⟨hlook, ?_⟩
      have hanswer : s₁.editing.remember action (outcome, remembered) = s₁.editing :=
        if_neg fun h => houtcome (congrArg Prod.fst h)
      have hdone : Performed s.editing times action [.handled] (.ok outcome) _ := .done happlies
      rwa [hanswer] at hdone
  · obtain ⟨hlook, happlied⟩ := hs
    generalize hediting : s₁.editing = e₁ at happlied
    cases happlied with
    | failed haction error =>
      exact ⟨hlook, .failedBefore haction error⟩

/-- With the bell, too, an action ends as it is performed. -/
theorem performOrBeep_ends (action : Action) (times : Nat) (terminal : Terminal) (s : Session) :
    Ends (performOrBeep action times) terminal s fun r s' =>
      s.SameLook s' ∧
        Performed s.editing times action [.handled, .couldNotPerform] r s'.editing := by
  refine (perform_ends action times terminal s).bind (fun outcome s₁ hs => ?_)
    (fun e s₁ hs => ⟨hs.1, hs.2.mono (by simp)⟩)
  obtain ⟨hlook, hperformed⟩ := hs
  refine .ite (fun houtcome => ?_) (fun _ => ?_)
  · generalize hediting : s₁.editing = e₁ at hperformed
    cases hperformed with
    | done happlies =>
      refine performed_of_onlyShows happlies ?_ hlook hediting (onlyShows_request _)
      rw [houtcome]
      exact List.mem_cons_of_mem _ List.mem_cons_self
  · exact .of_eq rfl ⟨hlook, hperformed.mono (by simp)⟩

end SessionM

end LineEditor
