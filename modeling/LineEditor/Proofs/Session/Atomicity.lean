import LineEditor.Proofs.Session.Reliable
import LineEditor.Proofs.Session.Soundness

/-!
# Calls that fail

A call can fail at any of its requests to the terminal.  What is edited is then as it was before the
call, or as the call leaves it when nothing fails, and never in between.

* The mended terminal (`Terminal.mended`), which tells the same widths and never fails.
* Two runs.  A program that does not fail does the same on the mended terminal, where only the replies
  in the history may be others (`TerminalM.Repeats`, `Composed.exists_mended`).
* Actions.  All that an action does to what is edited it does in its step, and what it asks of the
  terminal after that leaves it alone (`perform_editing`, `after_editing_of_apply`).
* The result (`call_takes_effect_or_none`).
-/

namespace LineEditor

open SessionM

/-! ## The mended terminal -/

/-- The terminal with the same widths that grants every request. -/
def Terminal.mended (terminal : Terminal) : Terminal :=
  { terminal with reply := fun _ _ => .done }

theorem Terminal.reliable_mended (terminal : Terminal) : terminal.mended.Reliable :=
  fun _ _ => rfl

/-! ## Two runs -/

namespace TerminalM

variable {α β : Type}

/-- If the program does not fail, it gives the same on the mended terminal, after a history as long
as the other one and with as many requests. -/
def Repeats (program : TerminalM α) : Prop :=
  ∀ terminal (h₁ h₂ : History) a h₁', h₂.length = h₁.length → program terminal h₁ = (.ok a, h₁') →
    ∃ h₂', program terminal.mended h₂ = (.ok a, h₂') ∧ h₂'.length = h₁'.length

theorem repeats_pure (a : α) : Repeats (pure a) := by
  intro terminal h₁ h₂ b h₁' hlength hrun
  cases hrun
  exact ⟨h₂, rfl, hlength⟩

theorem Repeats.bind {program : TerminalM α} {f : α → TerminalM β} (h : Repeats program)
    (hf : ∀ a, Repeats (f a)) : Repeats (program >>= f) := by
  intro terminal h₁ h₂ b h₁' hlength hrun
  rw [bind_apply] at hrun ⊢
  rcases hprogram : program terminal h₁ with ⟨e | a, h₁''⟩
  · rw [hprogram] at hrun
    exact absurd (congrArg Prod.fst hrun) nofun
  · rw [hprogram] at hrun
    obtain ⟨h₂'', hmended, hlength'⟩ := h terminal h₁ h₂ a h₁'' hlength hprogram
    rw [hmended]
    exact hf a terminal h₁'' h₂'' b h₁' hlength' hrun

theorem length_request (r : Request) (terminal : Terminal) (h : History) :
    (request r terminal h).2.length = h.length + 1 := by
  rw [request_apply, List.length_append, List.length_singleton]

theorem repeats_request (r : Request) : Repeats (request r) := by
  intro terminal h₁ h₂ u h₁' hlength hrun
  rw [request_granted terminal.reliable_mended]
  refine ⟨_, rfl, ?_⟩
  have hlength₁ := length_request r terminal h₁
  rw [hrun] at hlength₁
  rw [List.length_append, List.length_singleton, hlength, hlength₁]

theorem repeats_askWidth : Repeats askWidth := by
  intro terminal h₁ h₂ width h₁' hlength hrun
  have hwidth : Repeats (request .width >>= fun _ => pure (terminal.width h₁.length)) :=
    (repeats_request .width).bind fun _ => repeats_pure _
  obtain ⟨h₂', hmended, hlength'⟩ := hwidth terminal h₁ h₂ width h₁' hlength hrun
  refine ⟨h₂', ?_, hlength'⟩
  rw [← hlength] at hmended
  exact hmended

/-- It makes no difference to an update whether its end is granted. -/
theorem Repeats.atomically {body : TerminalM α} (h : Repeats body) :
    Repeats (atomically body) := by
  intro terminal h₁ h₂ a h₁' hlength hrun
  rw [atomically_apply] at hrun ⊢
  rcases hbegin : request .beginUpdate terminal h₁ with ⟨e | u, h₁''⟩
  · rw [hbegin] at hrun
    exact absurd (congrArg Prod.fst hrun) nofun
  rw [hbegin] at hrun
  obtain ⟨h₂'', hmended, hlength'⟩ := repeats_request _ terminal h₁ h₂ u h₁'' hlength hbegin
  rw [hmended]
  dsimp only at hrun ⊢
  rcases hbody : body terminal h₁'' with ⟨e | b, h₃⟩
  · rw [hbody] at hrun
    exact absurd (congrArg Prod.fst hrun) nofun
  rw [hbody] at hrun
  cases hrun
  obtain ⟨h₄, hmended', hlength''⟩ := h terminal h₁'' h₂'' a h₃ hlength' hbody
  rw [hmended']
  refine ⟨_, rfl, ?_⟩
  rw [length_request, length_request, hlength'']

theorem repeats_update (clearFirst : Bool) (rows : List Row) (style : DrawStyle) :
    Repeats (update clearFirst rows style) := by
  have hdraw : Repeats (draw rows style) := by
    unfold draw
    split
    · exact repeats_pure _
    · exact (repeats_request _).bind fun _ => repeats_pure _
  refine Repeats.atomically ?_
  cases clearFirst with
  | true => exact (repeats_request .clear).bind fun _ => hdraw
  | false => exact hdraw

end TerminalM

namespace SessionM

open Editing

variable {α : Type} {terminal : Terminal} {s s₁ : Session}

theorem exists_onTerminal_mended {program : TerminalM α} (h : program.Repeats) {a : α}
    {history : History} (hlength : history.length = s.history.length)
    (hrun : onTerminal program terminal s = (.ok a, s₁)) :
    ∃ history₁, onTerminal program terminal.mended { s with history } =
        (.ok a, { s₁ with history := history₁ }) ∧ history₁.length = s₁.history.length := by
  unfold onTerminal at hrun ⊢
  dsimp only at hrun ⊢
  rcases hprogram : program terminal s.history with ⟨e | b, h'⟩
  · rw [hprogram] at hrun
    exact absurd (congrArg Prod.fst hrun) nofun
  · rw [hprogram] at hrun
    cases hrun
    obtain ⟨h₂, hmended, hlength₂⟩ := h terminal s.history history a h' hlength hprogram
    rw [hmended]
    exact ⟨h₂, rfl, hlength₂⟩

/-- If a program does not fail, it does the same on the mended terminal, up to the replies. -/
theorem Composed.exists_mended {x : SessionM α} (hx : Composed x) {a : α} {history : History}
    (hlength : history.length = s.history.length) (hrun : x terminal s = (.ok a, s₁)) :
    ∃ history₁, x terminal.mended { s with history } = (.ok a, { s₁ with history := history₁ }) ∧
      history₁.length = s₁.history.length := by
  induction hx generalizing s s₁ history with
  | pure b =>
    cases hrun
    exact ⟨history, rfl, hlength⟩
  | @look _ f _ hhistory ihf =>
    obtain ⟨history₁, hmended, hlength₁⟩ := ihf s hlength hrun
    rw [← hhistory s history] at hmended
    exact ⟨history₁, hmended, hlength₁⟩
  | change f hhistory =>
    cases hrun
    refine ⟨history, ?_, hlength.trans (congrArg List.length (history_change hhistory s).symm)⟩
    show (Except.ok PUnit.unit, f { s with history }) = _
    rw [hhistory]
  | misuse misuse => exact absurd (congrArg Prod.fst hrun) nofun
  | askWidth => exact exists_onTerminal_mended TerminalM.repeats_askWidth hlength hrun
  | request r _ => exact exists_onTerminal_mended (TerminalM.repeats_request r) hlength hrun
  | update clearFirst rows style =>
    exact exists_onTerminal_mended (TerminalM.repeats_update clearFirst rows style) hlength hrun
  | @bind _ _ x f _ _ ihx ihf =>
    rw [bind_apply] at hrun ⊢
    rcases hfirst : x terminal s with ⟨e | b, s'⟩
    · rw [hfirst] at hrun
      exact absurd (congrArg Prod.fst hrun) nofun
    · rw [hfirst] at hrun
      obtain ⟨history', hmended, hlength'⟩ := ihx hlength hfirst
      rw [hmended]
      exact ihf b hlength' hrun

/-! ## Actions -/

variable {action : Action} {times : Nat} {answer : Outcome × Bool}

/-- An action does all of its work in its step, and is then remembered and drawn. -/
theorem perform_editing (h : apply action times terminal s = (.ok answer, s₁)) :
    Ends (perform action times) terminal s fun _ s' =>
      s'.editing = s₁.editing.remember action answer := by
  have hrun := perform_apply h
  by_cases houtcome : answer.1 = .handled
  · refine .of_apply_eq (hrun.trans (if_pos houtcome)) (.ite (fun _ => ?_) fun _ => .of_eq rfl rfl)
    exact (onlyShows_redraw.bind (fun _ => onlyShows_pure _) terminal _).mono
      fun _ _ hs => hs.1.editing
  · exact .of_eq (hrun.trans (if_neg houtcome)) (Editing.remember_of_ne houtcome).symm

/-- An action that cannot take its step does nothing. -/
theorem perform_editing_of_error {e : SessionError}
    (h : apply action times terminal s = (.error e, s₁)) :
    Ends (perform action times) terminal s fun r s' =>
      r = .error e ∧ s'.editing = s.editing := by
  have hstep : Ends (apply action times) terminal s fun r s' =>
      r = .error e ∧ Applied s.editing times action r s'.editing :=
    ⟨congrArg Prod.fst h, (apply_ends action times terminal s).2⟩
  refine hstep.bind (fun answer s' hs => absurd hs.1 nofun) (fun e' s' hs => ?_)
  obtain ⟨he, happlied⟩ := hs
  cases he
  generalize s'.editing = e' at happlied
  cases happlied with
  | failed _ _ => exact ⟨rfl, rfl⟩

/-- The bell leaves what is edited alone, and it is not rung for an action that fails. -/
theorem performOrBeep_editing (action : Action) (times : Nat) (terminal : Terminal) (s : Session) :
    Ends (performOrBeep action times) terminal s fun r s' =>
      s'.editing = (perform action times terminal s).2.editing ∧
        ∀ e, (perform action times terminal s).1 = .error e → r = .error e := by
  have hperform : Ends (perform action times) terminal s fun r s' =>
      r = (perform action times terminal s).1 ∧ s' = (perform action times terminal s).2 :=
    ⟨rfl, rfl⟩
  refine hperform.bind (fun outcome s' hs => ?_) (fun e s' hs => ?_)
  · rw [← hs.1, ← hs.2]
    have hbell : OnlyShows (do
        if outcome = .couldNotPerform then
          request .beep
        pure outcome) :=
      .ite ((onlyShows_request .beep).bind fun _ => onlyShows_pure outcome)
        (onlyShows_pure outcome)
    exact (hbell terminal s').mono fun _ _ h => ⟨h.1.editing, nofun⟩
  · rw [← hs.1, ← hs.2]
    exact ⟨rfl, fun e' he => congrArg Except.error (Except.error.inj he)⟩

end SessionM

open Editing

theorem Call.perform_editing (call : Call) (action : Action) (times : Nat) (terminal : Terminal)
    (s : Session) :
    Ends (call.perform action times) terminal s fun r s' =>
      s'.editing = (SessionM.perform action times terminal s).2.editing ∧
        ∀ e, (SessionM.perform action times terminal s).1 = .error e → r = .error e := by
  cases call with
  | key key => exact performOrBeep_editing action times terminal s
  | _ => exact ⟨rfl, fun e he => he⟩

namespace Session

section

variable {s s₁ : Session} {terminal : Terminal} {call : Call} {action : Action} {times : Nat}

/-- A call does to what is edited what its action does, and fails if that fails. -/
theorem after_editing (haction : call.action? s.editing.keyboard = some (action, times))
    (terminal : Terminal) :
    (s.after terminal call).editing =
        (SessionM.perform action times terminal (s.receive call)).2.editing ∧
      ∀ e, (SessionM.perform action times terminal (s.receive call)).1 = .error e →
        (call.run terminal s).1 = .error e := by
  have hrun : call.run terminal s = _ := (Call.run_of_action? haction).trans (map_apply _ _)
  obtain ⟨hediting, herror⟩ := call.perform_editing action times terminal (s.receive call)
  unfold after
  rw [hrun]
  refine ⟨hediting, fun e he => ?_⟩
  rw [herror e he]
  rfl

/-- A call whose action takes its step leaves what is edited as the step does. -/
theorem after_editing_of_apply
    (haction : call.action? s.editing.keyboard = some (action, times)) {answer : Outcome × Bool}
    (happly : apply action times terminal (s.receive call) = (.ok answer, s₁)) :
    (s.after terminal call).editing = s₁.editing.remember action answer :=
  (after_editing haction terminal).1.trans (perform_editing happly)

/-- A call whose action cannot take its step fails and leaves what is edited as it took it in. -/
theorem after_editing_of_apply_error
    (haction : call.action? s.editing.keyboard = some (action, times)) {e : SessionError}
    (happly : apply action times terminal (s.receive call) = (.error e, s₁)) :
    (call.run terminal s).1 = .error e ∧
      (s.after terminal call).editing = s.editing.received call := by
  obtain ⟨hafter, herror⟩ := after_editing haction terminal
  obtain ⟨hfail, hediting⟩ := perform_editing_of_error happly
  exact ⟨herror e hfail, hafter.trans hediting⟩

end

/-- A call with an action does its full work, or none if it fails. -/
theorem after_of_action? (s : Session) (terminal : Terminal) {call : Call} {action : Action}
    {times : Nat} (haction : call.action? s.editing.keyboard = some (action, times)) :
    (∃ e, (call.run terminal s).1 = .error e) ∧
        (s.after terminal call).editing = s.editing.received call ∨
      (s.after terminal call).editing = (s.after terminal.mended call).editing := by
  rcases happly : apply action times terminal (s.receive call) with ⟨e | answer, s₁⟩
  · obtain ⟨hfail, hediting⟩ := after_editing_of_apply_error haction happly
    exact .inl ⟨⟨e, hfail⟩, hediting⟩
  · obtain ⟨history, hmended, -⟩ := (composed_apply action times).exists_mended rfl happly
    have hafter := after_editing_of_apply haction happly
    exact .inr (hafter.trans (after_editing_of_apply haction hmended).symm)

/-- A call takes its full effect on what is edited, or none at all.  It takes none only if the
terminal fails; and on a terminal with the same widths that never fails it is answered, so that its
full effect is what it does there. -/
theorem call_takes_effect_or_none (s : Session) (terminal : Terminal) (call : Call) :
    let s' := s.after terminal call
    let full := s.after terminal.mended call
    (∃ answer, (call.run terminal.mended s).1 = .ok answer) ∧
      ((∃ error, (call.run terminal s).1 = .error (.terminal error)) ∧
          s.editing.Agrees s'.editing ∨
        s'.editing = full.editing) := by
  intro s' full
  have hcalled : ∀ terminal' : Terminal, Called s.editing call (call.run terminal' s).1
      (s.after terminal' call).editing := fun terminal' => call.run_called terminal' s
  constructor
  · cases hresult : (call.run terminal.mended s).1 with
    | ok answer => exact ⟨answer, rfl⟩
    | error e =>
      obtain ⟨error, rfl⟩ := (hcalled terminal.mended).noMisuse e hresult
      have hreliable := terminal.reliable_mended
      exact absurd hresult (call.run_composed.ne_terminal_error hreliable s error)
  · cases haction : call.action? s.editing.keyboard with
    | some action =>
      rcases s.after_of_action? terminal haction with ⟨⟨e, hfail⟩, hediting⟩ | hsame
      · obtain ⟨error, rfl⟩ := (hcalled terminal).noMisuse e hfail
        refine .inl ⟨⟨error, hfail⟩, ?_⟩
        rw [hediting]
        exact received_agrees_of_action? haction
      · exact .inr hsame
    | none =>
      have hreceived : ∀ terminal' : Terminal,
          (s.after terminal' call).editing = s.editing.received call := by
        intro terminal'
        have hcalled := hcalled terminal'
        generalize (s.after terminal' call).editing = e' at hcalled
        cases hcalled with
        | received _ _ _ => rfl
        | refused hsome _ _ => exact absurd (haction.symm.trans hsome) nofun
        | aborted hsome _ => exact absurd (haction.symm.trans hsome) nofun
        | done hsome _ _ => exact absurd (haction.symm.trans hsome) nofun
      exact .inr ((hreceived terminal).trans (hreceived terminal.mended).symm)

end Session

end LineEditor
