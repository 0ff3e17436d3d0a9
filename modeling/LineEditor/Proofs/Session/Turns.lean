import LineEditor.Proofs.Session.Outcomes
import LineEditor.Proofs.Session.Reliable
import LineEditor.Terminal.Fault

/-!
# Turns

While nothing fails, a call either leaves the screen as it is or draws the input once more.  All that
a call then asks of the terminal is said here, so that a fact about the screen needs only the cases of
`Session.Turn`.

* Drawing.  `Session.Drawn` says what a drawing asks for and leaves behind, and `draw_drawn` that
  drawing does so.
* Calls.  `Session.Turn` has the four ways in which a call can go: nothing is drawn, the input is
  drawn in place, it is drawn on a cleared screen, or it is given up and a new one is drawn below.
  `Call.run_turned` says that calls go so.
-/

namespace LineEditor

open SessionM

/-- The terminal grants every request and tells only widths that fulfil `widths`. -/
structure Terminal.Serves (widths : Nat → Prop) (terminal : Terminal) : Prop where
  reliable : terminal.Reliable
  width : ∀ n, widths (terminal.width n)

/-- A terminal without faults serves as long as its width does. -/
theorem Faults.serves_terminal {widths : Nat → Prop} {width : Nat} (h : widths width) :
    (Faults.terminal {} width).Serves widths where
  reliable := fun _ _ => rfl
  width := fun _ => h

/-! ## Drawing -/

namespace Session

/-- How the session draws its rows, when the earlier drawing has left the cursor on a row. -/
def style (s : Session) (previousRow : Nat) : DrawStyle :=
  { width := s.width, previousRow, mark := s.mark, highlighter := s.highlighter }

/-- What is written to draw the input of the session. -/
def frame (s : Session) (previousRow : Nat) : List Command :=
  LineEditor.frame s.rows (s.style previousRow)

/-- What is asked for to draw the input of the session, on a cleared screen if asked for. -/
def update (s : Session) (clearFirst : Bool) (previousRow : Nat) : List Request :=
  withinUpdate ((if clearFirst then [.clear] else []) ++ [.write (s.frame previousRow)])

/-- What is asked for to know the width of the screen. -/
def widthRequests (s : Session) : List Request :=
  if s.width = 0 then [.width] else []

theorem widthRequests_cases (s : Session) :
    s.widthRequests = [] ∨ s.widthRequests = [.width] := by
  unfold widthRequests
  split
  · exact .inr rfl
  · exact .inl rfl

/-- The session with a new input that is not drawn yet, below the input that was given up. -/
def givenUp (s : Session) : Session :=
  reset { s with history := s.history ++ [.granted (.write (wayBelow s.rows ++ [.newLine]))] }

/-- The session knows the width of the screen, and on which row the cursor of its input is. -/
structure OnScreen (widths : Nat → Prop) (s : Session) : Prop where
  width : widths s.width
  cursorRow : s.cursorRow = LineEditor.cursorRow s.rows

/-- The session `s'` is left of `s` when its input has been drawn. -/
structure Drawn (widths : Nat → Prop) (clearFirst : Bool) (s s' : Session) : Prop
    extends s.SameInput s' where
  onScreen : s'.OnScreen widths
  known : s.width ≠ 0 → s'.width = s.width
  history : s'.history = s.history ++
    (s.widthRequests ++ s'.update clearFirst (if clearFirst then 0 else s.cursorRow)).map .granted

theorem OnScreen.width_ne_zero {widths : Nat → Prop} {s : Session} (h : s.OnScreen widths)
    (hwide : ∀ w, widths w → minDrawWidth ≤ w) : s.width ≠ 0 :=
  Nat.ne_of_gt (Nat.lt_of_lt_of_le (by decide) (hwide _ h.width))

end Session

section

variable {widths : Nat → Prop} {terminal : Terminal} {s : Session}

namespace SessionM

/-- What a program gives has no part in the session that it leaves behind. -/
theorem Ends.bind_pure {α β : Type} {x : SessionM α} {P : Session → Prop}
    (hx : Ends x terminal s fun _ s' => P s') (f : α → β) :
    Ends (x >>= fun a => pure (f a)) terminal s fun _ s' => P s' :=
  hx.bind (fun _ _ h => .of_eq rfl h) fun _ _ h => h

theorem ensureWidth_of_ne (hwidth : s.width ≠ 0) : ensureWidth terminal s = (.ok (), s) := by
  unfold ensureWidth
  rw [bind_apply, get_apply]
  dsimp only
  rw [if_neg hwidth]
  rfl

theorem ensureWidth_of_eq (hterminal : terminal.Reliable) (hwidth : s.width = 0) :
    ensureWidth terminal s = (.ok (),
      { s with
        width := terminal.width s.history.length
        history := s.history ++ [.granted .width] }) := by
  unfold ensureWidth
  rw [bind_apply, get_apply]
  dsimp only
  rw [if_pos hwidth, bind_apply]
  unfold onTerminal
  rw [TerminalM.askWidth_granted hterminal]
  rfl

theorem screen_of_ne (hwidth : s.width ≠ 0) : screen terminal s = (.ok s.rows, s) := by
  unfold screen
  rw [bind_apply, ensureWidth_of_ne hwidth]
  rfl

/-- The rows are known once the width is. -/
theorem exists_screen_eq (hterminal : terminal.Serves widths)
    (hwidth : s.width ≠ 0 → widths s.width) :
    ∃ s₁, screen terminal s = (.ok s₁.rows, s₁) ∧ s.SameInput s₁ ∧ widths s₁.width ∧
      (s.width ≠ 0 → s₁.width = s.width) ∧ s₁.cursorRow = s.cursorRow ∧
      s₁.history = s.history ++ s.widthRequests.map .granted := by
  unfold Session.widthRequests
  by_cases hzero : s.width = 0
  · rw [if_pos hzero]
    unfold screen
    rw [bind_apply, ensureWidth_of_eq hterminal.reliable hzero]
    exact ⟨_, rfl, ⟨⟨rfl, rfl, rfl⟩, rfl⟩, hterminal.width _, fun hne => absurd hzero hne, rfl, rfl⟩
  · rw [if_neg hzero, List.map_nil, List.append_nil]
    exact ⟨s, screen_of_ne hzero, .refl s, hwidth hzero, fun _ => rfl, rfl, rfl⟩

/-- Drawing on a reliable terminal is one update, with the rows that are known before. -/
theorem draw_apply {s₁ : Session} (hterminal : terminal.Reliable)
    (hscreen : screen terminal s = (.ok s₁.rows, s₁)) (clearFirst : Bool) :
    let style := s₁.style (if clearFirst then 0 else s₁.cursorRow)
    draw clearFirst terminal s = (.ok (),
      { s₁ with
        cursorRow := drawnRow s₁.rows style
        history := s₁.history ++ (updateRequests clearFirst s₁.rows style).map .granted }) := by
  intro style
  unfold draw
  rw [bind_apply, hscreen]
  show (onTerminal (.update clearFirst s₁.rows style) >>= fun row =>
    modify fun s => { s with cursorRow := row }) terminal s₁ = _
  rw [bind_apply]
  unfold onTerminal
  rw [TerminalM.update_granted hterminal]
  rfl

/-- On a terminal that is wide enough, drawing draws the input. -/
theorem draw_drawn (hterminal : terminal.Serves widths) (hwide : ∀ w, widths w → minDrawWidth ≤ w)
    (hwidth : s.width ≠ 0 → widths s.width) (clearFirst : Bool) :
    Ends (draw clearFirst) terminal s fun r s' => r = .ok () ∧ s.Drawn widths clearFirst s' := by
  obtain ⟨s₁, hscreen, hsame, hwidth₁, hknown, hrow, hhistory⟩ :=
    exists_screen_eq hterminal hwidth
  have hdraws : ∀ row, ¬((s₁.style row).width < minDrawWidth) :=
    fun _ => Nat.not_lt.2 (hwide _ hwidth₁)
  have hrequests : ∀ row, updateRequests clearFirst s₁.rows (s₁.style row) =
      s₁.update clearFirst row := by
    intro row
    rw [updateRequests, drawRequests, Session.update, if_neg (hdraws row)]
    rfl
  have hrun := draw_apply hterminal.reliable hscreen clearFirst
  dsimp only at hrun
  rw [hrequests, drawnRow, if_neg (hdraws _), hhistory, hrow, List.append_assoc, ← List.map_append]
    at hrun
  exact .of_eq hrun ⟨rfl, ⟨⟨hsame.prompts, hsame.mark, hsame.highlighter⟩, hsame.editing⟩,
    ⟨hwidth₁, rfl⟩, hknown, rfl⟩

end SessionM

end

/-! ## Actions -/

namespace Session

/-- How a call with this action goes, and what it asks of the terminal. -/
inductive Turn (s : Session) (action? : Option Action) : List Request → Session → Prop
  /-- The input and what is known of the screen are as before; at most the bell is rung. -/
  | kept {requests : List Request} {s' : Session}
      (haction : ∀ action ∈ [Action.abortLine, .clearScreen], action? ≠ some action)
      (hbuffer : s'.editing.buffer = s.editing.buffer) (hwidth : s'.width = s.width)
      (hrow : s'.cursorRow = s.cursorRow) (hrequests : requests = [] ∨ requests = [.beep]) :
      Turn s action? requests s'
  /-- The input is drawn in place of the earlier drawing. -/
  | drawn {asked : List Request} {s' : Session}
      (haction : ∀ action ∈ [Action.abortLine, .clearScreen], action? ≠ some action)
      (hasked : asked = [] ∨ asked = [.width]) :
      Turn s action? (asked ++ s'.update false s.cursorRow) s'
  /-- The input is drawn on a cleared screen. -/
  | cleared {s' : Session} (haction : action? = some .clearScreen) :
      Turn s action? (s'.update true 0) s'
  /-- The input is given up, and a new one is drawn below it. -/
  | aborted {s' : Session} (haction : action? = some .abortLine) :
      Turn s action? (.write (wayBelow s.rows ++ [.newLine]) :: s'.update false 0) s'

/-- The session `s'` is left of `s` after a call with this action, which was granted these
requests. -/
structure Turned (widths : Nat → Prop) (s : Session) (action? : Option Action)
    (requests : List Request) (s' : Session) : Prop extends s.SameLook s' where
  onScreen : s'.OnScreen widths
  history : s'.history = s.history ++ requests.map .granted
  turn : s.Turn action? requests s'

variable {widths : Nat → Prop} {s s₁ s' : Session} {action? : Option Action}

theorem Drawn.history_eq {clearFirst : Bool} (h : Drawn widths clearFirst s s')
    (hwidth : s.width ≠ 0) :
    s'.history = s.history ++
      (s'.update clearFirst (if clearFirst then 0 else s.cursorRow)).map .granted := by
  have hhistory := h.history
  rwa [widthRequests, if_neg hwidth] at hhistory

/-- Two sessions that show the same buffer in the same way have the same rows. -/
theorem SameLook.rows_eq (h : s.SameLook s') (hbuffer : s'.editing.buffer = s.editing.buffer)
    (hwidth : s'.width = s.width) : s'.rows = s.rows := by
  rw [rows, rows, hbuffer, h.prompts, hwidth]

theorem rows_of_buffer_eq {e : Editing} (hbuffer : e.buffer = s.editing.buffer) :
    rows { s with editing := e } = s.rows :=
  SameLook.rows_eq ⟨rfl, rfl, rfl⟩ hbuffer rfl

theorem OnScreen.of_buffer_eq {e : Editing} (h : s.OnScreen widths)
    (hbuffer : e.buffer = s.editing.buffer) : OnScreen widths { s with editing := e } where
  width := h.width
  cursorRow := by rw [rows_of_buffer_eq hbuffer]; exact h.cursorRow

/-- A session that stays as it is on the screen has taken a turn without requests. -/
theorem Turned.of_editing {e : Editing} (hs : s.OnScreen widths)
    (haction : ∀ action ∈ [Action.abortLine, .clearScreen], action? ≠ some action)
    (hbuffer : e.buffer = s.editing.buffer) :
    s.Turned widths action? [] { s with editing := e } where
  prompts := rfl
  mark := rfl
  highlighter := rfl
  onScreen := hs.of_buffer_eq hbuffer
  history := by rw [List.map_nil, List.append_nil]
  turn := .kept haction hbuffer rfl rfl (.inl rfl)

/-- The bell may be rung in a turn that has asked for nothing. -/
theorem Turn.beep {history : History} (h : s.Turn action? [] s') :
    s.Turn action? [.beep] { s' with history } := by
  have hbell : ∀ requests : List Request, requests = [] → s.Turn action? requests s' →
      s.Turn action? [.beep] { s' with history } := by
    intro requests hnil hturn
    cases hturn with
    | kept haction hbuffer hwidth hrow _ =>
      exact .kept haction hbuffer hwidth hrow (.inr rfl)
    | drawn _ _ => simp [update, withinUpdate] at hnil
    | cleared _ => exact absurd hnil (List.cons_ne_nil _ _)
    | aborted _ => exact absurd hnil (List.cons_ne_nil _ _)
  exact hbell [] rfl h

theorem Turned.beep (h : s.Turned widths action? [] s') :
    s.Turned widths action? [.beep] { s' with history := s'.history ++ [.granted .beep] } where
  prompts := h.prompts
  mark := h.mark
  highlighter := h.highlighter
  onScreen := ⟨h.onScreen.width, h.onScreen.cursorRow⟩
  history := by rw [h.history, List.map_nil, List.append_nil, List.map_singleton]
  turn := h.turn.beep

/-- What a drawing leaves is the end of a turn, if it goes on from the session before. -/
theorem Drawn.turned {clearFirst : Bool} {requests : List Request}
    (h : Drawn widths clearFirst s₁ s') (hlook : s.SameLook s₁)
    (hhistory : s'.history = s.history ++ requests.map .granted)
    (hturn : s.Turn action? requests s') : s.Turned widths action? requests s' where
  toSameLook := hlook.trans h.toSameLook
  onScreen := h.onScreen
  history := hhistory
  turn := hturn

/-- An input that is drawn in place after it has changed. -/
theorem Drawn.turned_of_editing {e : Editing} (h : Drawn widths false { s with editing := e } s')
    (hwidth : s.width ≠ 0)
    (haction : ∀ action ∈ [Action.abortLine, .clearScreen], action? ≠ some action) :
    s.Turned widths action? (s'.update false s.cursorRow) s' :=
  h.turned ⟨rfl, rfl, rfl⟩ (h.history_eq hwidth) (.drawn haction (.inl rfl))

end Session

/-- An action that is not answered as handled leaves the input alone. -/
theorem Editing.Applies.buffer_eq {e e' : Editing} {times : Nat} {action : Action}
    {answer : Outcome × Bool} (h : Applies e times action answer e') (hne : answer.1 ≠ .handled) :
    e'.buffer = e.buffer := by
  have hperformed : Performed e times action [] (.ok answer.1) (e'.remember action answer) :=
    .done h
  rw [remember_of_ne hne] at hperformed
  exact (hperformed.agrees hne).buffer

namespace SessionM

open Editing Session

variable {α β : Type} {widths : Nat → Prop} {terminal : Terminal} {s : Session} {action : Action}
  {times : Nat}

/-- The program changes nothing but what is edited, and the terminal has no part in it. -/
def OnlyEdits (x : SessionM α) (terminal : Terminal) (s : Session) : Prop :=
  Ends x terminal s fun r s' =>
    s' = { s with editing := s'.editing } ∧ ∀ error, r ≠ .error (.terminal error)

theorem onlyEdits_edit (change : Editing → Except Misuse (Bool × Editing)) :
    OnlyEdits (edit change) terminal s := by
  refine Ends.get_bind ?_
  cases change s.editing with
  | ok answer => exact ⟨rfl, nofun⟩
  | error misuse => exact ⟨rfl, nofun⟩

theorem OnlyEdits.bind_pure {x : SessionM α} (hx : OnlyEdits x terminal s) (f : α → β) :
    OnlyEdits (x >>= fun a => pure (f a)) terminal s :=
  Ends.bind hx (fun _ _ hs => ⟨hs.1, nofun⟩) fun _ _ hs =>
    ⟨hs.1, fun error he => hs.2 error (congrArg Except.error (Except.error.inj he))⟩

theorem onlyEdits_moveVertically (hwidth : s.width ≠ 0) (amount : Int) :
    OnlyEdits (moveVertically amount) terminal s := by
  have hscreen : Ends screen terminal s fun r s' => r = .ok s.rows ∧ s' = s :=
    .of_eq (screen_of_ne hwidth) ⟨rfl, rfl⟩
  refine hscreen.bind (fun rows s' hs => ?_) (fun e s' hs => absurd hs.1 nofun)
  obtain ⟨hrows, rfl⟩ := hs
  cases hrows
  cases verticalTarget s'.rows amount with
  | none => exact ⟨rfl, nofun⟩
  | some target => exact onlyEdits_edit _

/-- Once the width is known, all actions but those that write to the terminal change nothing but what
is edited. -/
theorem onlyEdits_apply (haction : action ∉ [.abortLine, .clearScreen]) (hwidth : s.width ≠ 0)
    (times : Nat) : OnlyEdits (apply action times) terminal s := by
  have hedit : ∀ action, OnlyEdits (do
      let done ← edit fun e => e.act times action
      pure (outcomeOf done, true)) terminal s :=
    fun action => (onlyEdits_edit _).bind_pure _
  cases action with
  | cursorUp => exact (onlyEdits_moveVertically hwidth _).bind_pure _
  | cursorDown => exact (onlyEdits_moveVertically hwidth _).bind_pure _
  | acceptInput => exact ⟨rfl, nofun⟩
  | endInput => exact Ends.get_bind (.ite (fun _ => ⟨rfl, nofun⟩) fun _ => ⟨rfl, nofun⟩)
  | abortLine => exact absurd (by decide) haction
  | clearScreen => exact absurd (by decide) haction
  | _ => exact hedit _

/-- Such an action takes its step, and the rest of the session stays as it is. -/
theorem exists_apply_eq (haction : action ∉ [.abortLine, .clearScreen]) (hwidth : s.width ≠ 0)
    (times : Nat) (terminal : Terminal) :
    ∃ answer e, apply action times terminal s = (.ok answer, { s with editing := e }) ∧
      Applies s.editing times action answer e := by
  have hedits : OnlyEdits (apply action times) terminal s := onlyEdits_apply haction hwidth times
  have hends := (apply_ends action times terminal s).2
  unfold OnlyEdits Ends at hedits
  rcases happly : apply action times terminal s with ⟨r, s₁⟩
  rw [happly] at hedits hends
  obtain ⟨hsame, hterminal⟩ := hedits
  dsimp only at hsame hterminal hends
  generalize s₁.editing = e at hsame hends
  cases hends with
  | done happlies => exact ⟨_, e, by rw [hsame], happlies⟩
  | failed _ error => exact absurd rfl (hterminal error)

theorem request_of_reliable (hterminal : terminal.Reliable) (r : Request) :
    request r terminal s = (.ok (), { s with history := s.history ++ [.granted r] }) := by
  unfold request onTerminal
  rw [TerminalM.request_granted hterminal]
  rfl

/-- Giving the input up is one write, and leaves a new input that is not drawn yet. -/
theorem apply_abortLine (hterminal : terminal.Reliable) (hwidth : s.width ≠ 0) (times : Nat) :
    apply .abortLine times terminal s = (.ok (.handled, false), s.givenUp) := by
  unfold apply
  rw [belowInput_eq]
  simp only [bind_assoc, pure_bind]
  rw [bind_apply, screen_of_ne hwidth]
  dsimp only
  rw [bind_apply, request_of_reliable hterminal]
  rfl

section

variable (hterminal : terminal.Serves widths) (hwide : ∀ w, widths w → minDrawWidth ≤ w)
include hterminal hwide

/-- What was handled is drawn. -/
theorem redraw_drawn (hwidth : widths s.width) :
    Ends (do redraw; pure Outcome.handled) terminal s
      fun r s' => r = .ok .handled ∧ s.Drawn widths false s' :=
  (draw_drawn hterminal hwide (fun _ => hwidth) false).bind
    (fun _ _ h => .of_eq rfl ⟨rfl, h.2⟩) fun _ _ h => absurd h.1 nofun

theorem perform_abortLine_turned (hs : s.OnScreen widths) (times : Nat) :
    Ends (perform .abortLine times) terminal s fun r s' => r = .ok .handled ∧
      s.Turned widths (some .abortLine)
        (.write (wayBelow s.rows ++ [.newLine]) :: s'.update false 0) s' := by
  have hwidth : s.width ≠ 0 := hs.width_ne_zero hwide
  have happly := apply_abortLine hterminal.reliable hwidth times
  refine .of_apply_eq ((perform_apply happly).trans (if_pos rfl)) (.ite (fun _ => ?_) fun hne => ?_)
  · refine (redraw_drawn (s := s.givenUp) hterminal hwide hs.width).mono fun r s' h => ?_
    obtain ⟨hr, hdrawn⟩ := h
    have hhistory := hdrawn.history_eq hwidth
    refine ⟨hr, hdrawn.turned ⟨rfl, rfl, rfl⟩ ?_ (.aborted rfl)⟩
    rw [hhistory, List.map_cons]
    exact List.append_assoc _ [_] _
  · exact absurd (by decide) hne

theorem perform_clearScreen_turned (hs : s.OnScreen widths) (times : Nat) :
    Ends (perform .clearScreen times) terminal s fun r s' => r = .ok .handled ∧
      s.Turned widths (some .clearScreen) (s'.update true 0) s' := by
  have happly : Ends (apply .clearScreen times) terminal s fun r s' =>
      r = .ok (.handled, false) ∧ s.Drawn widths true s' :=
    (draw_drawn hterminal hwide (fun _ => hs.width) true).bind
      (fun _ _ h => .of_eq rfl ⟨rfl, h.2⟩) fun _ _ h => absurd h.1 nofun
  refine happly.bind (fun answer s' h => ?_) fun _ _ h => absurd h.1 nofun
  obtain ⟨hanswer, hdrawn⟩ := h
  cases hanswer
  have hhistory := hdrawn.history_eq (hs.width_ne_zero hwide)
  exact .of_eq rfl ⟨rfl, hdrawn.turned ⟨rfl, rfl, rfl⟩ hhistory (.cleared rfl)⟩

/-- An action takes a turn.  One that could not be performed has asked for nothing. -/
theorem perform_turned (hs : s.OnScreen widths) (action : Action) (times : Nat) :
    Ends (perform action times) terminal s fun r s' => ∃ outcome requests, r = .ok outcome ∧
      s.Turned widths (some action) requests s' ∧ (outcome = .couldNotPerform → requests = []) := by
  by_cases habort : action = .abortLine
  · subst habort
    exact (perform_abortLine_turned hterminal hwide hs times).mono
      fun _ _ h => ⟨.handled, _, h.1, h.2, nofun⟩
  by_cases hclear : action = .clearScreen
  · subst hclear
    exact (perform_clearScreen_turned hterminal hwide hs times).mono
      fun _ _ h => ⟨.handled, _, h.1, h.2, nofun⟩
  · have hother : ∀ a ∈ [Action.abortLine, .clearScreen], some action ≠ some a := by
      simp [habort, hclear]
    have hmem : action ∉ [.abortLine, .clearScreen] := by
      simp [habort, hclear]
    have hwidth : s.width ≠ 0 := hs.width_ne_zero hwide
    obtain ⟨answer, e, happly, happlies⟩ := exists_apply_eq hmem hwidth times terminal
    have hrun := perform_apply happly
    by_cases houtcome : answer.1 = .handled
    · refine .of_apply_eq (hrun.trans (if_pos houtcome)) (.ite (fun _ => ?_) (absurd hclear))
      have hdrawn := redraw_drawn (s := { s with editing := e.remember action answer })
        hterminal hwide hs.width
      exact hdrawn.mono fun _ _ h =>
        ⟨.handled, _, h.1, h.2.turned_of_editing hwidth hother, nofun⟩
    · refine .of_eq (hrun.trans (if_neg houtcome)) ⟨answer.1, [], rfl, ?_, fun _ => rfl⟩
      exact .of_editing hs hother (happlies.buffer_eq houtcome)

/-- The bell may be rung for an action that could not be performed. -/
theorem performOrBeep_turned (hs : s.OnScreen widths) (action : Action) (times : Nat) :
    Ends (performOrBeep action times) terminal s fun _ s' => ∃ requests,
      s.Turned widths (some action) requests s' := by
  refine (perform_turned hterminal hwide hs action times).bind (fun outcome s₁ h => ?_)
    fun e s₁ h => absurd h.choose_spec.choose_spec.1 nofun
  obtain ⟨_, requests, hr, hturned, hrequests⟩ := h
  cases hr
  refine .ite (fun hnot => ?_) fun _ => .of_eq rfl ⟨requests, hturned⟩
  rw [hrequests hnot] at hturned
  have hbell : (do request .beep; pure outcome : SessionM Outcome) terminal s₁ =
      (.ok outcome, { s₁ with history := s₁.history ++ [.granted .beep] }) := by
    rw [bind_apply, request_of_reliable hterminal.reliable]
    rfl
  exact .of_eq hbell ⟨[.beep], hturned.beep⟩

end

end SessionM

/-! ## Calls -/

/-- Whether the call goes on with an input whose editing has begun. -/
def Call.goesOn : Call → Bool
  | .key _ | .text _ _ | .action _ _ | .redraw | .resize => true
  | _ => false

namespace Session

variable {widths : Nat → Prop} {terminal : Terminal} {s s' : Session} {call : Call}

/-- What a call takes in before it does its action is no part of what is shown. -/
theorem Turned.of_buffer_eq {e : Editing} {action? : Option Action} {requests : List Request}
    (h : Turned widths { s with editing := e } action? requests s')
    (hbuffer : e.buffer = s.editing.buffer) : s.Turned widths action? requests s' where
  prompts := h.prompts
  mark := h.mark
  highlighter := h.highlighter
  onScreen := h.onScreen
  history := h.history
  turn := by
    cases h.turn with
    | kept haction hbuffer' hwidth hrow hrequests =>
      exact .kept haction (hbuffer'.trans hbuffer) hwidth hrow hrequests
    | drawn haction hasked => exact .drawn haction hasked
    | cleared haction => exact .cleared haction
    | aborted haction =>
      rw [rows_of_buffer_eq hbuffer]
      exact .aborted haction

section

variable (hterminal : terminal.Serves widths) (hwide : ∀ w, widths w → minDrawWidth ≤ w)
include hterminal hwide

/-- A key, a text or an action takes a turn. -/
theorem after_turned_of_isInput (hs : s.OnScreen widths) (hcall : call.isInput = true) :
    ∃ requests, s.Turned widths ((call.action? s.editing.keyboard).map Prod.fst) requests
      (s.after terminal call) := by
  cases haction : call.action? s.editing.keyboard with
  | none =>
    obtain ⟨outcome, -, hrun : call.run terminal s = _⟩ := Call.run_of_none hcall haction
    have hagrees : s.editing.Agrees (s.editing.received call) := by
      refine s.editing.received_agrees ?_ ?_
      · rintro text rfl
        exact absurd hcall nofun
      · rintro rfl
        exact absurd hcall nofun
    unfold after
    rw [hrun]
    exact ⟨[], .of_editing hs (fun _ _ => nofun) hagrees.buffer⟩
  | some answer =>
    obtain ⟨action, times⟩ := answer
    have hbuffer := (Editing.received_agrees_of_action? haction).buffer
    have hreceive : OnScreen widths (s.receive call) := hs.of_buffer_eq hbuffer
    have hperform : Ends (SessionM.perform action times) terminal (s.receive call) fun _ s' =>
        ∃ requests, (s.receive call).Turned widths (some action) requests s' := by
      refine (perform_turned hterminal hwide hreceive action times).mono fun _ _ h => ?_
      obtain ⟨_, requests, -, hturned, -⟩ := h
      exact ⟨requests, hturned⟩
    have hcall : Ends (call.perform action times) terminal (s.receive call) fun _ s' =>
        ∃ requests, (s.receive call).Turned widths (some action) requests s' := by
      cases call with
      | key key => exact performOrBeep_turned hterminal hwide hreceive action times
      | _ => exact hperform
    have hrun : Ends call.run terminal s fun _ s' =>
        ∃ requests, (s.receive call).Turned widths (some action) requests s' :=
      .of_apply_eq (Call.run_of_action? haction) (hcall.map fun _ _ h => h)
    obtain ⟨requests, hturned⟩ := hrun
    exact ⟨requests, hturned.of_buffer_eq hbuffer⟩

/-- To draw the input again, for a screen of another width or not, is one drawing in place. -/
theorem after_redraw (hs : s.OnScreen widths) (hcall : call = .redraw ∨ call = .resize) :
    ∃ asked, (asked = [] ∨ asked = [.width]) ∧ s.Turned widths none
      (asked ++ (s.after terminal call).update false s.cursorRow) (s.after terminal call) := by
  rcases hcall with rfl | rfl
  · have hdrawn : Ends Call.redraw.run terminal s fun _ s' => s.Drawn widths false s' :=
      ((draw_drawn hterminal hwide (fun _ => hs.width) false).mono fun _ _ h => h.2).bind_pure _
    refine ⟨[], .inl rfl, ?_⟩
    exact hdrawn.turned_of_editing (e := s.editing) (hs.width_ne_zero hwide) fun _ _ => nofun
  · have hdrawn : Ends Call.resize.run terminal s fun _ s' =>
        Drawn widths false { s with width := 0 } s' := by
      refine Ends.bind_pure ?_ _
      refine .modify_bind ((draw_drawn hterminal hwide ?_ false).mono fun _ _ h => h.2)
      exact fun hne => absurd rfl hne
    exact ⟨[.width], .inr rfl, hdrawn.turned ⟨rfl, rfl, rfl⟩ hdrawn.history
      (.drawn (fun _ _ => nofun) (.inr rfl))⟩

/-- A call that goes on with an input takes a turn. -/
theorem after_turned (hs : s.OnScreen widths) (hcall : call.goesOn = true) :
    ∃ requests, s.Turned widths ((call.action? s.editing.keyboard).map Prod.fst) requests
      (s.after terminal call) := by
  have hredraw : call = .redraw ∨ call = .resize → ∃ requests,
      s.Turned widths none requests (s.after terminal call) := by
    intro hcall
    obtain ⟨asked, -, hturned⟩ := after_redraw hterminal hwide hs hcall
    exact ⟨_, hturned⟩
  cases call with
  | key key => exact after_turned_of_isInput hterminal hwide hs rfl
  | text text withinPaste => exact after_turned_of_isInput hterminal hwide hs rfl
  | action action times => exact after_turned_of_isInput hterminal hwide hs rfl
  | redraw => exact hredraw (.inl rfl)
  | resize => exact hredraw (.inr rfl)
  | setText text => exact absurd hcall nofun
  | setPrompt text => exact absurd hcall nofun
  | reset => exact absurd hcall nofun
  | start => exact absurd hcall nofun
  | finish => exact absurd hcall nofun
  | screen => exact absurd hcall nofun

/-- Once it is set up, the terminal shows the input. -/
theorem after_start (hwidth : s.width ≠ 0 → widths s.width) :
    let s' := s.after terminal .start
    s'.OnScreen widths ∧ s'.history = s.history ++
      (.write [.barCursor, .enablePaste] :: s.widthRequests ++
        s'.update false s.cursorRow).map .granted := by
  let s₁ : Session :=
    { s with history := s.history ++ [.granted (.write [.barCursor, .enablePaste])] }
  have hdrawn : Ends Call.start.run terminal s fun _ s' => s₁.Drawn widths false s' := by
    have hredraw := draw_drawn (s := s₁) hterminal hwide hwidth false
    have hstart : SessionM.start terminal s = redraw terminal s₁ := by
      unfold SessionM.start
      rw [bind_apply, request_of_reliable hterminal.reliable]
    exact Ends.bind_pure (.of_apply_eq hstart (hredraw.mono fun _ _ h => h.2)) _
  refine ⟨hdrawn.onScreen, hdrawn.history.trans ?_⟩
  rw [List.cons_append, List.map_cons]
  exact List.append_assoc _ [_] _

end

/-- The terminal's cursor is left below an input that is finished. -/
theorem after_finish (hterminal : terminal.Reliable) (hwidth : s.width ≠ 0) :
    s.after terminal .finish =
      { s with
        cursorRow := 0
        history := s.history ++ [.granted (.write
          (wayBelow s.rows ++ [.defaultCursor, .disablePaste, .newLine] ++
            if s.mark then [.print outputMarker] else []))] } := by
  unfold after Call.run finish
  rw [belowInput_eq]
  simp only [bind_assoc, pure_bind]
  rw [bind_apply, screen_of_ne hwidth]
  dsimp only
  rw [bind_apply, get_apply]
  dsimp only
  rw [bind_apply, request_of_reliable hterminal]
  rfl

end Session

end LineEditor
