import LineEditor.Proofs.Layout.Cursor
import LineEditor.Proofs.Screen
import LineEditor.Proofs.Session.Turns

/-!
# The editor knows where the terminal's cursor is

The editor is never told where the terminal's cursor is: it only keeps the row of the input on which it
has left it, and moves it by rows from there.  As long as nothing fails that row is right.

* The place of the cursor.  `exists_cursorCell` finds it in the layout, `Screen.ShowsCursor` says that
  the terminal has it there, and `showsCursor_draw` that drawing puts it there.
* Turns.  `Screen.firstRow` is the row from which a call draws the input, and `follows_of_turned` says
  that the call clears the screen from that row and no other.
* Runs.  `Lifecycle` says in which order calls are made, `Stands` what holds between them, and
  `cursor_is_tracked` what each of them does to the screen.

## Two ways to find a row

A drawing goes up by the row that was kept when the input was drawn last.  To finish an input or to give
it up is to go down by the rows below the cursor, and these are counted in the layout of the input as it
is now.  Both find the row that they look for only while the row kept is the one of the cursor in that
layout, so `ShowsCursor` has this in it, beside the place of the terminal's cursor.
-/

namespace LineEditor

open SessionM (wayBelow)

/-- The widths at which rows are drawn and columns fit a command. -/
def IsDrawable (width : Nat) : Prop := 4 ≤ width ∧ width ≤ 65535

/-! ## The place of the cursor -/

/-- The row of a layout with the number `cursorRow` has the cursor, in the cell `cursorCell`. -/
theorem exists_cursorCell {lines : List Text} {cursor : Position} (h : cursor.InLines lines)
    (prompts : Prompts) (width : Nat) :
    let rows := layout lines cursor prompts width
    ∃ row place, rows[cursorRow rows]? = some row ∧ row.cursor = some place ∧
      cursorCell rows = place.cell ∧ place.cell < max width 1 := by
  obtain ⟨-, before, row, after, place, -, hlayout, hnone, -, hshows, -⟩ :=
    exists_row_showsAt h prompts width
  have hbefore : ∀ r ∈ before, r.cursor = none := fun r hr => hnone r (List.mem_append_left _ hr)
  have hcursor : row.cursor = some place := hshows.cursor_eq
  have hrow : cursorRow (before ++ row :: after) = before.length :=
    cursorRow_eq hbefore (by rw [hcursor]; rfl)
  dsimp only
  rw [hlayout, hrow]
  refine ⟨row, place, by simp, hcursor, ?_, hshows.cell_lt⟩
  have hfind : (before ++ row :: after).findSome? Row.cursor = some place := by
    rw [List.findSome?_append, List.findSome?_eq_none_iff.2 hbefore, List.findSome?_cons, hcursor]
    rfl
  rw [cursorCell, hfind]

namespace Session

/-- The input fits the commands that move the cursor. -/
structure Fits (s : Session) : Prop where
  width : IsDrawable s.width
  rows : s.rows.length ≤ 65535

theorem exists_cursor (s : Session) :
    ∃ row place, s.rows[LineEditor.cursorRow s.rows]? = some row ∧ row.cursor = some place ∧
      cursorCell s.rows = place.cell ∧ place.cell < max s.width 1 :=
  exists_cursorCell s.editing.buffer.cursor_inLines s.prompts s.width

theorem cursorRow_lt (s : Session) : LineEditor.cursorRow s.rows < s.rows.length := by
  obtain ⟨row, -, hrow, -⟩ := s.exists_cursor
  exact (List.getElem?_eq_some_iff.1 hrow).1

theorem Fits.cursorCell_le {s : Session} (h : s.Fits) : cursorCell s.rows ≤ 65535 := by
  obtain ⟨-, place, -, -, hcell, hlt⟩ := s.exists_cursor
  have hwidth := h.width.2
  omega

end Session

/-- The commands that an exchange brought to the terminal. -/
def Exchange.commands (x : Exchange) : List Command :=
  if x.reply.isSent then x.request.commands else []

namespace Screen

variable {advance : Text → Nat → Nat} {screen : Screen} {s s' : Session}

/-- The screen after what a history brought to it. -/
def after (advance : Text → Nat → Nat) (screen : Screen) (h : History) : Screen :=
  screen.run advance (h.flatMap Exchange.commands)

theorem after_append (h : History) (requests : List Request) :
    screen.after advance (h ++ requests.map .granted) =
      (screen.after advance h).run advance (requests.flatMap Request.commands) := by
  rw [after, after, List.flatMap_append, run_append, List.flatMap_map]
  rfl

/-- The screen has its cursor where the session has it: so many rows below the first one drawn, and
in the cell in which that row of the input shows it. -/
structure ShowsCursor (screen : Screen) (s : Session) : Prop where
  row : screen.row = screen.top + s.cursorRow
  cursorRow : s.cursorRow = LineEditor.cursorRow s.rows
  column : ∃ row place, s.rows[s.cursorRow]? = some row ∧ row.cursor = some place ∧
    screen.column = place.cell

/-- Drawing the input puts the cursor where the session has it. -/
theorem showsCursor_draw (screen : Screen) (first : Int)
    (h : s.cursorRow = LineEditor.cursorRow s.rows) : (screen.draw s.rows first).ShowsCursor s := by
  obtain ⟨row, place, hrow, hplace, hcell, -⟩ := s.exists_cursor
  refine ⟨?_, h, row, place, ?_, hplace, hcell⟩
  · rw [h]
    rfl
  · rw [h]
    exact hrow

theorem run_frame_of_fits (screen : Screen) (hs : s.Fits) {row : Nat} (hrow : row ≤ 65535) :
    screen.run advance (s.frame row) = screen.draw s.rows (screen.row - row) :=
  run_frame advance screen s.cursorRow_lt hs.rows hs.cursorCell_le hrow

/-- An update draws the input from the row on from which it was drawn before. -/
theorem run_update (hs : s.Fits) {row : Nat} (hrow : row ≤ 65535) :
    screen.run advance ((s.update false row).flatMap Request.commands) =
      screen.draw s.rows (screen.row - row) := by
  have hcommands : (s.update false row).flatMap Request.commands =
      .beginUpdate :: (s.frame row ++ [.endUpdate]) := rfl
  rw [hcommands, run_cons, run_append, exec, run_frame_of_fits screen hs hrow]
  rfl

/-- An update that clears the screen draws the input from its first row on. -/
theorem run_update_cleared (hs : s.Fits) :
    screen.run advance ((s.update true 0).flatMap Request.commands) = screen.draw s.rows 0 := by
  have hcommands : (s.update true 0).flatMap Request.commands =
      [.beginUpdate, .clearAll, .home] ++ (s.frame 0 ++ [.endUpdate]) := rfl
  rw [hcommands, run_append, run_append, run_frame_of_fits _ hs (Nat.zero_le _)]
  rfl

/-- Nothing comes of it on the screen if the width is asked for before. -/
theorem run_asked_update {asked : List Request} (hasked : asked = [] ∨ asked = [.width])
    (hs : s.Fits) {row : Nat} (hrow : row ≤ 65535) :
    screen.run advance ((asked ++ s.update false row).flatMap Request.commands) =
      screen.draw s.rows (screen.row - row) := by
  rw [← run_update hs hrow]
  rcases hasked with rfl | rfl
  · rfl
  · rfl

theorem count_asked_update {asked : List Request} (hasked : asked = [] ∨ asked = [.width])
    {row : Nat} :
    (asked ++ s.update false row).count .beginUpdate = 1 := by
  rcases hasked with rfl | rfl
  · rfl
  · rfl

/-- The way down ends on the last row of the input. -/
theorem run_wayBelow (hscreen : screen.ShowsCursor s) (hrows : s.rows.length ≤ 65535) :
    screen.run advance (wayBelow s.rows) =
      { screen with row := screen.top + (s.rows.length - 1) } := by
  have hbelow : rowsBelowCursor s.rows ≤ Command.maxCount := Nat.le_trans (Nat.sub_le _ _) hrows
  have hlt := s.cursorRow_lt
  unfold wayBelow
  rw [run_down advance screen hbelow, hscreen.row, hscreen.cursorRow]
  simp only [Screen.mk.injEq, and_true]
  unfold rowsBelowCursor
  omega

/-- A line break after the way down leads to the row below the input. -/
theorem run_giveUp (hscreen : screen.ShowsCursor s) (hrows : s.rows.length ≤ 65535) :
    screen.run advance (wayBelow s.rows ++ [.newLine]) =
      { screen with row := screen.top + s.rows.length, column := 0 } := by
  rw [run_append, run_wayBelow hscreen hrows]
  simp only [run_cons, run_nil, exec, Screen.mk.injEq, and_true]
  omega

theorem exists_run_finish (hscreen : screen.ShowsCursor s) (hrows : s.rows.length ≤ 65535) :
    ∃ column, screen.run advance (wayBelow s.rows ++ [.defaultCursor, .disablePaste, .newLine] ++
        if s.mark then [.print outputMarker] else []) =
      { screen with row := screen.top + s.rows.length, column } := by
  rw [run_append, run_append, run_wayBelow hscreen hrows]
  simp only [run_cons, run_nil, exec]
  split
  · refine ⟨advance outputMarker 0, ?_⟩
    simp only [run_cons, run_nil, exec, Screen.mk.injEq, and_true]
    omega
  · refine ⟨0, ?_⟩
    simp only [run_nil, Screen.mk.injEq, and_true]
    omega

/-! ## Turns -/

/-- The row from which a call with this action draws the input: below all rows of an input that it
gives up, from the first row of a screen that it clears, and otherwise from the row from which the
input was drawn before. -/
def firstRow (screen : Screen) (s : Session) : Option Action → Int
  | some .abortLine => screen.top + s.rows.length
  | some .clearScreen => 0
  | _ => screen.top

theorem firstRow_eq_top {action? : Option Action}
    (h : ∀ action ∈ [Action.abortLine, .clearScreen], action? ≠ some action) :
    screen.firstRow s action? = screen.top := by
  unfold firstRow
  split
  · exact absurd rfl (h _ (by decide))
  · exact absurd rfl (h _ (by decide))
  · rfl

/-- From `before` to `after` the requests have kept the terminal's cursor where the session has it.  In
each update the screen was cleared from the row `first` on, from which the input is drawn. -/
structure Follows (before after : Screen) (s' : Session) (requests : List Request) (first : Int) :
    Prop where
  cursor : after.ShowsCursor s'
  top : after.top = first
  cleared : after.cleared = before.cleared ++ List.replicate (requests.count .beginUpdate) first

/-- A turn keeps the terminal's cursor where the session has it. -/
theorem follows_of_turned {widths : Nat → Prop} {action? : Option Action} {requests : List Request}
    (h : s.Turned widths action? requests s') (hscreen : screen.ShowsCursor s)
    (hrows : s.rows.length ≤ 65535) (hs' : s'.Fits) :
    Follows screen (screen.run advance (requests.flatMap Request.commands)) s' requests
      (screen.firstRow s action?) := by
  have hcursorRow : s'.cursorRow = LineEditor.cursorRow s'.rows := h.onScreen.cursorRow
  have hprevious : s.cursorRow ≤ 65535 := by
    have hlt := s.cursorRow_lt
    rw [← hscreen.cursorRow] at hlt
    omega
  have hback : screen.row - s.cursorRow = screen.top := by
    have hrow := hscreen.row
    omega
  cases h.turn with
  | kept haction hbuffer hwidth hrow hrequests =>
    have hrows' : s'.rows = s.rows := h.rows_eq hbuffer hwidth
    have hcursor : screen.ShowsCursor s' := by
      refine ⟨?_, hcursorRow, ?_⟩
      · rw [hrow]
        exact hscreen.row
      · rw [hrow, hrows']
        exact hscreen.column
    rcases hrequests with rfl | rfl
    · exact ⟨hcursor, (firstRow_eq_top haction).symm, (List.append_nil _).symm⟩
    · exact ⟨hcursor, (firstRow_eq_top haction).symm, (List.append_nil _).symm⟩
  | @drawn asked _ haction hasked =>
    rw [run_asked_update hasked hs' hprevious, hback, firstRow_eq_top haction]
    refine ⟨showsCursor_draw screen _ hcursorRow, rfl, ?_⟩
    rw [count_asked_update hasked]
    rfl
  | cleared haction =>
    rw [run_update_cleared hs', haction]
    exact ⟨showsCursor_draw screen 0 hcursorRow, rfl, rfl⟩
  | aborted haction =>
    have hrun : screen.run advance
        ((.write (wayBelow s.rows ++ [.newLine]) :: s'.update false 0).flatMap Request.commands) =
          screen.draw s'.rows (screen.top + s.rows.length) := by
      rw [List.flatMap_cons, Request.commands, run_append, run_giveUp hscreen hrows,
        run_update hs' (Nat.zero_le _)]
      simp [draw]
    rw [hrun, haction]
    exact ⟨showsCursor_draw screen _ hcursorRow, rfl, rfl⟩

end Screen

/-! ## Runs -/

/-- Where a host is with an input. -/
inductive Phase where
  /-- A new input is about to begin. -/
  | idle
  | editing
  /-- The last input has ended, and is not yet given back. -/
  | ended

/-- The calls that a host makes in a phase, each with the phase that it leads to. -/
inductive Phase.Next : Phase → Call → Phase → Prop
  | start : Next .idle .start .editing
  | goesOn {call : Call} (hcall : call.goesOn = true) : Next .editing call .editing
  | finish : Next .editing .finish .ended
  | reset : Next .ended .reset .idle

/-- Calls in the order in which a host makes them, whatever the terminals do. -/
inductive Lifecycle : Phase → List (Terminal × Call) → Prop
  | nil {phase : Phase} : Lifecycle phase []
  | cons {phase phase' : Phase} {terminal : Terminal} {call : Call} {calls : List (Terminal × Call)}
      (hnext : phase.Next call phase') (h : Lifecycle phase' calls) :
      Lifecycle phase ((terminal, call) :: calls)

namespace Session

/-- What a call has asked of the terminal. -/
def Step.requests (step : Step) : List Request :=
  step.before.history.requestsSince step.after.history

/-- What a call does to the screen and its cursor. -/
inductive Step.Tracks (step : Step) (before after : Screen) : Prop
  /-- A new input is drawn from the row on that the cursor is on. -/
  | start (hcall : step.call = .start)
      (h : Screen.Follows before after step.after step.requests before.row)
      (hdrawn : step.requests.count .beginUpdate = 1)
  /-- The input is drawn from its first row on, if it is drawn. -/
  | goesOn (hcall : step.call.goesOn = true)
      (h : Screen.Follows before after step.after step.requests
        (before.firstRow step.before (step.action?.map Prod.fst)))
      (hdrawn : step.call = .redraw ∨ step.call = .resize → step.requests.count .beginUpdate = 1)
  /-- The cursor is left on the row below the input, and nothing is drawn. -/
  | finish (hcall : step.call = .finish) (hrow : after.row = before.top + step.before.rows.length)
      (hcleared : after.cleared = before.cleared)
  | reset (hcall : step.call = .reset) (h : after = before)

/-- What holds of a session and its screen between two calls. -/
def Stands (screen : Screen) (s : Session) : Phase → Prop
  | .idle => s.cursorRow = 0 ∧ (s.width ≠ 0 → IsDrawable s.width)
  | .editing => s.OnScreen IsDrawable ∧ screen.ShowsCursor s ∧ s.rows.length ≤ 65535
  | .ended => IsDrawable s.width

theorem minDrawWidth_le {width : Nat} (h : IsDrawable width) : minDrawWidth ≤ width :=
  h.1

theorem Step.requests_eq {step : Step} {requests : List Request}
    (h : step.after.history = step.before.history ++ requests.map .granted) :
    step.requests = requests := by
  rw [Step.requests, h, History.requestsSince, List.drop_left, List.map_map]
  exact List.map_id requests

variable {advance : Text → Nat → Nat} {screen : Screen} {step : Step}

/-- A new input is drawn where the cursor is. -/
theorem Step.stands_start (hcall : step.call = .start) (hterminal : step.terminal.Serves IsDrawable)
    (hs : Stands (screen.after advance step.before.history) step.before .idle)
    (hrows : step.after.rows.length ≤ 65535) :
    Stands (screen.after advance step.after.history) step.after .editing ∧
      step.Tracks (screen.after advance step.before.history)
        (screen.after advance step.after.history) := by
  obtain ⟨hcursor, hwidth⟩ := hs
  have hstart : step.after = step.before.after step.terminal .start := by rw [Step.after, hcall]
  obtain ⟨hscreen, hhistory⟩ := after_start hterminal (fun _ => minDrawWidth_le) hwidth
  rw [← hstart] at hscreen hhistory
  rw [hcursor] at hhistory
  have hrequests := Step.requests_eq hhistory
  generalize hbefore : screen.after advance step.before.history = before
  have hasked := step.before.widthRequests_cases
  have hfits : step.after.Fits := ⟨hscreen.width, hrows⟩
  have hafter : screen.after advance step.after.history =
      before.draw step.after.rows before.row := by
    have hdraw : before.run advance
        ((step.before.widthRequests ++ step.after.update false 0).flatMap Request.commands) =
          before.draw step.after.rows before.row := by
      rw [Screen.run_asked_update hasked hfits (Nat.zero_le _)]
      exact congrArg _ (Int.sub_zero _)
    rw [hhistory, Screen.after_append, hbefore, ← hdraw]
    rfl
  have hcount : step.requests.count .beginUpdate = 1 := by
    rw [hrequests, ← Screen.count_asked_update hasked]
    rfl
  have hshows : (before.draw step.after.rows before.row).ShowsCursor step.after :=
    Screen.showsCursor_draw before before.row hscreen.cursorRow
  rw [hafter]
  refine ⟨⟨hscreen, hshows, hrows⟩, .start hcall ⟨hshows, rfl, ?_⟩ hcount⟩
  rw [hcount]
  rfl

/-- A call that goes on with an input keeps the cursor where the session has it. -/
theorem Step.stands_goesOn (hcall : step.call.goesOn = true)
    (hterminal : step.terminal.Serves IsDrawable)
    (hs : Stands (screen.after advance step.before.history) step.before .editing)
    (hrows : step.after.rows.length ≤ 65535) :
    Stands (screen.after advance step.after.history) step.after .editing ∧
      step.Tracks (screen.after advance step.before.history)
        (screen.after advance step.after.history) := by
  obtain ⟨hscreen, hshows, hrowsBefore⟩ := hs
  obtain ⟨requests, hturned, hdrawn⟩ : ∃ requests, step.before.Turned IsDrawable
      (step.action?.map Prod.fst) requests step.after ∧
        (step.call = .redraw ∨ step.call = .resize → requests.count .beginUpdate = 1) := by
    by_cases hredraw : step.call = .redraw ∨ step.call = .resize
    · obtain ⟨asked, hasked, hturned⟩ :=
        after_redraw hterminal (fun _ => minDrawWidth_le) hscreen hredraw
      have haction : step.action?.map Prod.fst = none := by
        rw [Step.action?]
        rcases hredraw with hcall | hcall
        · rw [hcall]
          rfl
        · rw [hcall]
          rfl
      rw [haction]
      exact ⟨_, hturned, fun _ => Screen.count_asked_update hasked⟩
    · obtain ⟨requests, hturned⟩ :=
        after_turned hterminal (fun _ => minDrawWidth_le) hscreen hcall
      exact ⟨requests, hturned, fun h => absurd h hredraw⟩
  have hrequests := Step.requests_eq hturned.history
  have hfits : step.after.Fits := ⟨hturned.onScreen.width, hrows⟩
  have hfollows : Screen.Follows _ (Screen.run advance _ _) step.after requests _ :=
    Screen.follows_of_turned hturned hshows hrowsBefore hfits
  rw [← Screen.after_append, ← hturned.history, ← hrequests] at hfollows
  rw [← hrequests] at hdrawn
  exact ⟨⟨hturned.onScreen, hfollows.cursor, hrows⟩, .goesOn hcall hfollows hdrawn⟩

/-- An input that is finished leaves the cursor on the row below it. -/
theorem Step.stands_finish (hcall : step.call = .finish)
    (hterminal : step.terminal.Serves IsDrawable)
    (hs : Stands (screen.after advance step.before.history) step.before .editing) :
    Stands (screen.after advance step.after.history) step.after .ended ∧
      step.Tracks (screen.after advance step.before.history)
        (screen.after advance step.after.history) := by
  obtain ⟨hscreen, hshows, hrows⟩ := hs
  have hwidth : step.before.width ≠ 0 := hscreen.width_ne_zero fun _ => minDrawWidth_le
  have hafter := after_finish hterminal.reliable hwidth
  rw [← hcall] at hafter
  have hhistory : step.after.history = step.before.history ++ ([.write
      (wayBelow step.before.rows ++ [.defaultCursor, .disablePaste, .newLine] ++
        if step.before.mark then [.print outputMarker] else [])] : List Request).map .granted :=
    congrArg Session.history hafter
  obtain ⟨column, hrun⟩ : ∃ column, screen.after advance step.after.history =
      { screen.after advance step.before.history with
        row := (screen.after advance step.before.history).top + step.before.rows.length
        column } := by
    rw [hhistory, Screen.after_append, List.flatMap_singleton]
    exact Screen.exists_run_finish hshows hrows
  rw [hrun]
  refine ⟨?_, .finish hcall rfl rfl⟩
  show IsDrawable step.after.width
  rw [Step.after, hafter]
  exact hscreen.width

/-- What is between two calls stays so, and each call does to the screen what it should. -/
theorem Step.stands_next {phase phase' : Phase} (hnext : phase.Next step.call phase')
    (hterminal : step.terminal.Serves IsDrawable)
    (hs : Stands (screen.after advance step.before.history) step.before phase)
    (hrows : step.after.rows.length ≤ 65535) :
    Stands (screen.after advance step.after.history) step.after phase' ∧
      step.Tracks (screen.after advance step.before.history)
        (screen.after advance step.after.history) := by
  generalize hcall : step.call = call at hnext
  cases hnext with
  | start => exact step.stands_start hcall hterminal hs hrows
  | goesOn hgoesOn => exact step.stands_goesOn (hcall ▸ hgoesOn) hterminal hs hrows
  | finish => exact step.stands_finish hcall hterminal hs
  | reset =>
    have hafter : step.after = step.before.reset := by
      rw [Step.after, hcall]
      rfl
    rw [hafter]
    exact ⟨⟨rfl, fun _ => hs⟩, .reset hcall rfl⟩

/-- In a run in the order of a lifecycle that keeps to rows that a command can count. -/
theorem Stands.tracks {phase : Phase} {s : Session} {calls : List (Terminal × Call)}
    (hcalls : Lifecycle phase calls) (hs : Stands (screen.after advance s.history) s phase)
    (hterminals : ∀ call ∈ calls, call.1.Serves IsDrawable)
    (hrows : ∀ step ∈ s.steps calls, step.after.rows.length ≤ 65535) :
    ∀ step ∈ s.steps calls, step.Tracks (screen.after advance step.before.history)
      (screen.after advance step.after.history) := by
  induction hcalls generalizing s with
  | nil => exact fun _ hmem => absurd hmem List.not_mem_nil
  | @cons phase phase' terminal call calls hnext _ ih =>
    intro step hmem
    let first : Step := { before := s, terminal, call }
    obtain ⟨hafter, hfirst⟩ := first.stands_next hnext (hterminals _ List.mem_cons_self) hs
      (hrows first List.mem_cons_self)
    rcases List.mem_cons.1 hmem with rfl | hmem
    · exact hfirst
    · refine ih hafter (fun call hcall => ?_) (fun step hstep => ?_) step hmem
      · exact hterminals call (List.mem_cons_of_mem _ hcall)
      · exact hrows step (List.mem_cons_of_mem _ hstep)

/-- The editor knows where the terminal's cursor is in every run in the order of a lifecycle, as long
as no request fails, the screen is wide enough and the rows can be counted by a command.  While an
input is edited, the terminal's cursor is as many rows below the first row drawn as the session has
it, which is the row of the cursor in the layout of the input, and in the cell in which that row shows
it.  Each drawing of the input clears the screen from the first row of the one before; and an input
that is finished or given up leaves the cursor on the row below its last one, from which the next input
is drawn. -/
theorem cursor_is_tracked (config : Config) (advance : Text → Nat → Nat) (screen : Screen)
    {calls : List (Terminal × Call)} (hcalls : Lifecycle .idle calls)
    (hterminals : ∀ call ∈ calls, call.1.Serves fun width => 4 ≤ width ∧ width ≤ 65535)
    (hrows : ∀ step ∈ (ofConfig config).steps calls, step.after.rows.length ≤ 65535) :
    ∀ step ∈ (ofConfig config).steps calls,
      step.Tracks (screen.after advance step.before.history)
        (screen.after advance step.after.history) := by
  have hidle : Stands (screen.after advance (ofConfig config).history) (ofConfig config) .idle :=
    ⟨rfl, fun hne => absurd rfl hne⟩
  exact hidle.tracks hcalls hterminals hrows

/-- An input is begun in the middle of a screen, given up and finished, and another one is begun. -/
theorem cursor_is_tracked_over_three_inputs :
    let terminal := Faults.terminal {} 20
    let advance : Text → Nat → Nat := fun text column => column + text.length
    let screen : Screen := { row := 5, column := 3, top := 0, cleared := [] }
    let calls : List (Terminal × Call) :=
      [(terminal, .start), (terminal, .text "one\ntwo".toList false),
       (terminal, .action .cursorUp 1), (terminal, .resize), (terminal, .action .abortLine 1),
       (terminal, .text "three".toList false), (terminal, .finish), (terminal, .reset),
       (terminal, .start)]
    Lifecycle .idle calls ∧
      (∀ call ∈ calls, call.1.Serves fun width => 4 ≤ width ∧ width ≤ 65535) ∧
      (∀ step ∈ (ofConfig {}).steps calls, step.after.rows.length ≤ 65535) ∧
      (screen.after advance ((ofConfig {}).afterAll calls).history).cleared =
        [5, 5, 5, 5, 7, 7, 8] ∧
      ∀ step ∈ (ofConfig {}).steps calls,
        step.Tracks (screen.after advance step.before.history)
          (screen.after advance step.after.history) := by
  intro terminal advance screen calls
  have hcalls : Lifecycle .idle calls :=
    .cons .start <| .cons (.goesOn rfl) <| .cons (.goesOn rfl) <| .cons (.goesOn rfl) <|
      .cons (.goesOn rfl) <| .cons (.goesOn rfl) <| .cons .finish <| .cons .reset <|
      .cons .start .nil
  have hterminal : terminal.Serves fun width => 4 ≤ width ∧ width ≤ 65535 :=
    Faults.serves_terminal (by decide)
  have hterminals : ∀ call ∈ calls, call.1.Serves fun width => 4 ≤ width ∧ width ≤ 65535 := by
    simp [calls, hterminal]
  have hrows : ∀ step ∈ (ofConfig {}).steps calls, step.after.rows.length ≤ 65535 := by
    decide +kernel
  exact ⟨hcalls, hterminals, hrows, by decide +kernel,
    cursor_is_tracked {} advance screen hcalls hterminals hrows⟩

end Session

end LineEditor
