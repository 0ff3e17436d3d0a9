import LineEditor.Proofs.Session.Turns
import LineEditor.Proofs.Session.Updates

/-!
# The screen is up to date

The editor draws only what has changed, and does so in the call that has changed it.  So as long as
nothing fails, the last drawing shows the input as it is now.

* The drawings of a history (`History.drawn`), and those among the exchanges of one call
  (`History.drawnFrom`).
* Turns.  A call that draws nothing has changed nothing that is shown, and any other call draws the
  input once, in one update (`Turned.kept_or_drawsOnce`).
* The result.  `UpToDate` is kept by calls (`UpToDate.after`), and `last_drawing_shows_input` says so
  for every run.
-/

namespace LineEditor

/-! ## Drawings -/

/-- What an exchange has written. -/
def Exchange.written (x : Exchange) : List (List Command) :=
  match x.request with
  | .write commands => if x.reply.isSent then [commands] else []
  | _ => []

namespace History

/-- What was written within updates in the exchanges, if one is under way before them or not. -/
def drawnFrom (updating : Bool) : History → List (List Command)
  | [] => []
  | x :: later =>
    (if updating then x.written else []) ++ drawnFrom (x.updatingAfter updating) later

/-- What was written within updates, from the first exchange on. -/
def drawn (h : History) : List (List Command) := drawnFrom false h

theorem drawn_append (h later : History) :
    drawn (h ++ later) = h.drawn ++ drawnFrom h.updating later := by
  have hfrom : ∀ updating : Bool, drawnFrom updating (h ++ later) = drawnFrom updating h ++
      drawnFrom (h.foldl (fun updating x => x.updatingAfter updating) updating) later := by
    induction h with
    | nil => exact fun _ => rfl
    | cons x h ih =>
      intro updating
      rw [List.cons_append, drawnFrom, ih, drawnFrom, List.append_assoc, List.foldl_cons]
  exact hfrom false

end History

namespace Session

/-! ## Turns -/

/-- The requests draw the input once, in one update. -/
structure DrawsOnce (s : Session) (requests : List Request) : Prop where
  drawn : ∃ row, History.drawnFrom false (requests.map .granted) = [s.frame row]
  begun : requests.count .beginUpdate = 1
  ended : requests.count .endUpdate = 1

variable {widths : Nat → Prop} {s s' : Session} {action? : Option Action}
  {requests : List Request}

theorem drawsOnce_update (s : Session) (clearFirst : Bool) (row : Nat) :
    s.DrawsOnce (s.update clearFirst row) := by
  cases clearFirst with
  | false => exact ⟨⟨row, rfl⟩, rfl, rfl⟩
  | true => exact ⟨⟨row, rfl⟩, rfl, rfl⟩

/-- What is asked for before the update draws nothing. -/
theorem DrawsOnce.cons {r : Request} (h : s.DrawsOnce requests) (hbegin : r ≠ .beginUpdate)
    (hend : r ≠ .endUpdate) : s.DrawsOnce (r :: requests) := by
  cases r with
  | beginUpdate => exact absurd rfl hbegin
  | endUpdate => exact absurd rfl hend
  | _ => exact ⟨h.drawn, h.begun, h.ended⟩

/-- A turn that leaves alone all that is shown draws nothing, and any other draws once. -/
theorem Turned.kept_or_drawsOnce (h : s.Turned widths action? requests s') :
    (s'.editing.buffer = s.editing.buffer ∧
        (∀ action ∈ [Action.abortLine, .clearScreen], action? ≠ some action) ∧
        History.drawnFrom false (requests.map .granted) = [] ∧ ∀ row, s'.frame row = s.frame row) ∨
      s'.DrawsOnce requests := by
  cases h.turn with
  | kept haction hbuffer hwidth hrow hrequests =>
    refine .inl ⟨hbuffer, haction, ?_, fun row => ?_⟩
    · rcases hrequests with rfl | rfl
      · rfl
      · rfl
    · unfold frame style
      rw [h.rows_eq hbuffer hwidth, h.mark, h.highlighter, hwidth]
  | drawn _ hasked =>
    have hupdate := drawsOnce_update s' false s.cursorRow
    rcases hasked with rfl | rfl
    · exact .inr hupdate
    · exact .inr (hupdate.cons nofun nofun)
  | cleared _ => exact .inr (drawsOnce_update s' true 0)
  | aborted _ => exact .inr ((drawsOnce_update s' false 0).cons nofun nofun)

/-! ## Runs -/

/-- The last drawing shows the input as it is. -/
structure UpToDate (s : Session) : Prop where
  onScreen : s.OnScreen (4 ≤ ·)
  inOrder : s.history.InOrder false
  drawn : ∃ row, s.history.drawn.getLast? = some (s.frame row)

variable {terminal : Terminal} {call : Call}

/-- What is drawn once is the last drawing. -/
theorem DrawsOnce.getLast?_drawn (h : s'.DrawsOnce requests) (hs : s.history.InOrder false)
    (hhistory : s'.history = s.history ++ requests.map .granted) :
    ∃ row, s'.history.drawn.getLast? = some (s'.frame row) := by
  obtain ⟨row, hrow⟩ := h.drawn
  refine ⟨row, ?_⟩
  rw [hhistory, History.drawn_append, hs.updating_eq, hrow]
  exact List.getLast?_concat

theorem UpToDate.of_drawsOnce (h : s'.DrawsOnce requests) (hscreen : s'.OnScreen (4 ≤ ·))
    (hs : s.history.InOrder false) (hs' : s'.history.InOrder false)
    (hhistory : s'.history = s.history ++ requests.map .granted) : s'.UpToDate :=
  ⟨hscreen, hs', h.getLast?_drawn hs hhistory⟩

/-- The editing of the first input begins with a drawing of it. -/
theorem upToDate_start (hterminal : terminal.Serves (4 ≤ ·)) (config : Config) :
    ((ofConfig config).after terminal .start).UpToDate := by
  let s := ofConfig config
  obtain ⟨hscreen, hhistory⟩ := after_start (s := s) hterminal (fun _ => id) (absurd rfl)
  have hupdate := drawsOnce_update (s.after terminal .start) false 0
  have hasked := hupdate.cons (r := .width) nofun nofun
  have hdraws := hasked.cons (r := .write [.barCursor, .enablePaste]) nofun nofun
  have hinOrder : s.history.InOrder false := History.inOrder_nil
  have hinOrder' : (s.after terminal .start).history.InOrder false :=
    (Call.run_composed .start).inOrder terminal hinOrder
  exact .of_drawsOnce hdraws hscreen hinOrder hinOrder' hhistory

/-- A call that changes what is shown draws it, and the last drawing shows the input then, too. -/
theorem UpToDate.after (h : s.UpToDate) (hterminal : terminal.Serves (4 ≤ ·))
    (hcall : call.goesOn = true) :
    (s.after terminal call).UpToDate ∧ ∃ requests,
      s.Turned (4 ≤ ·) ((call.action? s.editing.keyboard).map Prod.fst) requests
        (s.after terminal call) := by
  obtain ⟨requests, hturned⟩ := after_turned hterminal (fun _ => id) h.onScreen hcall
  have hinOrder : (s.after terminal call).history.InOrder false :=
    call.run_composed.inOrder terminal h.inOrder
  refine ⟨?_, requests, hturned⟩
  rcases hturned.kept_or_drawsOnce with ⟨-, -, hnone, hframe⟩ | hdraws
  · obtain ⟨row, hrow⟩ := h.drawn
    refine ⟨hturned.onScreen, hinOrder, row, ?_⟩
    rw [hturned.history, History.drawn_append, h.inOrder.updating_eq, hnone, List.append_nil,
      hframe, hrow]
  · exact .of_drawsOnce hdraws hturned.onScreen h.inOrder hinOrder hturned.history

/-- While an input is edited and nothing fails, the last thing that was drawn is the input as it is.
A call that changes the lines or the cursor, gives the input up or clears the screen has drawn the
new state itself, once, in one update. -/
theorem last_drawing_shows_input (config : Config) (first : Terminal)
    (calls : List (Terminal × Call)) (hfirst : first.Serves (4 ≤ ·))
    (hcalls : ∀ call ∈ calls, call.1.Serves (4 ≤ ·) ∧ call.2.goesOn = true) :
    let s := (ofConfig config).after first .start
    (∃ row, s.history.drawn.getLast? = some (s.frame row)) ∧
      ∀ step ∈ s.steps calls,
        (∃ row, step.after.history.drawn.getLast? = some (step.after.frame row)) ∧
        (step.after.editing.buffer.lines ≠ step.before.editing.buffer.lines ∨
            step.after.editing.buffer.cursor ≠ step.before.editing.buffer.cursor ∨
            (∃ times, step.action? = some (.abortLine, times)) ∨
            (∃ times, step.action? = some (.clearScreen, times)) →
          ∃ requests, step.after.history = step.before.history ++ requests.map .granted ∧
            step.after.DrawsOnce requests) := by
  intro s
  have hstart : s.UpToDate := upToDate_start hfirst config
  refine ⟨hstart.drawn, forall_mem_steps hstart calls fun s terminal call hmem hs => ?_⟩
  obtain ⟨hterminal, hcall⟩ := hcalls _ hmem
  obtain ⟨hafter, requests, hturned⟩ := hs.after hterminal hcall
  refine ⟨hafter, hafter.drawn, fun hchange => ⟨requests, hturned.history, ?_⟩⟩
  rcases hturned.kept_or_drawsOnce with ⟨hbuffer, haction, -, -⟩ | hdraws
  · exfalso
    have hnot : ∀ action ∈ [Action.abortLine, .clearScreen], ∀ times,
        call.action? s.editing.keyboard ≠ some (action, times) :=
      fun action hmem times heq => haction action hmem (congrArg (Option.map Prod.fst) heq)
    rcases hchange with hlines | hcursor | ⟨times, habort⟩ | ⟨times, hclear⟩
    · exact hlines (congrArg Buffer.lines hbuffer)
    · exact hcursor (congrArg Buffer.cursor hbuffer)
    · exact hnot _ (by decide) times habort
    · exact hnot _ (by decide) times hclear
  · exact hdraws

/-- An input is typed and given up, and the new one is drawn. -/
theorem last_drawing_shows_input_after_abort :
    let terminal := Faults.terminal {} 40
    let calls : List (Terminal × Call) :=
      [(terminal, .text "ab".toList false), (terminal, .action .abortLine 1)]
    let s := (ofConfig {}).after terminal .start
    terminal.Serves (4 ≤ ·) ∧ (∀ call ∈ calls, call.1.Serves (4 ≤ ·) ∧ call.2.goesOn = true) ∧
      (∃ row, s.history.drawn.getLast? = some (s.frame row)) ∧
      ∀ step ∈ s.steps calls,
        (∃ row, step.after.history.drawn.getLast? = some (step.after.frame row)) ∧
        ∃ requests, step.after.history = step.before.history ++ requests.map .granted ∧
          step.after.DrawsOnce requests := by
  intro terminal calls s
  have hterminal : terminal.Serves (4 ≤ ·) := Faults.serves_terminal (by decide)
  have hcalls : ∀ call ∈ calls, call.1.Serves (4 ≤ ·) ∧ call.2.goesOn = true := by
    simp [calls, hterminal, Call.goesOn]
  obtain ⟨hfirst, hsteps⟩ := last_drawing_shows_input {} terminal calls hterminal hcalls
  refine ⟨hterminal, hcalls, hfirst, fun step hmem => ?_⟩
  obtain ⟨hlast, hdraws⟩ := hsteps step hmem
  refine ⟨hlast, hdraws ?_⟩
  rcases List.mem_cons.1 hmem with rfl | hmem
  · exact .inl (by decide +kernel)
  · rcases List.mem_singleton.1 hmem with rfl
    exact .inr (.inr (.inl ⟨1, rfl⟩))

end Session

end LineEditor
