import LineEditor.Proofs.Session.Requests

/-!
# How programs on a session are composed

All that a session does comes down to a few parts: it reads and changes its own state, asks for the
width of the screen, makes a plain request, or draws rows within an update of the screen.
`SessionM.Composed` says of a program that it consists of such parts, so that a property of programs
needs one case for each part and one for their sequence.

* Plain requests (`Request.IsPlain`), and the update that draws rows (`TerminalM.update`).
* The parts (`SessionM.Composed`), and the programs of a session, each with its composition.
* The result.  `Call.run_composed` says that every call is composed of these parts.
-/

namespace LineEditor

/-! ## Requests outside updates -/

/-- Whether the request may be made while no update is under way: it begins and ends none, and it
clears nothing of the screen. -/
def Request.IsPlain : Request → Prop
  | .write commands => .clearBelow ∉ commands
  | .beep | .width => True
  | .beginUpdate | .endUpdate | .clear => False

/-- Whoever draws rows clears the screen from the first one on. -/
theorem clearBelow_mem_frame (rows : List Row) (style : DrawStyle) :
    .clearBelow ∈ frame rows style := by
  simp [frame]

/-- The update of the screen that draws rows, on a cleared screen if asked for. -/
def TerminalM.update (clearFirst : Bool) (rows : List Row) (style : DrawStyle) : TerminalM Nat :=
  .atomically do
    if clearFirst then
      TerminalM.request .clear
    draw rows style

namespace SessionM

/-! ## Parts -/

/-- The program consists of parts that have nothing to do with the history, of plain requests, and
of updates that draw rows. -/
inductive Composed : {α : Type} → SessionM α → Prop
  | pure {α : Type} (a : α) : Composed (pure a)
  | look {α : Type} {f : Session → SessionM α} (hf : ∀ s, Composed (f s))
      (hhistory : ∀ s history, f { s with history } = f s) : Composed (get >>= f)
  | change (f : Session → Session)
      (hhistory : ∀ s history, f { s with history } = { f s with history }) : Composed (modify f)
  | misuse {α : Type} (misuse : Misuse) : Composed (throw (.misuse misuse) : SessionM α)
  | askWidth : Composed (onTerminal .askWidth)
  | request (r : Request) (hr : r.IsPlain) : Composed (request r)
  | update (clearFirst : Bool) (rows : List Row) (style : DrawStyle) :
      Composed (onTerminal (.update clearFirst rows style))
  | bind {α β : Type} {x : SessionM α} {f : α → SessionM β} (hx : Composed x)
      (hf : ∀ a, Composed (f a)) : Composed (x >>= f)

/-- A change that has nothing to do with the history keeps it. -/
theorem history_change {f : Session → Session}
    (h : ∀ s history, f { s with history } = { f s with history }) (s : Session) :
    (f s).history = s.history :=
  calc (f s).history = ({ f s with history := s.history } : Session).history :=
        congrArg Session.history (h s s.history)
    _ = s.history := rfl

theorem Composed.ite {α : Type} {c : Prop} [Decidable c] {x y : SessionM α} (hx : Composed x)
    (hy : Composed y) : Composed (if c then x else y) := by
  split
  · exact hx
  · exact hy

theorem Composed.modify_bind {α : Type} {g : Session → Session} {f : PUnit → SessionM α}
    (hg : ∀ s history, g { s with history } = { g s with history }) (hf : Composed (f ⟨⟩)) :
    Composed (modify g >>= f) :=
  (Composed.change g hg).bind fun _ => hf

theorem Composed.map {α β : Type} {x : SessionM α} (hx : Composed x) (f : α → β) :
    Composed (f <$> x) := by
  rw [← bind_pure_comp]
  exact hx.bind fun a => .pure (f a)

/-! ## Drawing -/

theorem composed_screen : Composed screen := by
  have hensure : Composed ensureWidth := by
    refine .look (fun _ => .ite ?_ (.pure _)) fun _ _ => rfl
    exact Composed.askWidth.bind fun _ => .change _ fun _ _ => rfl
  exact hensure.bind fun _ => .look (fun _ => .pure _) fun _ _ => rfl

theorem composed_draw (clearFirst : Bool) : Composed (draw clearFirst) := by
  refine composed_screen.bind fun rows => .look (fun s => ?_) fun _ _ => rfl
  exact (Composed.update clearFirst rows _).bind fun _ => .change _ fun _ _ => rfl

theorem composed_resize : Composed resize :=
  .modify_bind (fun _ _ => rfl) (composed_draw false)

/-- The commands that go down from the cursor to the last row. -/
def wayBelow (rows : List Row) : List Command :=
  if rowsBelowCursor rows > 0 then [.down (rowsBelowCursor rows)] else []

theorem belowInput_eq : belowInput = screen >>= fun rows => pure (wayBelow rows) :=
  rfl

theorem clearBelow_notMem_wayBelow (rows : List Row) : .clearBelow ∉ wayBelow rows := by
  unfold wayBelow
  split <;> simp [Command.down]

theorem composed_start : Composed start :=
  (Composed.request _ (by simp [Request.IsPlain])).bind fun _ => composed_draw false

theorem composed_finish : Composed finish := by
  unfold finish
  rw [belowInput_eq]
  simp only [bind_assoc, pure_bind]
  refine composed_screen.bind fun rows => .look (fun s => ?_) fun _ _ => rfl
  have hplain : Request.IsPlain (.write
      (wayBelow rows ++ [.defaultCursor, .disablePaste, .newLine] ++
        if s.mark then [.print outputMarker] else [])) := by
    have hbelow := clearBelow_notMem_wayBelow rows
    simp only [Request.IsPlain, List.mem_append, not_or]
    refine ⟨⟨hbelow, by simp⟩, ?_⟩
    split <;> simp
  exact (Composed.request _ hplain).bind fun _ => .change _ fun _ _ => rfl

/-! ## Actions -/

theorem composed_edit (change : Editing → Except Misuse (Bool × Editing)) :
    Composed (edit change) := by
  refine .look (fun s => ?_) fun _ _ => rfl
  cases change s.editing with
  | ok answer =>
    show Composed (modify (fun s => { s with editing := answer.2 }) >>= fun _ => pure answer.1)
    exact .modify_bind (fun _ _ => rfl) (.pure answer.1)
  | error misuse => exact .misuse misuse

theorem composed_moveVertically (amount : Int) : Composed (moveVertically amount) := by
  refine composed_screen.bind fun rows => ?_
  cases verticalTarget rows amount with
  | none => exact .pure false
  | some target => exact composed_edit _

theorem composed_abort (times : Nat) : Composed (apply .abortLine times) := by
  unfold apply
  rw [belowInput_eq]
  simp only [bind_assoc, pure_bind]
  refine composed_screen.bind fun rows => ?_
  have hplain : Request.IsPlain (.write (wayBelow rows ++ [.newLine])) := by
    have hbelow := clearBelow_notMem_wayBelow rows
    simp only [Request.IsPlain, List.mem_append, not_or]
    exact ⟨hbelow, by simp⟩
  exact (Composed.request _ hplain).bind fun _ => .modify_bind (fun _ _ => rfl) (.pure _)

theorem composed_apply (action : Action) (times : Nat) : Composed (apply action times) := by
  have hedit : ∀ action, Composed (do
      let done ← edit fun e => e.act times action
      pure (outcomeOf done, true)) :=
    fun action => (composed_edit _).bind fun _ => .pure _
  cases action with
  | cursorUp => exact (composed_moveVertically _).bind fun _ => .pure _
  | cursorDown => exact (composed_moveVertically _).bind fun _ => .pure _
  | acceptInput => exact .pure _
  | endInput => exact .look (fun _ => .ite (.pure _) (.pure _)) fun _ _ => rfl
  | abortLine => exact composed_abort times
  | clearScreen => exact (composed_draw true).bind fun _ => .pure _
  | _ => exact hedit _

theorem composed_perform (action : Action) (times : Nat) : Composed (perform action times) := by
  refine (composed_apply action times).bind fun answer => ?_
  obtain ⟨outcome, remembered⟩ := answer
  have hdraw : Composed
      (if action ≠ .clearScreen then do redraw; pure outcome else pure outcome) :=
    .ite ((composed_draw false).bind fun _ => .pure _) (.pure _)
  exact .ite (.ite (.modify_bind (fun _ _ => rfl) hdraw) hdraw) (.pure _)

theorem composed_performOrBeep (action : Action) (times : Nat) :
    Composed (performOrBeep action times) := by
  refine (composed_perform action times).bind fun outcome => ?_
  exact .ite ((Composed.request .beep trivial).bind fun _ => .pure _) (.pure _)

/-! ## Keys and texts -/

theorem composed_onKey (key : Key) : Composed (onKey key) := by
  refine .look (fun s => ?_) fun _ _ => rfl
  rcases s.editing.keyboard.resolve key with ⟨meaning, keyboard⟩
  refine .modify_bind (fun _ _ => rfl) ?_
  cases meaning with
  | action action times => exact composed_performOrBeep action times
  | text text times => exact .modify_bind (fun _ _ => rfl) (composed_performOrBeep .addText times)
  | pending => exact .pure _
  | ignored => exact .pure _
  | unbound => exact .pure _

theorem composed_onText (text : Text) (withinPaste : Bool) :
    Composed (onText text withinPaste) := by
  refine .look (fun s => .ite ?_ ?_) fun _ _ => rfl
  · exact .modify_bind (fun _ _ => rfl) (.pure _)
  · refine .modify_bind (fun _ _ => rfl) ?_
    exact .modify_bind (fun _ _ => rfl) (composed_perform .addText 1)

end SessionM

open SessionM

/-- Every call consists of parts that have nothing to do with the history, of plain requests, and of
updates that draw rows. -/
theorem Call.run_composed (call : Call) : Composed call.run := by
  have hdone : ∀ {x : SessionM Unit}, Composed x → Composed (x >>= fun _ => pure Answer.done) :=
    fun hx => hx.bind fun _ => .pure _
  cases call with
  | key key => exact (composed_onKey key).map _
  | text text withinPaste => exact (composed_onText text withinPaste).map _
  | action action times => exact (composed_perform action times).map _
  | setText text => exact hdone (.change _ fun _ _ => rfl)
  | setPrompt text => exact hdone (.change _ fun _ _ => rfl)
  | reset => exact hdone (.change _ fun _ _ => rfl)
  | start => exact hdone composed_start
  | finish => exact hdone composed_finish
  | redraw => exact hdone (composed_draw false)
  | resize => exact hdone composed_resize
  | screen => exact composed_screen.map _

end LineEditor
