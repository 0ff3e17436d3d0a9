import LineEditor.Proofs.Session.Composition

/-!
# Reliable terminals

On a terminal that grants every request a program does not fail, and what it asks for can be told
beforehand.

* Programs on a terminal: the parts of a session's programs, each with its result and its requests
  (`request_granted`, `askWidth_granted`, `update_granted`).
* Programs on a session: none fails because of the terminal (`Composed.ne_terminal_error`), so a call
  gives its answer (`Call.run_eq_ok`).
-/

namespace LineEditor

/-- The terminal grants every request. -/
def Terminal.Reliable (terminal : Terminal) : Prop :=
  ∀ n r, terminal.reply n r = .done

/-- A request together with the reply that grants it. -/
def Exchange.granted (r : Request) : Exchange := { request := r, reply := .done }

/-- What is asked for to draw rows: one write, or nothing on a screen that is too narrow. -/
def drawRequests (rows : List Row) (style : DrawStyle) : List Request :=
  if style.width < minDrawWidth then [] else [.write (frame rows style)]

/-- An update in which the given requests are made. -/
def withinUpdate (requests : List Request) : List Request :=
  .beginUpdate :: requests ++ [.endUpdate]

/-- What is asked for in an update that draws rows, on a cleared screen if asked for. -/
def updateRequests (clearFirst : Bool) (rows : List Row) (style : DrawStyle) : List Request :=
  withinUpdate ((if clearFirst then [.clear] else []) ++ drawRequests rows style)

/-- The row that the cursor is on once rows have been drawn. -/
def drawnRow (rows : List Row) (style : DrawStyle) : Nat :=
  if style.width < minDrawWidth then style.previousRow else cursorRow rows

/-! ## Programs on a terminal -/

namespace TerminalM

variable {terminal : Terminal}

theorem request_granted (h : terminal.Reliable) (r : Request) (history : History) :
    request r terminal history = (.ok (), history ++ [.granted r]) := by
  rw [request_apply, h]
  rfl

theorem askWidth_granted (h : terminal.Reliable) (history : History) :
    askWidth terminal history =
      (.ok (terminal.width history.length), history ++ [.granted .width]) := by
  rw [askWidth_apply, request_granted h]
  rfl

theorem draw_granted (h : terminal.Reliable) (rows : List Row) (style : DrawStyle)
    (history : History) :
    draw rows style terminal history =
      (.ok (drawnRow rows style), history ++ (drawRequests rows style).map .granted) := by
  unfold draw drawnRow drawRequests
  split
  · rw [List.map_nil, List.append_nil]
    rfl
  · rw [bind_apply, request_granted h]
    rfl

/-- An update on a reliable terminal does what its body does, between a beginning and an end. -/
theorem atomically_granted {α : Type} (h : terminal.Reliable) {body : TerminalM α} {a : α}
    {history : History} {requests : List Request}
    (hbody : body terminal (history ++ [.granted .beginUpdate]) =
      (.ok a, history ++ [.granted .beginUpdate] ++ requests.map .granted)) :
    atomically body terminal history =
      (.ok a, history ++ (withinUpdate requests).map .granted) := by
  rw [atomically_apply, request_granted h]
  dsimp only
  rw [hbody, request_granted h]
  simp [withinUpdate]

theorem update_granted (h : terminal.Reliable) (clearFirst : Bool) (rows : List Row)
    (style : DrawStyle) (history : History) :
    update clearFirst rows style terminal history =
      (.ok (drawnRow rows style),
        history ++ (updateRequests clearFirst rows style).map .granted) := by
  cases clearFirst with
  | false => exact atomically_granted h (draw_granted h rows style _)
  | true =>
    have hbody : ∀ history : History,
        (request .clear >>= fun _ => draw rows style) terminal history =
          (.ok (drawnRow rows style),
            history ++ (.clear :: drawRequests rows style).map .granted) := by
      intro history
      rw [bind_apply, request_granted h]
      dsimp only
      rw [draw_granted h, List.map_cons, List.append_assoc _ [_], List.singleton_append]
    exact atomically_granted h (hbody _)

end TerminalM

/-! ## Programs on a session -/

namespace SessionM

/-- On a reliable terminal no program fails because of the terminal. -/
theorem Composed.ne_terminal_error {α : Type} {x : SessionM α} (hx : Composed x)
    {terminal : Terminal} (h : terminal.Reliable) (s : Session) (error : TerminalError) :
    (x terminal s).1 ≠ .error (.terminal error) := by
  have hterminal : ∀ {β : Type} {program : TerminalM β} {a : β} {history : History} {s : Session},
      program terminal s.history = (.ok a, history) →
        (onTerminal program terminal s).1 ≠ .error (.terminal error) := by
    intro β program a history s hrun
    show Except.mapError SessionError.terminal (program terminal s.history).1 ≠ _
    rw [hrun]
    exact nofun
  induction hx generalizing s with
  | pure a => exact nofun
  | look hf _ ihf => exact ihf s s
  | change f _ => exact nofun
  | misuse misuse => exact nofun
  | askWidth => exact hterminal (TerminalM.askWidth_granted h _)
  | request r hr => exact hterminal (TerminalM.request_granted h r _)
  | update clearFirst rows style =>
    exact hterminal (TerminalM.update_granted h clearFirst rows style _)
  | @bind _ _ x f _ _ ihx ihf =>
    have hfirst := ihx s
    rw [bind_apply]
    rcases hrun : x terminal s with ⟨e | a, s'⟩
    · rw [hrun] at hfirst
      intro heq
      exact hfirst (congrArg Except.error (Except.error.inj heq))
    · exact ihf a s'

end SessionM

/-- On a reliable terminal a call gives the answer that it gives unless the terminal fails. -/
theorem Call.run_eq_ok {call : Call} {terminal : Terminal} (h : terminal.Reliable) {s : Session}
    {answer : Answer} (hgives : SessionM.Gives answer (call.run terminal s).1) :
    (call.run terminal s).1 = .ok answer := by
  rcases hgives with hok | ⟨error, herror⟩
  · exact hok
  · exact absurd herror (call.run_composed.ne_terminal_error h s error)

end LineEditor
