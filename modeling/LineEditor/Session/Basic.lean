import LineEditor.Drawing
import LineEditor.Session.Editing

/-!
# The session

A session edits one input after another and keeps the screen up to date.  Keys, texts and actions
go in; each is answered with an outcome, and whatever it changes is drawn at once.

* how a session is set up (`Config`, `Session.ofConfig`);
* programs on a session (`SessionM`);
* drawing (`draw`, `redraw`, `resize`, `start`, `finish`);
* actions (`perform`), keys (`onKey`) and texts (`onText`).
-/

namespace LineEditor

/-! ## State -/

/-- How a session is set up. -/
structure Config where
  prompt : Text := defaultPrimary
  continuation : Option Text := none
  /-- Whether there is no continuation prompt unless one is given. -/
  emptyContinuation : Bool := false
  /-- Whether prompts carry markers. -/
  mark : Bool := true
  highlighter : Option Highlighter := none

/-- The text of the continuation prompt.  An empty one counts as none given. -/
def Config.continuationText (config : Config) : Text :=
  match config.continuation with
  | some (c :: rest) => c :: rest
  | _ => if config.emptyContinuation then [] else defaultContinuation

/-- A session: what is edited, and how it is shown. -/
structure Session where
  editing : Editing
  prompts : Prompts
  /-- Whether prompts and rows carry markers. -/
  mark : Bool
  highlighter : Option Highlighter
  /-- The row, counted from the first one drawn, on which the last drawing left the cursor. -/
  cursorRow : Nat
  /-- The width of the screen, or zero if it is not known. -/
  width : Nat
  /-- What was asked of the terminal. -/
  history : History

/-- Why a call to a session failed. -/
inductive SessionError where
  | terminal (error : TerminalError)
  | misuse (misuse : Misuse)
  deriving Repr, DecidableEq, Inhabited

/-- A program on a session.  What it has changed stays changed also if it fails. -/
abbrev SessionM := ReaderT Terminal (ExceptT SessionError (StateM Session))

namespace Session

/-- A new session. -/
def ofConfig (config : Config) : Session where
  editing := .initial
  prompts :=
    { primary := .ofText config.prompt false config.mark
      continuation := .ofText config.continuationText true config.mark }
  mark := config.mark
  highlighter := config.highlighter
  cursorRow := 0
  width := 0
  history := []

/-- The rows that show the input on a screen of the known width. -/
def rows (s : Session) : List Row :=
  layout s.editing.buffer.lines s.editing.buffer.cursor s.prompts s.width

/-- The text of the input. -/
def text (s : Session) : Text := s.editing.buffer.text

/-- Replaces the input; the cursor goes to its end. -/
def setText (s : Session) (text : Text) : Session :=
  { s with editing := { s.editing with buffer := .ofText text } }

/-- Replaces the primary prompt. -/
def setPrompt (s : Session) (text : Text) : Session :=
  { s with prompts := { s.prompts with primary := .ofText text false s.mark } }

/-- Starts a new input.  The kill ring is kept. -/
def reset (s : Session) : Session :=
  { s with editing := s.editing.reset, cursorRow := 0 }

end Session

namespace SessionM

/-- Runs a program on the terminal of a session. -/
def onTerminal {α : Type} (program : TerminalM α) : SessionM α := fun terminal s =>
  let (result, history) := program terminal s.history
  (result.mapError .terminal, { s with history })

/-- Makes a request to the terminal. -/
def request (r : Request) : SessionM Unit := onTerminal (.request r)

/-- Changes what is edited, unless that is a misuse. -/
def edit (change : Editing → Except Misuse (Bool × Editing)) : SessionM Bool := do
  match change (← get).editing with
  | .ok (done, editing) =>
    modify fun s => { s with editing }
    pure done
  | .error misuse => throw (.misuse misuse)

/-! ## Drawing -/

/-- Asks for the width of the screen unless it is known. -/
def ensureWidth : SessionM Unit := do
  if (← get).width = 0 then
    let width ← onTerminal .askWidth
    modify fun s => { s with width }

/-- The rows that show the input. -/
def screen : SessionM (List Row) := do
  ensureWidth
  return (← get).rows

/-- Draws the input within one update of the screen, which is cleared before if asked for. -/
def draw (clearFirst : Bool) : SessionM Unit := do
  let rows ← screen
  let s ← get
  let style : DrawStyle :=
    { width := s.width
      previousRow := if clearFirst then 0 else s.cursorRow
      mark := s.mark
      highlighter := s.highlighter }
  let row ← onTerminal <| .atomically do
    if clearFirst then
      TerminalM.request .clear
    LineEditor.draw rows style
  modify fun s => { s with cursorRow := row }

/-- Draws the input again. -/
def redraw : SessionM Unit := draw false

/-- Forgets the width of the screen, which has changed, and draws the input again. -/
def resize : SessionM Unit := do
  modify fun s => { s with width := 0 }
  redraw

/-- The commands that bring the terminal's cursor to the last row of the input. -/
def belowInput : SessionM (List Command) := do
  let rows ← screen
  let below := rowsBelowCursor rows
  pure (if below > 0 then [.down below] else [])

/-- Begins the editing of an input: sets the terminal up and draws. -/
def start : SessionM Unit := do
  request (.write [.barCursor, .enablePaste])
  redraw

/-- Ends the editing of an input, with the terminal's cursor below it. -/
def finish : SessionM Unit := do
  let below ← belowInput
  let marker : List Command := if (← get).mark then [.print outputMarker] else []
  request (.write (below ++ [.defaultCursor, .disablePaste, .newLine] ++ marker))
  modify fun s => { s with cursorRow := 0 }

/-! ## Actions -/

/-- Moves the cursor down by rows of the screen, or up for a negative number; whether it moved. -/
def moveVertically (amount : Int) : SessionM Bool := do
  let rows ← screen
  match verticalTarget rows amount with
  | none => pure false
  | some target =>
    edit fun e => do
      let buffer ← e.buffer.place target
      pure (true, { e with buffer })

/-- The outcome of an action that was done or not. -/
def outcomeOf (done : Bool) : Outcome :=
  if done then .handled else .couldNotPerform

/-- Does an action the given number of times.  The second component says whether the action is to
be remembered if it was done. -/
def apply (action : Action) (times : Nat) : SessionM (Outcome × Bool) := do
  match action with
  | .cursorUp =>
    let moved ← moveVertically (-times)
    pure (outcomeOf moved, true)
  | .cursorDown =>
    let moved ← moveVertically times
    pure (outcomeOf moved, true)
  | .acceptInput => pure (.accepted, false)
  | .endInput =>
    if (← get).editing.buffer.currentLine.isEmpty then pure (.endOfStream, false)
    else pure (.accepted, false)
  | .abortLine =>
    let below ← belowInput
    request (.write (below ++ [.newLine]))
    modify Session.reset
    pure (.handled, false)
  | .clearScreen =>
    draw true
    pure (.handled, false)
  | _ =>
    let done ← edit fun e => e.act times action
    pure (outcomeOf done, true)

/-- Does an action the given number of times, remembers it and draws what has changed. -/
def perform (action : Action) (times : Nat) : SessionM Outcome := do
  let (outcome, remembered) ← apply action times
  if outcome = .handled then
    if remembered then
      modify fun s => { s with editing := s.editing.record action }
    if action ≠ .clearScreen then
      redraw
  pure outcome

/-- Does an action, with the bell if there is nothing to do. -/
def performOrBeep (action : Action) (times : Nat) : SessionM Outcome := do
  let outcome ← perform action times
  if outcome = .couldNotPerform then
    request .beep
  pure outcome

/-! ## Keys and texts -/

/-- Makes text ready for the next insertion. -/
def stage (text : Text) : SessionM Unit :=
  modify fun s => { s with editing := { s.editing with staged := text } }

/-- Handles a key. -/
def onKey (key : Key) : SessionM Outcome := do
  let (meaning, keyboard) := (← get).editing.keyboard.resolve key
  modify fun s => { s with editing := { s.editing with keyboard } }
  match meaning with
  | .action action times => performOrBeep action times
  | .text text times =>
    stage text
    performOrBeep .addText times
  | .pending | .ignored => pure .handled
  | .unbound => pure .unhandled

/-- Handles text.  Text within a paste is collected until the paste ends, and is then inserted as
a whole. -/
def onText (text : Text) (withinPaste : Bool) : SessionM Outcome := do
  let pasted := (← get).editing.pasted ++ text
  if withinPaste then
    modify fun s => { s with editing := { s.editing with pasted } }
    pure .handled
  else
    modify fun s => { s with editing := { s.editing with pasted := [] } }
    stage pasted
    perform .addText 1

end SessionM

end LineEditor
