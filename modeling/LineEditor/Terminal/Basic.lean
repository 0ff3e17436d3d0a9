import LineEditor.Error
import LineEditor.Terminal.Command

/-!
# The terminal

The editor reaches its terminal through a few requests: write commands, begin and end an update that
appears on the screen at once, clear the screen, ring the bell, and tell the width.  A terminal
answers each request as it likes, so that every pattern of failures is some terminal's behaviour.
What was asked and answered is kept as a history.

* requests and replies (`Request`, `Reply`, `Terminal`);
* what has happened so far (`Exchange`, `History`);
* programs that use a terminal (`TerminalM`, `request`, `askWidth`, `atomically`).
-/

namespace LineEditor

/-! ## Requests and replies -/

/-- What the editor asks of a terminal. -/
inductive Request where
  | write (commands : List Command)
  /-- Begins an update of the screen that is to appear at once. -/
  | beginUpdate
  /-- Ends the update and shows it. -/
  | endUpdate
  /-- Clears the screen and goes to its first cell. -/
  | clear
  | beep
  /-- Asks for the width of the screen. -/
  | width
  deriving Repr, DecidableEq, Inhabited

namespace Request

/-- The commands that a request sends to the terminal. -/
def commands : Request → List Command
  | .write commands => commands
  | .beginUpdate => [.beginUpdate]
  | .endUpdate => [.endUpdate]
  | .clear => [.clearAll, .home]
  | .beep => [.bell]
  | .width => []

/-- The bytes that a request sends to the terminal. -/
def bytes (request : Request) : Text := Command.encodeAll request.commands

/-- Whether a request has all bytes sent so far shown. -/
def flushes : Request → Bool
  | .endUpdate | .beep => true
  | _ => false

end Request

/-- How a request was answered; a failure comes with its reason. -/
inductive Reply where
  | done
  /-- The request was turned down before anything was done. -/
  | refused (reason : String)
  /-- The bytes of the request could not be sent. -/
  | unwritten (reason : String)
  /-- The bytes were sent but could not be shown. -/
  | unflushed (reason : String)
  deriving Repr, DecidableEq, Inhabited

namespace Reply

/-- Why a request failed, if it did. -/
def failure? : Reply → Option String
  | .done => none
  | .refused reason | .unwritten reason | .unflushed reason => some reason

/-- Whether the bytes of the request were sent. -/
def isSent : Reply → Bool
  | .done | .unflushed _ => true
  | .refused _ | .unwritten _ => false

end Reply

/-- A terminal: its reply to each request and its width, both of which may change with every
request. -/
structure Terminal where
  /-- The reply to the `n`-th request. -/
  reply : Nat → Request → Reply
  /-- The width at the time of the `n`-th request. -/
  width : Nat → Nat

/-! ## History -/

/-- A request with its reply. -/
structure Exchange where
  request : Request
  reply : Reply
  deriving Repr, DecidableEq, Inhabited

/-- The bytes that an exchange brought to the terminal. -/
def Exchange.output (exchange : Exchange) : Text :=
  if exchange.reply.isSent then exchange.request.bytes else []

/-- All exchanges so far, the first one first. -/
abbrev History := List Exchange

/-- The bytes that the exchanges brought to the terminal. -/
def History.output (history : History) : Text :=
  (history.map Exchange.output).flatten

/-! ## Programs -/

/-- A program that uses a terminal.  What it has asked stays in the history also if it fails. -/
abbrev TerminalM := ReaderT Terminal (ExceptT TerminalError (StateM History))

namespace TerminalM

/-- Makes a request and fails if it fails. -/
def request (r : Request) : TerminalM Unit := do
  let terminal ← read
  let history ← get
  let reply := terminal.reply history.length r
  set (history ++ [{ request := r, reply }])
  match reply.failure? with
  | some reason => throw (.io reason)
  | none => pure ()

/-- Asks for the width of the screen. -/
def askWidth : TerminalM Nat := do
  let terminal ← read
  let history ← get
  request .width
  pure (terminal.width history.length)

/-- Runs `body` within one update of the screen.  The update is ended however `body` ends, and a
failure to end it is not reported. -/
def atomically {α : Type} (body : TerminalM α) : TerminalM α := do
  request .beginUpdate
  let result ← tryCatch (Except.ok <$> body) fun e => pure (.error e)
  tryCatch (request .endUpdate) fun _ => pure ()
  match result with
  | .ok a => pure a
  | .error e => throw e

end TerminalM

end LineEditor
