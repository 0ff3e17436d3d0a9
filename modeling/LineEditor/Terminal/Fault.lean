import LineEditor.Terminal.Basic

/-!
# Terminals with faults

A terminal of a given width that fails in a given way: it turns down requests of some kinds, or the
stream behind it does not take bytes, or does not show them.
-/

namespace LineEditor

/-- The kinds of requests. -/
inductive RequestKind where
  | write
  | beginUpdate
  | endUpdate
  | clear
  | beep
  | width
  deriving Repr, DecidableEq, Inhabited

/-- The kind of a request. -/
def Request.kind : Request → RequestKind
  | .write _ => .write
  | .beginUpdate => .beginUpdate
  | .endUpdate => .endUpdate
  | .clear => .clear
  | .beep => .beep
  | .width => .width

/-- The short name of a kind of requests. -/
def RequestKind.name : RequestKind → String
  | .write => "write"
  | .beginUpdate => "begin"
  | .endUpdate => "end"
  | .clear => "clear"
  | .beep => "beep"
  | .width => "width"

/-- What goes wrong with a terminal. -/
structure Faults where
  /-- The kinds of requests that are turned down. -/
  refused : List RequestKind := []
  /-- Whether no bytes can be sent. -/
  noWrite : Bool := false
  /-- Whether the bytes sent cannot be shown. -/
  noFlush : Bool := false
  deriving Repr, DecidableEq, Inhabited

namespace Faults

/-- The reply to a request.  A request that sends no bytes does not notice that none can be
sent. -/
def reply (faults : Faults) (request : Request) : Reply :=
  if faults.refused.contains request.kind then .refused (request.kind.name ++ " refused")
  else if faults.noWrite && !request.bytes.isEmpty then .unwritten "sink_write refused"
  else if faults.noFlush && request.flushes then .unflushed "sink_flush refused"
  else .done

/-- The terminal of a fixed width with these faults. -/
def terminal (faults : Faults) (width : Nat) : Terminal where
  reply := fun _ request => faults.reply request
  width := fun _ => width

end Faults

end LineEditor
