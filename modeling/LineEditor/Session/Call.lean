import LineEditor.Session.Basic

/-!
# Calls to a session

Everything that a host can ask of a session, as values: so a run of a session is a list of calls,
each made while the terminal behaves in some way.

* calls and answers (`Call`, `Answer`, `Call.run`);
* the session after calls (`Session.after`, `Session.afterAll`).
-/

namespace LineEditor

/-- A call to a session. -/
inductive Call where
  /-- A key event. -/
  | key (key : Key)
  /-- Text, within a paste or not. -/
  | text (text : Text) (withinPaste : Bool)
  /-- An action, to be done this many times. -/
  | action (action : Action) (times : Nat)
  | setText (text : Text)
  | setPrompt (text : Text)
  /-- Starts a new input. -/
  | reset
  /-- Begins the editing of an input. -/
  | start
  /-- Ends the editing of an input. -/
  | finish
  | redraw
  /-- The screen has changed its width. -/
  | resize
  /-- Asks for the rows that show the input. -/
  | screen
  deriving Repr, DecidableEq, Inhabited

/-- What a call answers. -/
inductive Answer where
  | done
  | outcome (outcome : Outcome)
  | rows (rows : List Row)
  deriving Repr, DecidableEq, Inhabited

/-- Makes a call. -/
def Call.run : Call → SessionM Answer
  | .key k => .outcome <$> SessionM.onKey k
  | .text t withinPaste => .outcome <$> SessionM.onText t withinPaste
  | .action a times => .outcome <$> SessionM.perform a times
  | .setText t => do modify (·.setText t); pure .done
  | .setPrompt t => do modify (·.setPrompt t); pure .done
  | .reset => do modify Session.reset; pure .done
  | .start => do SessionM.start; pure .done
  | .finish => do SessionM.finish; pure .done
  | .redraw => do SessionM.redraw; pure .done
  | .resize => do SessionM.resize; pure .done
  | .screen => .rows <$> SessionM.screen

namespace Session

/-- The session after a call, which changes it also if it fails. -/
def after (s : Session) (terminal : Terminal) (call : Call) : Session :=
  (call.run terminal s).2

/-- The session after calls, each made while the terminal behaves as given with it. -/
def afterAll (s : Session) (calls : List (Terminal × Call)) : Session :=
  calls.foldl (fun s (terminal, call) => s.after terminal call) s

end Session

end LineEditor
