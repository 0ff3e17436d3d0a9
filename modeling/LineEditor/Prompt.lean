import LineEditor.Display

/-!
# Prompts

The texts in front of the input: the primary prompt before its first line, the continuation prompt
before all others.  A prompt may carry a marker by which the terminal knows it for a prompt; the
markers are escape sequences and take no cell.
-/

namespace LineEditor

/-! ## Markers -/

/-- What every prompt marker begins with. -/
def markerOpening : Text := "\x1b]133;".toList

/-- What every prompt marker ends with. -/
def markerClosing : Text := "\x1b\\".toList

/-- The marker in front of a prompt. -/
def promptMarker (secondary : Bool) : Text :=
  markerOpening ++ (if secondary then "A;k=s" else "A").toList ++ markerClosing

/-- The marker in front of a row that goes on with a line. -/
def continuationMarker : Text := promptMarker true

/-- The marker where the input is handed over and output begins. -/
def outputMarker : Text := markerOpening ++ ['C'] ++ markerClosing

/-! ## Prompts -/

/-- A prompt: its text with all markers, and the cells that it takes. -/
structure Prompt where
  text : Text
  width : Nat
  deriving Repr, DecidableEq, Inhabited

/-- The prompt with the given text, behind a marker if asked for. -/
def Prompt.ofText (text : Text) (secondary mark : Bool) : Prompt :=
  let text := if mark then promptMarker secondary ++ text else text
  { text, width := text.visibleWidth }

/-- The prompts of an input. -/
structure Prompts where
  primary : Prompt
  continuation : Prompt
  deriving Repr, DecidableEq, Inhabited

/-- The prompt in front of a line. -/
def Prompts.forLine (prompts : Prompts) (line : Nat) : Prompt :=
  if line = 0 then prompts.primary else prompts.continuation

/-- The text of the primary prompt unless another is given. -/
def defaultPrimary : Text := "> ".toList

/-- The text of the continuation prompt unless another is given: a yellow angle. -/
def defaultContinuation : Text := "\x1b[38;5;11m>\x1b[39m ".toList

end LineEditor
