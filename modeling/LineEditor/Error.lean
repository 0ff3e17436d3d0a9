/-!
# Errors

What ends the work with a terminal, with the words and the exit code for it.
-/

namespace LineEditor

/-- Why the editor cannot go on with its terminal. -/
inductive TerminalError where
  /-- A call to the terminal failed. -/
  | io (message : String)
  /-- There is no terminal to begin with. -/
  | notATerminal
  deriving Repr, DecidableEq, Inhabited

namespace TerminalError

/-- What has happened, in one line. -/
def describe : TerminalError → String
  | .io message => "terminal I/O failed: " ++ message
  | .notATerminal => "standard input is not a terminal"

/-- The exit code of a program that ends for this reason. -/
def exitCode : TerminalError → Nat
  | .io _ => 20
  | .notATerminal => 21

/-- What the user is told. -/
def userMessage : TerminalError → String
  | .io _ => "Lost contact with the terminal while editing."
  | .notATerminal =>
    "termline needs an interactive terminal. Run it without redirecting stdin."

end TerminalError

end LineEditor
