import LineEditor.Options
import LineEditor.Session.Call
import LineEditor.Terminal.Fault

/-!
# The program

Reads the options, edits one input after another, and prints every input that is accepted.  The
terminal hands over whole lines, so a line is one text for the session, and its end accepts the
input.
-/

namespace LineEditor

/-- The session that the options ask for. -/
def Options.config (options : Options) : Config where
  prompt := options.prompt
  continuation := options.continuationPrompt
  emptyContinuation := options.emptyContinuationPrompt
  mark := !options.noMarkPrompts

/-- How the program is called. -/
def usage : String :=
  "Usage: termline [OPTIONS]\n\n" ++
  "Options:\n" ++
  "      --prompt <PROMPT>                            [default: \"> \"]\n" ++
  "      --continuation-prompt <CONTINUATION_PROMPT>\n" ++
  "      --empty-continuation-prompt\n" ++
  "      --no-mark-prompts\n" ++
  "      --log-file <PATH>\n" ++
  "      --log-filter <FILTER>\n" ++
  "      --log-append\n" ++
  "  -h, --help\n" ++
  "  -V, --version\n"

/-- What is said of arguments that give no options. -/
def Options.Error.message : Options.Error → String
  | .unknownArgument => "error: unexpected argument found"
  | .invalidValue => "error: a value is required or is not valid"
  | .argumentConflict => "error: an argument cannot be used twice or with another one"
  | .missingRequired => "error: a required argument was not provided"
  | .tooManyValues => "error: unexpected value for an argument found"
  | .displayHelp => usage
  | .displayVersion => "termline 0.1.0"

/-- A terminal that never fails. -/
def plainTerminal : Terminal := Faults.terminal {} 80

/-- Makes a call and prints what it sends to the terminal. -/
def perform (s : Session) (call : Call) : IO Session := do
  let s := { s with history := [] }.after plainTerminal call
  IO.print (String.ofList (History.output s.history))
  (← IO.getStdout).flush
  pure s

/-- Edits inputs until there are no more lines. -/
partial def editInputs (s : Session) : IO Unit := do
  let line ← (← IO.getStdin).getLine
  if line.isEmpty then
    let _ ← perform s .finish
  else
    let text := line.toList.filter (· ≠ '\n')
    let s ← perform s (.text text false)
    let s ← perform s (.action .acceptInput 1)
    let s ← perform s .finish
    for line in s.editing.buffer.lines do
      IO.print (String.ofList line ++ "\r\n")
    let s ← perform s .reset
    let s ← perform s .start
    editInputs s

/-- Runs the program. -/
def run (arguments : List String) : IO UInt32 := do
  match Options.ofArguments (arguments.map String.toList) with
  | .error .displayHelp => IO.print usage; return 0
  | .error .displayVersion => IO.println (Options.Error.message .displayVersion); return 0
  | .error e => IO.eprintln e.message; return 2
  | .ok options =>
    if ← (← IO.getStdin).isTty then
      let s ← perform (.ofConfig options.config) .start
      editInputs s
      return 0
    else
      let e := TerminalError.notATerminal
      IO.eprintln e.userMessage
      return e.exitCode.toUInt32

end LineEditor

def main (arguments : List String) : IO UInt32 :=
  LineEditor.run arguments
