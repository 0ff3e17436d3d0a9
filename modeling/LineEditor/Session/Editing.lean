import LineEditor.Buffer.Word
import LineEditor.Key
import LineEditor.KillRing

/-!
# Editing

What the actions do to the text, the kill ring and the memory of earlier actions.  Nothing here
knows of the screen; moving up and down, which depends on it, and the actions that talk to the
terminal are left to the session.

* the state of editing (`Editing`);
* killing (`kill`, `killToLineEnd`, `killNextWord`, …);
* yanking (`yank`, `popYank`);
* inserting (`insertStaged`);
* actions (`act`, `record`).
-/

namespace LineEditor

/-- What is edited, and what is remembered of earlier actions. -/
structure Editing where
  buffer : Buffer
  ring : KillRing
  /-- Where the last yank put its text. -/
  yankExtent : YankExtent
  /-- Pasted text whose end has not come yet. -/
  pasted : Text
  /-- The text that the next insertion takes. -/
  staged : Text
  /-- The last action that was done. -/
  lastAction : Action
  /-- What the last action means for the next one. -/
  chain : Chain
  keyboard : Keyboard
  deriving Repr, DecidableEq, Inhabited

namespace Editing

/-- The state before anything was done. -/
def initial : Editing where
  buffer := .empty
  ring := .empty
  yankExtent := .initial
  pasted := []
  staged := []
  lastAction := .idle
  chain := .idle
  keyboard := {}

/-- The largest number of bytes that one insertion may add. -/
def maxInsertSize : Nat := 16 * 1024 * 1024

/-! ## Killing -/

/-- Moves killed text to the ring: to the end of the front entry if the last action was a kill, too,
and otherwise as a new entry. -/
def kill (e : Editing) (killed : Text) (buffer : Buffer) : Editing :=
  { e with
    buffer
    ring := if e.chain = .killing then e.ring.append killed else e.ring.push killed }

/-- Kills the last `n` characters before the cursor. -/
def killBefore (e : Editing) (n : Nat) : Editing :=
  let (killed, buffer) := e.buffer.cutBefore n
  e.kill killed buffer

/-- Kills the first `n` characters after the cursor. -/
def killAfter (e : Editing) (n : Nat) : Editing :=
  let (killed, buffer) := e.buffer.cutAfter n
  e.kill killed buffer

/-- Kills the rest of the line after the cursor; whether there was any. -/
def killToLineEnd (e : Editing) : Bool × Editing :=
  match e.buffer.after.firstLine.length with
  | 0 => (false, e)
  | n => (true, e.killAfter n)

/-- Kills the line before the cursor; whether there was any. -/
def killToLineStart (e : Editing) : Bool × Editing :=
  match e.buffer.before.lastLine.length with
  | 0 => (false, e)
  | n => (true, e.killBefore n)

/-- Kills to the end of the `n`-th word after the cursor; whether there was any. -/
def killNextWord (e : Editing) (n : Nat) : Bool × Editing :=
  match e.buffer.wordEnd n true .alphanumeric with
  | (0, _) => (false, e)
  | (_, passed) => (true, e.killAfter passed)

/-- Kills to the start of the `n`-th word before the cursor; whether there was any. -/
def killPreviousWord (e : Editing) (n : Nat) (cls : WordClass) : Bool × Editing :=
  match e.buffer.wordStart n true cls with
  | (0, _) => (false, e)
  | (_, passed) => (true, e.killBefore passed)

/-! ## Yanking -/

/-- Inserts yanked text and remembers where it stands. -/
def insertYanked (e : Editing) (text : Text) : Editing :=
  let buffer := e.buffer.insert text
  { e with buffer, yankExtent := { start := e.buffer.cursor, stop := buffer.cursor } }

/-- Inserts the front entry of the ring; whether there was one. -/
def yank (e : Editing) : Bool × Editing :=
  if e.ring.front.isEmpty then (false, e) else (true, e.insertYanked e.ring.front)

/-- Exchanges the text just yanked for the next entry of the ring; whether there was one.  The
extent of the yank may be out of date, so its ends are put back into the text first. -/
def popYank (e : Editing) : Except Misuse (Bool × Editing) :=
  if e.chain ≠ .yanked then .ok (false, e)
  else
    let (text, ring) := e.ring.rotate
    if text.isEmpty then .ok (false, e)
    else do
      let start := e.buffer.clamp e.yankExtent.start
      let stop := e.buffer.clamp e.yankExtent.stop
      let (_, buffer) ← e.buffer.erase start stop
      let buffer ← buffer.place (min start stop)
      pure (true, { e with buffer, ring }.insertYanked text)

/-! ## Inserting -/

/-- Inserts the staged text the given number of times, unless that would be too much; whether it
was inserted.  The text is no longer staged afterwards. -/
def insertStaged (e : Editing) (times : Nat) : Bool × Editing :=
  let rest := { e with staged := [] }
  if e.staged.size * times ≤ maxInsertSize then
    (true, { rest with buffer := e.buffer.insert (e.staged.times times) })
  else (false, rest)

/-! ## Actions -/

/-- A change of the buffer that counts its units; whether there were any. -/
def changeBuffer (e : Editing) (change : Nat × Buffer) : Bool × Editing :=
  (change.1 > 0, { e with buffer := change.2 })

/-- Does an action the given number of times; whether there was anything to do.  To the actions that
need the screen or end the input there is nothing here. -/
def act (e : Editing) (times : Nat) : Action → Except Misuse (Bool × Editing)
  | .cursorLeft => .ok (e.changeBuffer (e.buffer.moveLeft times true))
  | .cursorRight => .ok (e.changeBuffer (e.buffer.moveRight times true))
  | .backspace => .ok (e.changeBuffer (e.buffer.eraseBefore times true))
  | .delete => .ok (e.changeBuffer (e.buffer.eraseAfter times true))
  | .killToLineEnd => .ok e.killToLineEnd
  | .killToLineStart => .ok e.killToLineStart
  | .killNextWord => .ok (e.killNextWord times)
  | .killPreviousWord => .ok (e.killPreviousWord times .alphanumeric)
  | .killPreviousSpaceDelimitedWord => .ok (e.killPreviousWord times .nonSpace)
  | .yank => .ok e.yank
  | .popYank => e.popYank
  | .addText => .ok (e.insertStaged times)
  | .idle | .cursorUp | .cursorDown | .acceptInput | .endInput | .abortLine | .clearScreen =>
    .ok (false, e)

/-- Remembers an action as the last one done. -/
def record (e : Editing) (action : Action) : Editing :=
  { e with lastAction := action, chain := .after action }

/-- Starts a new input.  The kill ring is kept. -/
def reset (e : Editing) : Editing :=
  { e with buffer := .empty, lastAction := .idle, chain := .idle, keyboard := {} }

end Editing

end LineEditor
