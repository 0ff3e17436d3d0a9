import LineEditor.Buffer.Basic

/-!
# The buffer line by line

The text being edited as it is stored: its lines, and the position of the cursor in them.  An operation
finds a line by its number and cuts it at a byte offset, and stops halfway if there is no such line or no
such place in it.  `Buffer` is the same text without the lines.

* access to lines, which may fail (`Panic`, `lineAt`, `cutLineAt`, `splice`, `drain`, `minus`);
* views (`text`, `textBefore`, `textAfter`, `currentLine`);
* places (`isValid`, `clamp`, `place`);
* motion to the ends of the line and of the text;
* insertion (`insert`) and erasure (`erase`).
-/

namespace LineEditor

/-! ## Access that may fail -/

/-- Why an operation stops halfway. -/
inductive Panic where
  /-- It was used where its caller must not use it. -/
  | misuse (misuse : Misuse)
  /-- There is no line with a number, no place at an offset, or no such difference. -/
  | outOfRange
  deriving Repr, DecidableEq, Inhabited

/-- The line with number `n`. -/
def lineAt (lines : List Text) (n : Nat) : Except Panic Text :=
  match lines[n]? with
  | some line => .ok line
  | none => .error .outOfRange

/-- The two parts of a line around byte `n`. -/
def cutAt (line : Text) (n : Nat) : Except Panic (Text × Text) :=
  match line.splitAt? n with
  | some parts => .ok parts
  | none => .error .outOfRange

/-- The two parts of the line of `p` around it. -/
def cutLineAt (lines : List Text) (p : Position) : Except Panic (Text × Text) := do
  cutAt (← lineAt lines p.line) p.offset

/-- Puts lines in before line `n`. -/
def splice (lines : List Text) (n : Nat) (added : List Text) : Except Panic (List Text) :=
  if n ≤ lines.length then .ok (lines.take n ++ added ++ lines.drop n) else .error .outOfRange

/-- Takes the lines from number `first` to before number `stop` out, and returns them with those that
are left. -/
def drain (lines : List Text) (first stop : Nat) : Except Panic (List Text × List Text) :=
  if first ≤ stop ∧ stop ≤ lines.length then
    .ok ((lines.take stop).drop first, lines.take first ++ lines.drop stop)
  else .error .outOfRange

/-- The difference of two numbers, of which the second one must not be greater. -/
def minus (m n : Nat) : Except Panic Nat :=
  if n ≤ m then .ok (m - n) else .error .outOfRange

namespace Text

/-! ## Line breaks from outside -/

/-- The text with `new` in place of each occurrence of `pattern`, found from left to right.  The first
`skip` characters belong to an occurrence that has been replaced. -/
def replaceFrom (pattern new : Text) : Nat → Text → Text
  | _, [] => []
  | skip + 1, _ :: rest => replaceFrom pattern new skip rest
  | 0, c :: rest =>
    if (c :: rest).take pattern.length = pattern then
      new ++ replaceFrom pattern new (pattern.length - 1) rest
    else c :: replaceFrom pattern new 0 rest

/-- The text with `new` in place of each occurrence of `pattern`, which is not to be empty. -/
def replace (text pattern new : Text) : Text :=
  replaceFrom pattern new 0 text

/-- The text with a line feed for each line break of another kind. -/
def withLineFeeds (text : Text) : Text :=
  if '\r' ∈ text then (text.replace ['\r', '\n'] ['\n']).replace ['\r'] ['\n'] else text

/-- The text without a line feed at its end, and whether there was one. -/
def stripBreak (text : Text) : Text × Bool :=
  if text.getLast? = some '\n' then (text.dropLast, true) else (text, false)

/-- The part of a text before its first line break, and the lines after it.  A line break at the end is
taken off first, and makes a line without text. -/
def segments (text : Text) : Text × List Text :=
  let (body, broken) := text.stripBreak
  (body.lines.headD [], body.lines.tail ++ if broken then [[]] else [])

end Text

/-- The text being edited, as lines without line breaks in them, and the position of the cursor. -/
structure LineBuffer where
  lines : List Text
  cursor : Position
  deriving Repr, DecidableEq, Inhabited

namespace LineBuffer

/-- A single line without text. -/
def empty : LineBuffer := { lines := [[]], cursor := .zero }

/-! ## Views -/

/-- The lines joined by line feeds. -/
def text (b : LineBuffer) : Text := Text.unlines b.lines

/-- Whether there is a single line, without text. -/
def isEmpty (b : LineBuffer) : Bool :=
  match b.lines with
  | [line] => line.isEmpty
  | _ => false

/-- The line that the cursor is on. -/
def currentLine (b : LineBuffer) : Except Panic Text := lineAt b.lines b.cursor.line

/-- The lines above the cursor, each with a line feed after it, and its line up to it. -/
def textBefore (b : LineBuffer) : Except Panic Text := do
  let (head, _) ← cutLineAt b.lines b.cursor
  return (b.lines.take b.cursor.line).flatMap (· ++ ['\n']) ++ head

/-- The line of the cursor from there on, and the lines below, each with a line feed before it. -/
def textAfter (b : LineBuffer) : Except Panic Text := do
  let (_, tail) ← cutLineAt b.lines b.cursor
  return tail ++ (b.lines.drop (b.cursor.line + 1)).flatMap ('\n' :: ·)

/-! ## Places -/

/-- Whether there is a line with the number of `p`, with a place at its offset. -/
def isValid (b : LineBuffer) (p : Position) : Bool :=
  (b.lines[p.line]?.bind (·.splitAt? p.offset)).isSome

/-- The place that `p` is put back to: the last line at most, the end of the line at most, and the start
of the cluster there. -/
def clamp (b : LineBuffer) (p : Position) : Except Panic Position := do
  let line := min p.line (← minus b.lines.length 1)
  let text ← lineAt b.lines line
  return { offset := Buffer.clusterFloor (min p.offset text.size) text.clusters, line }

/-- Puts the cursor at `p`, or as near to it as the lines allow. -/
def setCursor (b : LineBuffer) (p : Position) : Except Panic LineBuffer := do
  return { b with cursor := ← b.clamp p }

/-- Puts the cursor at `p`, which must be valid. -/
def place (b : LineBuffer) (p : Position) : Except Panic LineBuffer :=
  if b.isValid p then .ok { b with cursor := p } else .error (.misuse (.cursorOutside p))

/-! ## Motion to the ends -/

/-- From an offset to the start of its line; whether that is another one. -/
def toFront (offset : Nat) : Bool × Nat :=
  if offset = 0 then (false, offset) else (true, 0)

/-- From an offset to the end of its line; whether that is another one. -/
def toBack (line : Text) (offset : Nat) : Bool × Nat :=
  if line.size ≤ offset then (false, offset) else (true, line.size)

/-- Moves to the start of the line; whether the cursor moved. -/
def toLineStart (b : LineBuffer) : Bool × LineBuffer :=
  let (moved, offset) := toFront b.cursor.offset
  (moved, { b with cursor := { b.cursor with offset } })

/-- Moves to the end of the line; whether the cursor moved. -/
def toLineEnd (b : LineBuffer) : Except Panic (Bool × LineBuffer) := do
  let (moved, offset) := toBack (← b.currentLine) b.cursor.offset
  return (moved, { b with cursor := { b.cursor with offset } })

/-- Moves to the start of the text; whether the cursor moved. -/
def toStart (b : LineBuffer) : Bool × LineBuffer :=
  if b.cursor = .zero then (false, b) else (true, { b with cursor := .zero })

/-- Moves to the end of the text; whether the cursor moved. -/
def toEnd (b : LineBuffer) : Except Panic (Bool × LineBuffer) := do
  let last ← minus b.lines.length 1
  let stop : Position := { offset := (← lineAt b.lines last).size, line := last }
  return if b.cursor = stop then (false, b) else (true, { b with cursor := stop })

/-! ## Insertion -/

/-- Inserts text at the cursor and puts the cursor after it.  The line of the cursor is cut there, and
goes on with the text up to its first line break.  The other lines of the text come below it, and what was
cut off is put after the last of them. -/
def insert (b : LineBuffer) (text : Text) : Except Panic LineBuffer :=
  if text.isEmpty then .ok b
  else do
    let line := b.cursor.line
    let (head, tail) ← cutLineAt b.lines b.cursor
    let (first, added) := text.withLineFeeds.segments
    let lines ← splice (b.lines.set line (head ++ first)) (line + 1) added
    let last := line + added.length
    let lastLine ← lineAt lines last
    return {
      lines := lines.set last (lastLine ++ tail)
      cursor := { offset := lastLine.size, line := last } }

/-- A buffer that holds `text`, with the cursor at its end. -/
def ofText (text : Text) : Except Panic LineBuffer := empty.insert text

/-- The buffer that is left when all text is exchanged for `text`. -/
def setText (text : Text) : Except Panic LineBuffer := do
  let (_, b) ← (← empty.insert text).toEnd
  return b

/-! ## Erasure -/

/-- Where the cursor is found after the bytes from `start` to `stop` are taken out of a line. -/
def cursorWithin (cursor start stop : Position) (erased : Text) : Except Panic Position :=
  if cursor.line = start.line ∧ start.offset ≤ cursor.offset then
    if cursor.offset < stop.offset then .ok { cursor with offset := start.offset }
    else do return { cursor with offset := ← minus cursor.offset erased.size }
  else .ok cursor

/-- Erases from `start` to `stop`, which are on the same line. -/
def eraseWithin (b : LineBuffer) (start stop : Position) : Except Panic (Text × LineBuffer) := do
  let (front, tail) ← cutAt (← lineAt b.lines start.line) stop.offset
  let (head, erased) ← cutAt front start.offset
  let cursor ← cursorWithin b.cursor start stop erased
  return (erased, { lines := b.lines.set start.line (head ++ tail), cursor })

/-- Where the cursor is found after the text from `start` to `stop` is taken out of several lines. -/
def cursorAcross (cursor start stop : Position) : Except Panic Position :=
  if cursor.line = start.line then .ok { cursor with offset := min cursor.offset start.offset }
  else if cursor.line < stop.line ∧ start.line < cursor.line then .ok start
  else if cursor.line = stop.line then
    if cursor.offset < stop.offset then .ok start
    else do
      return { offset := ← minus (start.offset + cursor.offset) stop.offset, line := start.line }
  else if stop.line < cursor.line then do
    return { cursor with line := ← minus cursor.line (← minus stop.line start.line) }
  else .ok cursor

/-- Erases from `start` to `stop`, which is on a line below.  The line of `stop` is cut there, and with
the lines above it, up to that of `start`, it is taken out; what was cut off is put after the place of
`start`. -/
def eraseAcross (b : LineBuffer) (start stop : Position) : Except Panic (Text × LineBuffer) := do
  let (kept, tail) ← cutLineAt b.lines stop
  let (removed, lines) ← drain (b.lines.set stop.line kept) (start.line + 1) (stop.line + 1)
  let (head, rest) ← cutLineAt lines start
  let cursor ← cursorAcross b.cursor start stop
  return (rest ++ removed.flatMap ('\n' :: ·),
    { lines := lines.set start.line (head ++ tail), cursor })

/-- Erases the text between two positions, given in either order, and returns it.  Two different
positions must both be valid. -/
def erase (b : LineBuffer) (p q : Position) : Except Panic (Text × LineBuffer) :=
  let (start, stop) := if q < p then (q, p) else (p, q)
  if start = stop then .ok ([], b)
  else if !(b.isValid start && b.isValid stop) then .error (.misuse (.rangeOutside start stop))
  else if start.line = stop.line then b.eraseWithin start stop
  else b.eraseAcross start stop

end LineBuffer

end LineEditor
