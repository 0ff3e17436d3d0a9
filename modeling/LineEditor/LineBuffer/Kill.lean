import LineEditor.LineBuffer.Word

/-!
# Killing and yanking, line by line

What kills take out of the lines, and what yanks put into them.  The ring itself is left to the actions.

* killing (`cutToLineEnd`, `cutToLineStart`, `cutToWordEnd`, `cutToWordStart`);
* yanking (`insertYanked`, `exchangeYanked`).
-/

namespace LineEditor.LineBuffer

/-! ## Killing -/

/-- Takes out the rest of the line after the cursor, if there is any. -/
def cutToLineEnd (b : LineBuffer) : Except Panic (Option Text × LineBuffer) := do
  let line ← b.currentLine
  if line.size ≤ b.cursor.offset then return (none, b)
  else
    let (front, cut) ← cutAt line b.cursor.offset
    return (some cut, { b with lines := b.lines.set b.cursor.line front })

/-- Takes out the line before the cursor, if there is any. -/
def cutToLineStart (b : LineBuffer) : Except Panic (Option Text × LineBuffer) :=
  if b.cursor.offset = 0 then .ok (none, b)
  else do
    let (cut, back) ← cutLineAt b.lines b.cursor
    return (some cut, {
      lines := b.lines.set b.cursor.line back
      cursor := { b.cursor with offset := 0 } })

/-- Takes out the text to the end of the `amount`-th word after the cursor, if there is any. -/
def cutToWordEnd (b : LineBuffer) (amount : Nat) : Except Panic (Option Text × LineBuffer) := do
  let (moved, b') ← b.moveToWordEnd amount true .alphanumeric
  if 0 < moved then
    let (cut, b') ← b'.erase b.cursor b'.cursor
    return (some cut, b')
  else return (none, b')

/-- Takes out the text to the start of the `amount`-th word before the cursor, if there is any. -/
def cutToWordStart (b : LineBuffer) (amount : Nat) (cls : WordClass) :
    Except Panic (Option Text × LineBuffer) := do
  let (moved, b') ← b.moveToWordStart amount true cls
  if 0 < moved then
    let (cut, b') ← b'.erase b'.cursor b.cursor
    return (some cut, b')
  else return (none, b')

/-! ## Yanking -/

/-- Inserts yanked text, and says where it stands. -/
def insertYanked (b : LineBuffer) (text : Text) : Except Panic (YankExtent × LineBuffer) := do
  let b' ← b.insert text
  return ({ start := b.cursor, stop := b'.cursor }, b')

/-- Exchanges the text in an extent for another one, and says where that stands.  The ends of the extent
are put back into the lines first. -/
def exchangeYanked (b : LineBuffer) (extent : YankExtent) (text : Text) :
    Except Panic (YankExtent × LineBuffer) := do
  let start ← b.clamp extent.start
  let stop ← b.clamp extent.stop
  let (_, b) ← b.erase start stop
  let b ← b.place (min start stop)
  b.insertYanked text

end LineEditor.LineBuffer
