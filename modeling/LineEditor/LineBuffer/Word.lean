import LineEditor.Buffer.Word
import LineEditor.LineBuffer.Basic

/-!
# Motion by words, line by line

A motion by words goes over the lines on its way one by one.  On each of them it goes over the clusters,
keeps account of the word it is in, and puts the cursor at each stop; then it goes to the edge of the line,
which is a stop if the cursor was not there.

* the clusters of one line (`WordMotion`, `scanLine`, `WordMotion.toEdge`);
* the lines on the way (`wordEndFrom`, `wordStartFrom`);
* motion (`moveToWordEnd`, `moveToWordStart`).
-/

namespace LineEditor

/-- How far a motion by words has come: where the cursor is on the line, how many stops are still asked
for, and how many have been met. -/
structure WordMotion where
  offset : Nat
  remaining : Nat
  moved : Nat
  deriving Repr, DecidableEq, Inhabited

/-- The motion with one more stop, at `offset`. -/
def WordMotion.stopAt (motion : WordMotion) (offset : Nat) : Except Panic WordMotion := do
  return { offset, remaining := ← minus motion.remaining 1, moved := motion.moved + 1 }

/-- Goes to the edge of the line, which is a stop if it is another place. -/
def WordMotion.toEdge (motion : WordMotion) (edge : Bool × Nat) : Except Panic WordMotion :=
  if edge.1 then motion.stopAt edge.2 else .ok motion

namespace LineBuffer

/-! ## Clusters of one line -/

/-- Goes over the clusters of a line, of which `scanned` bytes are behind it.  `place` is the offset of the
place where it is then, and `inWord` says whether the last cluster was part of a word.  Returns whether
the last stop that was asked for was met. -/
def scanLine (cls : WordClass) (place : Nat → Except Panic Nat) :
    List Text → Bool → Nat → WordMotion → Except Panic (Bool × WordMotion)
  | [], _, _, motion => .ok (false, motion)
  | cluster :: rest, inWord, scanned, motion =>
    if cls.contains cluster then scanLine cls place rest true (scanned + cluster.size) motion
    else if inWord then do
      let motion ← motion.stopAt (← place scanned)
      if motion.remaining = 0 then return (true, motion)
      else scanLine cls place rest false (scanned + cluster.size) motion
    else scanLine cls place rest inWord (scanned + cluster.size) motion

/-! ## Lines on the way -/

theorem lt_length_of_lineAt {lines : List Text} {n : Nat} {line : Text}
    (h : lineAt lines n = .ok line) : n < lines.length := by
  rw [lineAt] at h
  split at h
  · next found hfound => exact (List.getElem?_eq_some_iff.1 hfound).1
  · cases h

/-- Moves on past word ends and line ends, as long as stops are asked for and there are lines.  Returns the
number of the line that the motion comes to. -/
def wordEndFrom (lines : List Text) (across : Bool) (cls : WordClass) (number : Nat)
    (motion : WordMotion) : Except Panic (Nat × WordMotion) :=
  if motion.remaining = 0 then .ok (number, motion)
  else
    match hline : lineAt lines number with
    | .error panic => .error panic
    | .ok line => do
      have := lt_length_of_lineAt hline
      let start := motion.offset
      let (_, back) ← cutAt line start
      let (found, motion) ←
        scanLine cls (fun scanned => .ok (start + scanned)) back.clusters false 0 motion
      if found then return (number, motion)
      else
        let motion ← motion.toEdge (toBack line motion.offset)
        if motion.remaining = 0 || !across || number + 1 = lines.length then return (number, motion)
        else wordEndFrom lines across cls (number + 1) { motion with offset := 0 }
  termination_by lines.length - number

/-- Moves back past word starts and line starts, as long as stops are asked for and there are lines.
Returns the number of the line that the motion comes to. -/
def wordStartFrom (lines : List Text) (across : Bool) (cls : WordClass) (number : Nat)
    (motion : WordMotion) : Except Panic (Nat × WordMotion) :=
  if motion.remaining = 0 then .ok (number, motion)
  else do
    let line ← lineAt lines number
    let start := motion.offset
    let (front, _) ← cutAt line start
    let (found, motion) ← scanLine cls (minus start) front.clusters.reverse false 0 motion
    if found then return (number, motion)
    else
      let motion ← motion.toEdge (toFront motion.offset)
      if motion.remaining = 0 || !across then return (number, motion)
      else
        match number with
        | 0 => return (0, motion)
        | above + 1 =>
          let line ← lineAt lines above
          wordStartFrom lines across cls above { motion with offset := line.size }

/-! ## Motion -/

/-- The buffer after a motion by words.  A motion without a stop leaves the cursor where it was. -/
def afterWords (b : LineBuffer) (number : Nat) (motion : WordMotion) : Nat × LineBuffer :=
  if motion.moved = 0 then (0, b)
  else (motion.moved, { b with cursor := { offset := motion.offset, line := number } })

/-- Moves on past at most `amount` word ends and line ends; how many it were. -/
def moveToWordEnd (b : LineBuffer) (amount : Nat) (across : Bool) (cls : WordClass) :
    Except Panic (Nat × LineBuffer) := do
  let (number, motion) ← wordEndFrom b.lines across cls b.cursor.line
    { offset := b.cursor.offset, remaining := amount, moved := 0 }
  return b.afterWords number motion

/-- Moves back past at most `amount` word starts and line starts; how many it were. -/
def moveToWordStart (b : LineBuffer) (amount : Nat) (across : Bool) (cls : WordClass) :
    Except Panic (Nat × LineBuffer) := do
  let (number, motion) ← wordStartFrom b.lines across cls b.cursor.line
    { offset := b.cursor.offset, remaining := amount, moved := 0 }
  return b.afterWords number motion

end LineBuffer

end LineEditor
