import LineEditor.Buffer.Basic

/-!
# Motion by clusters

The cursor moves over whole clusters.  A line break is a cluster of its own, so it costs one unit
of the motion like any other; a motion that may not cross line breaks stops before the first one.
Every function returns the number of units done, which is less than asked for only at the end of
the way.

* the way from the cursor (`behind`, `ahead`);
* motion and erasure by clusters (`moveLeft`, `moveRight`, `eraseBefore`, `eraseAfter`).
-/

namespace LineEditor.Buffer

/-- The clusters before the cursor, the nearest first: those of the line, or with `across` those
of the whole text. -/
def behind (b : Buffer) (across : Bool) : List Text :=
  (if across then b.before else b.before.lastLine).clusters.reverse

/-- The clusters after the cursor, the nearest first: those of the line, or with `across` those
of the whole text. -/
def ahead (b : Buffer) (across : Bool) : List Text :=
  (if across then b.after else b.after.firstLine).clusters

/-- Moves back over at most `n` clusters; how many it were. -/
def moveLeft (b : Buffer) (n : Nat) (across : Bool) : Nat × Buffer :=
  let passed := (b.behind across).take n
  (passed.length, b.retreat passed.flatten.length)

/-- Moves on over at most `n` clusters; how many it were. -/
def moveRight (b : Buffer) (n : Nat) (across : Bool) : Nat × Buffer :=
  let passed := (b.ahead across).take n
  (passed.length, b.advance passed.flatten.length)

/-- Erases at most `n` clusters before the cursor; how many it were. -/
def eraseBefore (b : Buffer) (n : Nat) (across : Bool) : Nat × Buffer :=
  let passed := (b.behind across).take n
  (passed.length, (b.cutBefore passed.flatten.length).2)

/-- Erases at most `n` clusters after the cursor; how many it were. -/
def eraseAfter (b : Buffer) (n : Nat) (across : Bool) : Nat × Buffer :=
  let passed := (b.ahead across).take n
  (passed.length, (b.cutAfter passed.flatten.length).2)

end LineEditor.Buffer
