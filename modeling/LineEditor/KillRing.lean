import LineEditor.Text

/-!
# The kill ring

Texts that were killed, the latest in front.  A yank takes the front entry; rotating the ring brings
an older one to the front.  No entry is empty.
-/

namespace LineEditor

/-- Killed texts, the front entry first. -/
structure KillRing where
  entries : List Text
  deriving Repr, DecidableEq, Inhabited

namespace KillRing

/-- A ring without entries. -/
def empty : KillRing := { entries := [] }

/-- Puts a new entry in front.  Empty text makes no entry. -/
def push (ring : KillRing) (text : Text) : KillRing :=
  if text.isEmpty then ring else { entries := text :: ring.entries }

/-- Adds text to the end of the front entry, or makes it the first entry. -/
def append (ring : KillRing) (text : Text) : KillRing :=
  match ring.entries with
  | [] => ring.push text
  | front :: rest => { entries := (front ++ text) :: rest }

/-- The front entry, or no text if there is none. -/
def front (ring : KillRing) : Text :=
  ring.entries.headD []

/-- Moves the front entry to the back.  Fewer than two entries cannot be rotated: then the ring
stays as it is and there is no text to return, otherwise the new front is returned. -/
def rotate (ring : KillRing) : Text × KillRing :=
  match ring.entries with
  | first :: second :: rest => (second, { entries := second :: rest ++ [first] })
  | _ => ([], ring)

/-- The number of entries. -/
def size (ring : KillRing) : Nat := ring.entries.length

/-- Whether there are no entries. -/
def isEmpty (ring : KillRing) : Bool := ring.entries.isEmpty

end KillRing

end LineEditor
