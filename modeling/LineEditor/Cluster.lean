import LineEditor.Text
import LineEditor.Unicode.Break
import LineEditor.Unicode.Conjunct
import LineEditor.Unicode.Emoji

/-!
# Display clusters

A display cluster is what a reader sees as one character: a letter with its accents, a Hangul
syllable, a conjunct, a flag, a joined picture.  `Text.clusters` cuts a text into its clusters from
left to right.  Whether a character joins the cluster before it depends on that cluster alone, so a
text cut between two of its clusters falls into the same clusters on both sides.

* what of a cluster decides on the next character (`Tail`, `Tail.joins`);
* clusters of a text (`Text.clusters`);
* clusters taken off either end (`Text.takeFrom`).
-/

namespace LineEditor

open Unicode

/-! ## The end of a cluster -/

/-- How far the end of a cluster is a picture that may be joined with another one. -/
inductive PictureTail where
  /-- The cluster does not end in a picture. -/
  | none
  /-- The cluster ends in a picture, or in one with marks on it. -/
  | picture
  /-- The cluster ends in a picture and a joiner. -/
  | joined
  deriving Repr, DecidableEq, Inhabited

/-- How far the end of a cluster is a conjunct that takes another consonant. -/
inductive ConjunctTail where
  /-- The cluster does not end in a consonant. -/
  | none
  /-- The cluster ends in a consonant, or in one with marks on it. -/
  | consonant
  /-- The cluster ends in a consonant and a linker. -/
  | linked
  deriving Repr, DecidableEq, Inhabited

namespace PictureTail

/-- The state after one more character of class `b`. -/
def push (tail : PictureTail) (b : Break) (c : Char) : PictureTail :=
  if isPictographic c then .picture
  else match tail, b with
    | .picture, .extend => .picture
    | .picture, .joiner => .joined
    | _, _ => .none

end PictureTail

namespace ConjunctTail

/-- The state after one more character of class `b`.  The zero-width non-joiner is the one mark
that ends a conjunct. -/
def push (tail : ConjunctTail) (b : Break) (c : Char) : ConjunctTail :=
  if isConsonant c then .consonant
  else match tail with
    | .none => .none
    | _ =>
      if isLinker c then .linked
      else if (b = .extend || b = .joiner) && c ≠ '\u200c' then tail
      else .none

end ConjunctTail

/-- What of a cluster decides whether the next character joins it. -/
structure Tail where
  /-- The class of its last character. -/
  last : Break
  /-- Whether its last character is a regional indicator that waits for a second one. -/
  unpaired : Bool
  picture : PictureTail
  conjunct : ConjunctTail
  deriving Repr, DecidableEq, Inhabited

namespace Tail

/-- The end of no cluster at all. -/
def empty : Tail :=
  { last := .other, unpaired := false, picture := .none, conjunct := .none }

/-- The end of the cluster after one more character. -/
def push (tail : Tail) (c : Char) : Tail :=
  let b := Break.ofChar c
  { last := b
    unpaired := b = .regional && !(tail.last = .regional && tail.unpaired)
    picture := tail.picture.push b c
    conjunct := tail.conjunct.push b c }

/-- The end of a cluster that consists of one character. -/
def start (c : Char) : Tail :=
  empty.push c

/-- Whether a character of class `b` joins a cluster with this end. -/
def joinsClass (tail : Tail) (b : Break) (c : Char) : Bool :=
  if tail.last = .carriageReturn && b = .lineFeed then true
  else if tail.last.isAlone || b.isAlone then false
  else if b.isTrailing || tail.last = .leading then true
  else if Break.formSyllable tail.last b then true
  else if tail.last = .regional && b = .regional then tail.unpaired
  else (tail.picture = .joined && isPictographic c) ||
    (tail.conjunct = .linked && isConsonant c)

/-- Whether the character `c` joins a cluster with this end. -/
def joins (tail : Tail) (c : Char) : Bool :=
  tail.joinsClass (Break.ofChar c) c

end Tail

/-! ## Clusters of a text -/

namespace Text

/-- The clusters of a text that goes on after an unfinished cluster.  The unfinished cluster ends
like `tail` and is given in reverse. -/
def clustersFrom (tail : Tail) (current : Text) : Text → List Text
  | [] => [current.reverse]
  | c :: rest =>
    if tail.joins c then clustersFrom (tail.push c) (c :: current) rest
    else current.reverse :: clustersFrom (Tail.start c) [c] rest

/-- The display clusters of a text, from left to right. -/
def clusters : Text → List Text
  | [] => []
  | c :: rest => clustersFrom (Tail.start c) [c] rest

/-- The two ends of a row of clusters. -/
inductive Side where
  | front
  | back
  deriving Repr, DecidableEq, Inhabited

/-- Takes one cluster off an end of a row of clusters, if there is one left. -/
def takeFrom (clusters : List Text) : Side → Option Text × List Text
  | .front => (clusters.head?, clusters.tail)
  | .back => (clusters.getLast?, clusters.dropLast)

end Text

end LineEditor
