import LineEditor.Buffer.Motion
import LineEditor.Unicode.Alphabetic
import LineEditor.Unicode.Numeric
import LineEditor.Unicode.WhiteSpace

/-!
# Motion by words

A word is a run of clusters of a class.  A motion by words goes from the cursor over the clusters
in its way and counts stops: where it leaves a word, and at the end of a line in which it has
passed anything.  It ends at the last stop that was asked for; if there are fewer, it goes to the
end of its way; if there is none, it does not move.

* classes of clusters (`WordClass`);
* stops on the way from the cursor (`wordScan`);
* motion by words (`moveToWordEnd`, `moveToWordStart`).
-/

namespace LineEditor

open Unicode

/-! ## Word classes -/

/-- Whether a cluster has a letter or a digit in it. -/
def isWordCluster (cluster : Text) : Bool :=
  cluster.any fun c => isAlphabetic c || isNumeric c

/-- Whether a cluster has no white space in it. -/
def isNonSpaceCluster (cluster : Text) : Bool :=
  !cluster.any isWhiteSpace

/-- Which clusters are part of a word. -/
inductive WordClass where
  /-- Letters and digits; punctuation and white space part words. -/
  | alphanumeric
  /-- All but white space. -/
  | nonSpace
  deriving Repr, DecidableEq, Inhabited

/-- Whether a cluster is part of a word. -/
def WordClass.contains : WordClass → Text → Bool
  | .alphanumeric => isWordCluster
  | .nonSpace => isNonSpaceCluster

namespace Buffer

/-! ## Stops -/

/-- Whether a scan stops before `cluster`: at a line break after anything in the line, and
otherwise where a word ends. -/
def isWordStop (cls : WordClass) (inWord started : Bool) (cluster : Text) : Bool :=
  if cluster = ['\n'] then started else inWord && !cls.contains cluster

/-- Goes over clusters in search of the `n`-th stop.  `inWord` says whether the last cluster was
part of a word, `started` whether the line had a cluster yet.  Returns the number of stops met, at
most `n`, and the number of characters up to the `n`-th, or of all if there are fewer. -/
def wordScan (cls : WordClass) : List Text → Bool → Bool → Nat → Nat × Nat
  | _, _, _, 0 => (0, 0)
  | [], _, started, _ + 1 => (if started then 1 else 0, 0)
  | cluster :: rest, inWord, started, n + 1 =>
    let stops := isWordStop cls inWord started cluster
    if stops && n = 0 then (1, 0)
    else
      let (met, passed) :=
        wordScan cls rest (cls.contains cluster) (cluster ≠ ['\n']) (if stops then n else n + 1)
      (if stops then met + 1 else met, cluster.length + passed)

/-- The stops and the characters of a motion over at most `n` stops.  A motion without a stop
passes nothing. -/
def wordWay (cls : WordClass) (way : List Text) (n : Nat) : Nat × Nat :=
  let (met, passed) := wordScan cls way false false n
  if met = 0 then (0, 0) else (met, passed)

/-! ## Motion -/

/-- The way to the end of the `n`-th word after the cursor. -/
def wordEnd (b : Buffer) (n : Nat) (across : Bool) (cls : WordClass) : Nat × Nat :=
  wordWay cls (b.ahead across) n

/-- The way to the start of the `n`-th word before the cursor. -/
def wordStart (b : Buffer) (n : Nat) (across : Bool) (cls : WordClass) : Nat × Nat :=
  wordWay cls (b.behind across) n

/-- Moves on past at most `n` word ends and line ends; how many it were. -/
def moveToWordEnd (b : Buffer) (n : Nat) (across : Bool) (cls : WordClass) : Nat × Buffer :=
  let (met, passed) := b.wordEnd n across cls
  (met, b.advance passed)

/-- Moves back past at most `n` word starts and line starts; how many it were. -/
def moveToWordStart (b : Buffer) (n : Nat) (across : Bool) (cls : WordClass) : Nat × Buffer :=
  let (met, passed) := b.wordStart n across cls
  (met, b.retreat passed)

end Buffer

end LineEditor
