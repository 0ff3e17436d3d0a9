import LineEditor.Text

/-!
# Escape sequences

Text for a terminal may hold escape sequences, which tell the terminal something and take no cell.
`Escape.split?` cuts the sequence off that a text begins with.  There are four families: a control
sequence ends with its first character from `@` to `~`, a string sequence with a bell or a string
terminator, every other sequence has one character after the escape character, and an escape
character at the end of a text stands alone.  A sequence that never ends runs to the end of the
text.
-/

namespace LineEditor

/-- The escape character, with which every escape sequence begins. -/
def escapeChar : Char := '\x1b'

/-- The bell character. -/
def bellChar : Char := '\x07'

namespace Escape

/-- Whether `c` ends a control sequence. -/
def isFinal (c : Char) : Bool :=
  0x40 ≤ c.toNat && c.toNat ≤ 0x7E

/-- Whether `c` after the escape character begins a string sequence. -/
def opensString (c : Char) : Bool :=
  c = ']' || c = 'P' || c = '_' || c = '^'

/-- The rest of a control sequence and the text after it. -/
def splitControl : Text → Text × Text
  | [] => ([], [])
  | c :: rest =>
    if isFinal c then ([c], rest)
    else
      let (sequence, after) := splitControl rest
      (c :: sequence, after)

/-- The rest of a string sequence and the text after it. -/
def splitString : Text → Text × Text
  | [] => ([], [])
  | c :: rest =>
    if c = bellChar then ([c], rest)
    else if c = escapeChar && rest.head? = some '\\' then ([c, '\\'], rest.tail)
    else
      let (sequence, after) := splitString rest
      (c :: sequence, after)

/-- The rest of the sequence that an escape character begins, and the text after it. -/
def splitTail : Text → Text × Text
  | [] => ([], [])
  | c :: rest =>
    if c = '[' then
      let (sequence, after) := splitControl rest
      (c :: sequence, after)
    else if opensString c then
      let (sequence, after) := splitString rest
      (c :: sequence, after)
    else ([c], rest)

/-- The escape sequence that a text begins with and the text after it, if it begins with one. -/
def split? : Text → Option (Text × Text)
  | [] => none
  | c :: rest =>
    if c = escapeChar then
      let (sequence, after) := splitTail rest
      some (c :: sequence, after)
    else none

/-! ## Lengths -/

theorem length_splitControl (text : Text) :
    (splitControl text).2.length ≤ text.length := by
  induction text with
  | nil => simp [splitControl]
  | cons c rest ih =>
    simp only [splitControl]
    split <;> simp only [List.length_cons] <;> omega

theorem length_splitString (text : Text) :
    (splitString text).2.length ≤ text.length := by
  induction text with
  | nil => simp [splitString]
  | cons c rest ih =>
    simp only [splitString]
    split
    · simp
    · split
      · simp only [List.length_tail, List.length_cons]; omega
      · simp only [List.length_cons]; omega

theorem length_splitTail (text : Text) : (splitTail text).2.length ≤ text.length := by
  cases text with
  | nil => simp [splitTail]
  | cons c rest =>
    have hcontrol := length_splitControl rest
    have hstring := length_splitString rest
    simp only [splitTail]
    split
    · simp only [List.length_cons]; omega
    · split <;> simp only [List.length_cons] <;> omega

/-- What is left after an escape sequence is shorter than the text. -/
theorem length_lt_of_split? {text sequence after : Text}
    (h : split? text = some (sequence, after)) : after.length < text.length := by
  cases text with
  | nil => simp [split?] at h
  | cons c rest =>
    have htail := length_splitTail rest
    simp only [split?] at h
    split at h
    · simp only [Option.some.injEq, Prod.mk.injEq] at h
      simp only [List.length_cons, ← h.2]
      omega
    · simp at h

/-- A text that does not begin with the escape character begins with no escape sequence. -/
theorem split?_eq_none_iff (text : Text) :
    split? text = none ↔ text.head? ≠ some escapeChar := by
  cases text with
  | nil => simp [split?]
  | cons c rest =>
    simp only [split?, List.head?_cons, ne_eq, Option.some.injEq]
    split <;> simp_all

end Escape

end LineEditor
