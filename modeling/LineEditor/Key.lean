import LineEditor.Action
import LineEditor.Text

/-!
# Keys

A key press means an action, a text to insert, or a digit of a number that says how often the next
key is to act.

* key events (`Key`);
* the key bindings (`Key.action?`, `Key.text?`);
* the number typed before a key (`Keyboard`, `Keyboard.resolve`).
-/

namespace LineEditor

/-! ## Key events -/

/-- The key that was hit. -/
inductive KeyCode where
  | char (c : Char)
  | function (n : Nat)
  | backspace
  | enter
  | left
  | right
  | up
  | down
  | home
  | «end»
  | pageUp
  | pageDown
  | tab
  | backTab
  | delete
  | insert
  | null
  | escape
  deriving Repr, DecidableEq, Inhabited

/-- The modifier keys held down. -/
structure Modifiers where
  shift : Bool := false
  control : Bool := false
  alt : Bool := false
  super : Bool := false
  hyper : Bool := false
  meta_ : Bool := false
  deriving Repr, DecidableEq, Inhabited

namespace Modifiers

/-- No modifier. -/
def none : Modifiers := {}

/-- Control and nothing else. -/
def controlOnly : Modifiers := { control := true }

/-- Alt and nothing else. -/
def altOnly : Modifiers := { alt := true }

/-- Whether no modifier but shift is held. -/
def isPlain (m : Modifiers) : Bool :=
  decide ({ m with shift := false } = none)

/-- Whether a character types itself: without control and alt, or with both of them, which is how
some keyboards reach more characters. -/
def isTyping (m : Modifiers) : Bool :=
  m.control == m.alt

end Modifiers

/-- Whether a key went down, was held, or was let go. -/
inductive KeyMotion where
  | press
  | repeat_
  | release
  deriving Repr, DecidableEq, Inhabited

/-- One event of the keyboard. -/
structure Key where
  code : KeyCode
  modifiers : Modifiers := {}
  motion : KeyMotion := .press
  deriving Repr, DecidableEq, Inhabited

/-! ## Bindings -/

/-- The actions bound to a letter with control. -/
def controlBindings : List (Char × Action) :=
  [('b', .cursorLeft), ('f', .cursorRight), ('p', .cursorUp), ('n', .cursorDown),
   ('h', .backspace), ('d', .endInput), ('k', .killToLineEnd), ('u', .killToLineStart),
   ('w', .killPreviousSpaceDelimitedWord), ('y', .yank), ('c', .abortLine), ('l', .clearScreen)]

/-- The actions bound to a letter with alt. -/
def altBindings : List (Char × Action) :=
  [('d', .killNextWord), ('y', .popYank)]

namespace Key

/-- The action bound to a letter, which may be written large or small. -/
def letterAction? (m : Modifiers) (c : Char) : Option Action :=
  if m = .controlOnly then controlBindings.lookup c.toLower
  else if m = .altOnly then altBindings.lookup c.toLower
  else none

/-- The action bound to a key. -/
def action? (key : Key) : Option Action :=
  match key.code with
  | .char c => letterAction? key.modifiers c
  | .backspace =>
    if key.modifiers = .altOnly then some .killPreviousWord
    else if key.modifiers.isPlain then some .backspace else none
  | .delete => if key.modifiers.isPlain then some .delete else none
  | .left => if key.modifiers.isPlain then some .cursorLeft else none
  | .right => if key.modifiers.isPlain then some .cursorRight else none
  | .up => if key.modifiers.isPlain then some .cursorUp else none
  | .down => if key.modifiers.isPlain then some .cursorDown else none
  | .enter => if key.modifiers = .none then some .acceptInput else none
  | _ => none

/-- The text that a key types. -/
def text? (key : Key) : Option Text :=
  match key.code with
  | .char c => if key.modifiers.isTyping then some [c] else none
  | .tab => if key.modifiers = .none then some ['\t'] else none
  | .enter => if key.modifiers.alt || key.modifiers.shift then some ['\n'] else none
  | _ => none

/-- The digit of a numeric argument that a key stands for. -/
def digit? (key : Key) : Option Nat :=
  match key.code with
  | .char c =>
    if key.modifiers = .altOnly && c.isDigit then some (c.toNat - '0'.toNat) else none
  | _ => none

end Key

/-! ## Numeric arguments -/

/-- The largest number that can be typed before a key. -/
def maxNumericArgument : Nat := 10000

/-- What the keyboard remembers between two keys: the number typed so far. -/
structure Keyboard where
  argument : Option Nat := none
  deriving Repr, DecidableEq, Inhabited

/-- What a key event means. -/
inductive KeyMeaning where
  /-- An action, to be done this many times. -/
  | action (action : Action) (times : Nat)
  /-- A text, to be inserted this many times. -/
  | text (text : Text) (times : Nat)
  /-- A digit of a numeric argument. -/
  | pending
  /-- Nothing. -/
  | unbound
  /-- Not a key press. -/
  | ignored
  deriving Repr, DecidableEq, Inhabited

namespace Keyboard

/-- Adds a digit to the number typed so far. -/
def pushDigit (keyboard : Keyboard) (digit : Nat) : Keyboard :=
  { argument := some (min (keyboard.argument.getD 0 * 10 + digit) maxNumericArgument) }

/-- How often the next key acts: the number typed, but at least once. -/
def times (keyboard : Keyboard) : Nat :=
  max (keyboard.argument.getD 1) 1

/-- What a key event means, and the keyboard after it.  Letting a key go means nothing and changes
nothing; every other key but a digit uses up the number typed. -/
def resolve (keyboard : Keyboard) (key : Key) : KeyMeaning × Keyboard :=
  if key.motion = .release then (.ignored, keyboard)
  else
    match key.digit? with
    | some digit => (.pending, keyboard.pushDigit digit)
    | none =>
      match key.action?, key.text? with
      | some action, _ => (.action action keyboard.times, {})
      | none, some text => (.text text keyboard.times, {})
      | none, none => (.unbound, {})

end Keyboard

end LineEditor
