/-!
# Actions

What the editor can be asked to do (`Action`), how it answers (`Outcome`), and what the last action
means for the next one (`Chain`): kills in a row gather in one entry of the kill ring, and only a
yank just made can be exchanged.
-/

namespace LineEditor

/-! ## Actions -/

/-- Everything the editor can be asked to do. -/
inductive Action where
  /-- Nothing at all. -/
  | idle
  | cursorLeft
  | cursorRight
  | cursorUp
  | cursorDown
  | backspace
  | delete
  | killToLineEnd
  | killToLineStart
  | killNextWord
  | killPreviousWord
  | killPreviousSpaceDelimitedWord
  | yank
  /-- Exchanges the text just yanked for an older one. -/
  | popYank
  /-- Inserts the text that is staged. -/
  | addText
  | acceptInput
  | endInput
  | abortLine
  | clearScreen
  deriving Repr, DecidableEq, Inhabited

namespace Action

/-- All actions. -/
def all : List Action :=
  [.idle, .cursorLeft, .cursorRight, .cursorUp, .cursorDown, .backspace, .delete, .killToLineEnd,
   .killToLineStart, .killNextWord, .killPreviousWord, .killPreviousSpaceDelimitedWord, .yank,
   .popYank, .addText, .acceptInput, .endInput, .abortLine, .clearScreen]

/-- Whether the action moves text to the kill ring. -/
def isKill : Action → Bool
  | .killToLineEnd | .killToLineStart | .killNextWord | .killPreviousWord
  | .killPreviousSpaceDelimitedWord => true
  | _ => false

/-- Whether the action inserts text from the kill ring. -/
def isYank : Action → Bool
  | .yank | .popYank => true
  | _ => false

end Action

/-! ## Chains -/

/-- What the last action that was done means for the next one. -/
inductive Chain where
  | idle
  /-- The next kill adds to the front entry of the kill ring. -/
  | killing
  /-- The text just yanked may be exchanged. -/
  | yanked
  deriving Repr, DecidableEq, Inhabited

/-- The chain after an action. -/
def Chain.after (action : Action) : Chain :=
  if action.isKill then .killing else if action.isYank then .yanked else .idle

/-! ## Outcomes -/

/-- The answer to a key, a text or an action. -/
inductive Outcome where
  | handled
  /-- There was nothing to do, as at the end of the text. -/
  | couldNotPerform
  /-- The key means nothing to the editor. -/
  | unhandled
  /-- The text is finished and is to be taken. -/
  | accepted
  /-- The end of the input was asked for on an empty line. -/
  | endOfStream
  deriving Repr, DecidableEq, Inhabited

namespace Outcome

/-- All outcomes. -/
def all : List Outcome := [.handled, .couldNotPerform, .unhandled, .accepted, .endOfStream]

/-- Whether the editing of this input is over. -/
def endsSession : Outcome → Bool
  | .accepted | .endOfStream => true
  | _ => false

end Outcome

end LineEditor
