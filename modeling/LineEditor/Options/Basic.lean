import LineEditor.Text

/-!
# Command line options

The options of the program: their names, which of them take a value, what holds where one is not given,
and what they demand of each other.  How they are read from the arguments is another matter.

* options (`Options`, `Options.Error`);
* names (`Valued`, `Flag`);
* options as they are given (`Draft`), and what they demand of each other (`Draft.finish`).
-/

namespace LineEditor

/-- The options of the program. -/
structure Options where
  prompt : Text := "> ".toList
  continuationPrompt : Option Text := none
  emptyContinuationPrompt : Bool := false
  noMarkPrompts : Bool := false
  logFile : Option Text := none
  logFilter : Option Text := none
  logAppend : Bool := false
  deriving Repr, DecidableEq, Inhabited

namespace Options

/-- Why arguments give no options. -/
inductive Error where
  | unknownArgument
  /-- A value is missing or cannot be used. -/
  | invalidValue
  /-- An option is given twice, or with one that excludes it. -/
  | argumentConflict
  /-- An option is given without one that it needs. -/
  | missingRequired
  /-- A value is given where none is taken. -/
  | tooManyValues
  /-- Help was asked for. -/
  | displayHelp
  /-- The version was asked for. -/
  | displayVersion
  deriving Repr, DecidableEq, Inhabited

/-! ## Names -/

/-- The options that take a value. -/
inductive Valued where
  | prompt
  | continuationPrompt
  | logFile
  | logFilter
  deriving Repr, DecidableEq, Inhabited

/-- The options that take no value. -/
inductive Flag where
  | emptyContinuationPrompt
  | noMarkPrompts
  | logAppend
  deriving Repr, DecidableEq, Inhabited

/-- The name of an option that takes a value. -/
def Valued.text : Valued → Text
  | .prompt => "prompt".toList
  | .continuationPrompt => "continuation-prompt".toList
  | .logFile => "log-file".toList
  | .logFilter => "log-filter".toList

/-- The name of an option that takes no value. -/
def Flag.text : Flag → Text
  | .emptyContinuationPrompt => "empty-continuation-prompt".toList
  | .noMarkPrompts => "no-mark-prompts".toList
  | .logAppend => "log-append".toList

/-! ## Options as they are given -/

/-- The options that are given; of an option with a value, whether it is given is known too. -/
structure Draft where
  prompt : Option Text := none
  continuationPrompt : Option Text := none
  emptyContinuationPrompt : Bool := false
  noMarkPrompts : Bool := false
  logFile : Option Text := none
  logFilter : Option Text := none
  logAppend : Bool := false
  deriving Repr, DecidableEq, Inhabited

namespace Draft

/-- The value given for an option. -/
def value? (draft : Draft) : Valued → Option Text
  | .prompt => draft.prompt
  | .continuationPrompt => draft.continuationPrompt
  | .logFile => draft.logFile
  | .logFilter => draft.logFilter

/-- The draft with a value for an option. -/
def setValue (draft : Draft) (value : Text) : Valued → Draft
  | .prompt => { draft with prompt := some value }
  | .continuationPrompt => { draft with continuationPrompt := some value }
  | .logFile => { draft with logFile := some value }
  | .logFilter => { draft with logFilter := some value }

/-- Whether an option without a value was given. -/
def isSet (draft : Draft) : Flag → Bool
  | .emptyContinuationPrompt => draft.emptyContinuationPrompt
  | .noMarkPrompts => draft.noMarkPrompts
  | .logAppend => draft.logAppend

/-- The draft with an option without a value. -/
def set (draft : Draft) : Flag → Draft
  | .emptyContinuationPrompt => { draft with emptyContinuationPrompt := true }
  | .noMarkPrompts => { draft with noMarkPrompts := true }
  | .logAppend => { draft with logAppend := true }

/-- The options, if none excludes another one that is given and none needs one that is not.  A
prompt that is not given is the default one. -/
def finish (draft : Draft) : Except Error Options :=
  if draft.emptyContinuationPrompt && draft.continuationPrompt.isSome then
    .error .argumentConflict
  else if (draft.logFilter.isSome || draft.logAppend) && draft.logFile.isNone then
    .error .missingRequired
  else
    .ok
      { prompt := draft.prompt.getD "> ".toList
        continuationPrompt := draft.continuationPrompt
        emptyContinuationPrompt := draft.emptyContinuationPrompt
        noMarkPrompts := draft.noMarkPrompts
        logFile := draft.logFile
        logFilter := draft.logFilter
        logAppend := draft.logAppend }

end Draft

end Options

end LineEditor
