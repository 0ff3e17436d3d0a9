import LineEditor.Options.Basic

/-!
# Reading command line options

How the program's arguments give its options.  This is done by clap, the library that the program leaves
the reading of its arguments to, and which is not a part of it; the functions here stand for it and follow
what is documented of it.  Arguments are read from left to right.  A value follows its option after an
equals sign or as the next argument; an option whose value is still to come is open, and is settled when
the next option comes or the arguments end.  What options demand of each other is checked on all of them
together.

* names and arguments (`Name`, `Argument`);
* one more option (`Draft.addValue`, `Draft.addFlag`);
* reading (`Reading`, `ofArguments`).
-/

namespace LineEditor.Options

/-! ## Names -/

/-- What an option's name stands for. -/
inductive Name where
  | valued (name : Valued)
  | flag (name : Flag)
  | help
  | version
  deriving Repr, DecidableEq, Inhabited

/-- All names. -/
def Name.all : List Name :=
  [.valued .prompt, .valued .continuationPrompt, .flag .emptyContinuationPrompt,
   .flag .noMarkPrompts, .valued .logFile, .valued .logFilter, .flag .logAppend, .help, .version]

/-- The text of a name. -/
def Name.text : Name → Text
  | .valued name => name.text
  | .flag name => name.text
  | .help => "help".toList
  | .version => "version".toList

/-- The name with the given text. -/
def Name.ofText? (text : Text) : Option Name :=
  Name.all.find? fun name => name.text = text

/-! ## Arguments -/

/-- What an argument looks like. -/
inductive Argument where
  /-- Two dashes, after which no option follows. -/
  | terminator
  /-- Two dashes, a name, and the text after the first equals sign, if there is one. -/
  | long (name : Text) (value : Option Text)
  /-- One dash and at least one letter, the first of which is given. -/
  | short (letter : Char)
  /-- Anything else, a single dash included. -/
  | plain (text : Text)
  deriving Repr, DecidableEq, Inhabited

/-- What an argument looks like. -/
def Argument.ofText : Text → Argument
  | ['-', '-'] => .terminator
  | '-' :: '-' :: rest =>
    let name := rest.takeWhile (· ≠ '=')
    .long name (rest.drop name.length).tail?
  | '-' :: letter :: _ => .short letter
  | text => .plain text

/-! ## One more option -/

namespace Draft

/-- The draft with one more option that has a value.  No option is given twice, and the path of a
file is not empty. -/
def addValue (draft : Draft) (name : Valued) (value : Text) : Except Error Draft :=
  if (draft.value? name).isSome then .error .argumentConflict
  else if name = .logFile && value.isEmpty then .error .invalidValue
  else .ok (draft.setValue value name)

/-- The draft with one more option that has no value.  No option is given twice. -/
def addFlag (draft : Draft) (flag : Flag) : Except Error Draft :=
  if draft.isSet flag then .error .argumentConflict else .ok (draft.set flag)

end Draft

/-! ## Reading -/

/-- An option that is not settled: its value is still to come, or is the argument after it. -/
structure Opened where
  name : Valued
  value : Option Text
  deriving Repr, DecidableEq, Inhabited

/-- How far the arguments have been read. -/
structure Reading where
  draft : Draft := {}
  opened : Option Opened := none
  deriving Repr, DecidableEq, Inhabited

namespace Reading

/-- The draft with the open option, which must have its value. -/
def settle (reading : Reading) : Except Error Draft :=
  match reading.opened with
  | none => .ok reading.draft
  | some { value := none, .. } => .error .invalidValue
  | some { name, value := some value } => reading.draft.addValue name value

/-- Reads an option that is given by its name. -/
def readNamed (reading : Reading) : Name → Option Text → Except Error Reading
  | .valued name, some value => do
    let draft ← reading.settle
    return { draft := ← draft.addValue name value }
  | .valued name, none => do
    return { draft := ← reading.settle, opened := some { name, value := none } }
  | _, some _ => .error .tooManyValues
  | .flag flag, none => do
    let draft ← reading.settle
    return { draft := ← draft.addFlag flag }
  | .help, none => do
    let _ ← reading.settle
    throw .displayHelp
  | .version, none => do
    let _ ← reading.settle
    throw .displayVersion

/-- Reads an argument that is no value of the option before it. -/
def readArgument (reading : Reading) : Argument → Except Error Reading
  | .long text value =>
    match Name.ofText? text with
    | some name => reading.readNamed name value
    | none => .error .unknownArgument
  | .short letter =>
    if letter = 'h' then reading.readNamed .help none
    else if letter = 'V' then reading.readNamed .version none
    else .error .unknownArgument
  | .terminator | .plain _ => .error .unknownArgument

/-- The open option with its value, if it waits for one and the argument is no dash argument. -/
def takeValue? (reading : Reading) (argument : Text) : Option Reading :=
  match reading.opened, Argument.ofText argument with
  | some { name, value := none }, .plain text =>
    some { reading with opened := some { name, value := some text } }
  | _, _ => none

/-- Reads the arguments that are left. -/
def readAll (reading : Reading) : List Text → Except Error Draft
  | [] => reading.settle
  | argument :: rest =>
    match reading.takeValue? argument with
    | some reading => reading.readAll rest
    | none =>
      if Argument.ofText argument = .terminator then
        if rest.isEmpty then reading.settle else .error .unknownArgument
      else do
        let reading ← reading.readArgument (Argument.ofText argument)
        reading.readAll rest

end Reading

/-- The options that the arguments of the program give. -/
def ofArguments (arguments : List Text) : Except Error Options := do
  let draft ← Reading.readAll {} arguments
  draft.finish

end LineEditor.Options
