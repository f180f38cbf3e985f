import ExportWatch.Text.Cut

/-! The words of a command line. A command takes options, may take one plain
argument, and may have commands below it. -/

namespace ExportWatch.CommandLine

open Text

/-- Why a command line is not carried out. A refused value has a message only when
its reader gave one. -/
inductive UsageFault where
  | unknownArgument
  | unknownCommand
  | badValue
  | missingCommand
  | missingArgument
  | repeated
  | unneededValue
  | refusedValue (message : String)
  | help
  | helpForLackOfArguments
  | version
  deriving DecidableEq, Repr

abbrev ValueReader (Setting : Type) : Type :=
  String → Except UsageFault Setting

/-- An option without a reader is a flag. Few options take a value that starts
with a hyphen as a word of its own. -/
structure OptionRule (Setting : Type) where
  name : String
  flag : Setting
  read : Option (ValueReader Setting)
  allowsHyphen : Bool

structure CommandRule (Setting : Type) where
  name : String
  options : List (OptionRule Setting)
  argument : Bool

structure Grammar (Setting : Type) where
  options : List (OptionRule Setting)
  commands : List (CommandRule Setting)

/-- What has been read of one command. An option waits for its value, and the
value waits to be read until the next option or argument. -/
structure Waiting (Setting : Type) where
  option : OptionRule Setting
  value : Option String

structure Words (Setting : Type) where
  settings : List (String × Setting)
  waiting : Option (Waiting Setting)
  argument : Option String
  onlyArguments : Bool

variable {Setting : Type}

namespace Words

def none : Words Setting where
  settings := []
  waiting := .none
  argument := .none
  onlyArguments := false

def setting? (words : Words Setting) (name : String) : Option Setting :=
  words.settings.lookup name

/-! An option may be given once. -/

def give (words : Words Setting) (option : OptionRule Setting)
    (setting : Unit → Except UsageFault Setting) : Except UsageFault (Words Setting) := do
  if (words.setting? option.name).isSome then .error .repeated
  else return { words with settings := (option.name, ← setting ()) :: words.settings }

def giveValue (words : Words Setting) (option : OptionRule Setting) (value : String) :
    Except UsageFault (Words Setting) :=
  words.give option fun _ =>
    match option.read with
    | some read => read value
    | .none => .ok option.flag

def settle (words : Words Setting) : Except UsageFault (Words Setting) :=
  let settled := { words with waiting := .none }
  match words.waiting with
  | .none => .ok settled
  | some ⟨_, .none⟩ => .error .badValue
  | some ⟨option, some value⟩ => settled.giveValue option value

/-- The option whose value comes next, if there is one. -/
def awaited? (words : Words Setting) : Option (OptionRule Setting) :=
  match words.waiting with
  | some ⟨option, .none⟩ => some option
  | _ => .none

def takesHyphen (words : Words Setting) : Bool :=
  words.awaited?.any (·.allowsHyphen)

end Words

/-- The parts of a word that starts with two hyphens: the name and the value
behind the first equals sign. -/
structure LongWord where
  name : String
  value : Option String
  deriving DecidableEq, Repr

def longWord? (word : String) : Option LongWord :=
  match word.toList with
  | '-' :: '-' :: rest =>
      match cutAt '=' rest with
      | some (name, value) => some ⟨String.ofList name, some (String.ofList value)⟩
      | none => some ⟨String.ofList rest, none⟩
  | _ => none

def shortWord? (word : String) : Option (List Char) :=
  match word.toList with
  | '-' :: first :: others => some (first :: others)
  | _ => none

example : longWord? "--limit=1=2" = some ⟨"limit", some "1=2"⟩ := by decide
example : shortWord? "-" = none := by decide

/-- One level of commands. The version is asked for at the first level only. -/
structure Level (Setting : Type) where
  options : List (OptionRule Setting)
  commands : List (CommandRule Setting)
  argument : Bool
  isFirst : Bool

namespace Level

def readLong (level : Level Setting) (words : Words Setting) (word : LongWord) :
    Except UsageFault (Words Setting) :=
  match level.options.find? (·.name = word.name) with
  | some option =>
      match option.read, word.value with
      | some _, some value => do (← words.settle).giveValue option value
      | some _, .none => do
          return { ← words.settle with waiting := some ⟨option, .none⟩ }
      | .none, some _ => .error .unneededValue
      | .none, .none => do (← words.settle).giveValue option ""
  | none =>
      if word.name = "help" || (level.isFirst && word.name = "version") then
        match word.value with
        | some _ => .error .unneededValue
        | .none => do
            let _ ← words.settle
            .error (if word.name = "help" then .help else .version)
      else .error .unknownArgument

/-! Single letters ask for help or for the version. -/

def readShort (level : Level Setting) (words : Words Setting) : List Char →
    Except UsageFault (Words Setting)
  | 'h' :: _ => do
      let _ ← words.settle
      .error .help
  | 'V' :: _ =>
      if level.isFirst then do
        let _ ← words.settle
        .error .version
      else .error .unknownArgument
  | _ => .error .unknownArgument

def refuseArgument (level : Level Setting) (words : Words Setting) (word : String) : UsageFault :=
  if level.commands.isEmpty then .unknownArgument
  else if words.onlyArguments && (word = "help" || level.commands.any (·.name = word)) then
    .unknownArgument
  else .unknownCommand

def readArgument (level : Level Setting) (words : Words Setting) (word : String) :
    Except UsageFault (Words Setting) :=
  if level.argument && words.argument.isNone then do
    return { ← words.settle with argument := some word }
  else .error (level.refuseArgument words word)

def readPlain (level : Level Setting) (words : Words Setting) (word : String) :
    Except UsageFault (Words Setting) :=
  match words.awaited? with
  | some option => .ok { words with waiting := some ⟨option, some word⟩ }
  | none => level.readArgument words word

/-- One word that does not name a command. Behind two hyphens alone, all words are
arguments. -/
def readWord (level : Level Setting) (words : Words Setting) (word : String) :
    Except UsageFault (Words Setting) :=
  if words.onlyArguments then level.readArgument words word
  else if words.takesHyphen then level.readPlain words word
  else if word = "--" then .ok { words with onlyArguments := true }
  else
    match longWord? word, shortWord? word with
    | some long, _ => level.readLong words long
    | none, some letters => level.readShort words letters
    | none, none => level.readPlain words word

end Level

/-- Help may be asked for by a command, about one of the commands. -/
def readHelp (commands : List (CommandRule Setting)) : List String → UsageFault
  | [] => .help
  | [word] =>
      if word = "help" || commands.any (·.name = word) then .help else .unknownCommand
  | _ => .unknownCommand

/-! All words of one level, and what is left when a command is named. -/

structure Reading (Setting : Type) where
  words : Words Setting
  command : Option (CommandRule Setting)
  rest : List String

def readLevel (level : Level Setting) (words : Words Setting) :
    List String → Except UsageFault (Reading Setting)
  | [] => .ok ⟨words, none, []⟩
  | head :: tail =>
      let mayName := !words.onlyArguments && words.awaited?.isNone && !level.commands.isEmpty
      if mayName && head = "help" then .error (readHelp level.commands tail)
      else
        match if mayName then level.commands.find? (·.name = head) else none with
        | some command => .ok ⟨words, some command, tail⟩
        | none => do
            let next ← level.readWord words head
            readLevel level next tail

/-! A whole line. What is given behind the command goes before what is given in
front of it. -/

structure Line (Setting : Type) where
  command : String
  argument : Option String
  settings : List (String × Setting)

def readCommand (grammar : Grammar Setting) (command : CommandRule Setting) (rest : List String) :
    Except UsageFault (Words Setting) := do
  let level : Level Setting :=
    { options := grammar.options ++ command.options
      commands := []
      argument := command.argument
      isFirst := false }
  let reading ← readLevel level .none rest
  let words ← reading.words.settle
  if command.argument && words.argument.isNone then .error .missingArgument
  else return words

/-- `nothingGiven` says that no setting came from elsewhere. -/
def readLine (grammar : Grammar Setting) (nothingGiven : Bool) (line : List String) :
    Except UsageFault (Line Setting) := do
  let level : Level Setting :=
    { options := grammar.options
      commands := grammar.commands
      argument := false
      isFirst := true }
  let reading ← readLevel level .none line
  match reading.command with
  | none =>
      let words ← reading.words.settle
      .error (if nothingGiven && words.settings.isEmpty then .helpForLackOfArguments
        else .missingCommand)
  | some command =>
      let inner ← readCommand grammar command reading.rest
      let outer ← reading.words.settle
      return ⟨command.name, inner.argument, inner.settings ++ outer.settings⟩

end ExportWatch.CommandLine
