import Polyquery.Backend
import Polyquery.Output.Format

/-!
# Arguments of the command line

Options stand in front of the name of a task and behind it; some belong to one
task, others to all.  An option with a value takes it from the same argument or
from the next one, and the value is looked at when the next option is read or the
arguments end.  A first word that names no task is kept as a task of its own name.
-/

namespace Polyquery.CommandLine

/-- What an option is for. -/
inductive Switch where
  | database
  | format
  | document
  | backend
  | placeholders
  | name
  | help
  | version
deriving DecidableEq

namespace Switch

/-- The spelling with two dashes. -/
def long : Switch → String
  | database => "database"
  | format => "format"
  | document => "query"
  | backend => "backend"
  | placeholders => "placeholders"
  | name => "name"
  | help => "help"
  | version => "version"

/-- The spelling with one dash. -/
def short : Switch → Char
  | database => 'd'
  | format => 'o'
  | document => 'q'
  | backend => 'b'
  | placeholders => 'p'
  | name => 'n'
  | help => 'h'
  | version => 'V'

def takesValue : Switch → Bool
  | database | format | document | backend | name => true
  | placeholders | help | version => false

/-- Whether an option takes a value.  The path of a document is not empty. -/
def admits : Switch → String → Bool
  | format, value => (Output.Format.ofName? value false).isSome
  | backend, value => (Backend.ofName? value false).isSome
  | document, value => !value.isEmpty
  | _, _ => true

end Switch

/-- Why arguments cannot be used, or what they ask for instead of a task. -/
inductive UsageError where
  | helpWithoutArguments
  | missingTask
  | help
  | version
  | unknownTask
  | invalidValue
  | missingOption
  | repeated
  | unknownArgument
  | unexpectedValue
deriving DecidableEq

/-- What is printed when the arguments are no task. -/
def UsageError.message : UsageError → String
  | helpWithoutArguments | help =>
    "Usage: [OPTIONS] <generate|run|schema|status>\n\n" ++
      "  generate -q FILE [-b BACKEND] [-p]  show what a query document becomes\n" ++
      "  run -q FILE                         run a query document\n" ++
      "  schema [-n NAME]                    show the tables and columns\n" ++
      "  status                              check the connection\n\n" ++
      "  -d, --database URL                  the address of the database\n" ++
      "  -o, --format table|json|toon        how the result is shown"
  | version => "0.1.0"
  | missingTask => "a task is required"
  | unknownTask => "there is no task with this name"
  | invalidValue => "an option has an invalid value or none"
  | missingOption => "a required option is missing"
  | repeated => "an option is given twice"
  | unknownArgument => "there is an unexpected argument"
  | unexpectedValue => "an option takes no value"

/-- Whether the text was asked for, and is no complaint. -/
def UsageError.isAnswer : UsageError → Bool
  | help | version => true
  | _ => false

/-- What is to be done. -/
inductive Task where
  /-- Show what a query document becomes. -/
  | generate (document : String) (backend : Option Backend) (placeholders : Bool)
  /-- Run a query document. -/
  | run (document : String)
  /-- Show the tables and columns. -/
  | schema (name : Option String)
  /-- Check the connection. -/
  | status
  | unknown (name : String)
deriving DecidableEq

/-- The file with the query document of a task. -/
def Task.document? : Task → Option String
  | generate document _ _ => some document
  | run document => some document
  | _ => none

/-- What the arguments ask for. -/
structure Invocation where
  /-- The address of the database. -/
  database : Option String
  format : Output.Format
  task : Task
deriving DecidableEq

/-! ### One level of options -/

/-- The names of the tasks. -/
inductive TaskName where
  | generate
  | run
  | schema
  | status
deriving DecidableEq

/-- The task with a name. -/
def TaskName.ofText? (text : String) : Option TaskName :=
  [("generate", generate), ("run", run), ("schema", schema), ("status", status)].lookup text

/-- The options of a level: in front of the task, or behind it. -/
def switches : Option TaskName → List Switch
  | none => [.database, .format, .help, .version]
  | some .generate => [.document, .backend, .placeholders, .database, .format, .help]
  | some .run => [.document, .database, .format, .help]
  | some .schema => [.name, .database, .format, .help]
  | some .status => [.database, .format, .help]

/-- An option whose value has not been looked at. -/
inductive Waiting where
  | nothing
  | value (switch : Switch)
  | check (switch : Switch) (value : String)
deriving DecidableEq

/-- What has been read on one level. -/
structure Level where
  task : Option TaskName
  given : List (Switch × String)
  waiting : Waiting
  /-- After two dashes there are no more options. -/
  closed : Bool
deriving DecidableEq

namespace Level

/-- A level before its first argument. -/
def start (task : Option TaskName) : Level := ⟨task, [], .nothing, false⟩

/-- The value of an option. -/
def value? (level : Level) (switch : Switch) : Option String :=
  level.given.lookup switch

/-- Whether an option was given. -/
def has (level : Level) (switch : Switch) : Bool :=
  (level.value? switch).isSome

/-- Take an option with its value. -/
def accept (level : Level) (switch : Switch) (value : String) : Except UsageError Level :=
  if level.has switch then .error .repeated
  else if !switch.admits value then .error .invalidValue
  else .ok { level with given := level.given ++ [(switch, value)], waiting := .nothing }

/-- Look at the value that waits. -/
def settle (level : Level) : Except UsageError Level :=
  match level.waiting with
  | .nothing => .ok level
  | .value _ => .error .invalidValue
  | .check switch value => level.accept switch value

/-- Take an option whose value stands in the same argument. -/
def attach (level : Level) (switch : Switch) (value : String) : Except UsageError Level := do
  (← level.settle).accept switch value

/-- Take an option whose value stands in the next argument. -/
def await (level : Level) (switch : Switch) : Except UsageError Level := do
  return { ← level.settle with waiting := .value switch }

/-- Take an option without a value. -/
def raise (level : Level) (switch : Switch) : Except UsageError Level := do
  let level ← level.settle
  match switch with
  | .help => throw .help
  | .version => throw .version
  | _ => level.accept switch ""

/-- Cut a text at its first equals sign. -/
def cut : List Char → List Char × Option (List Char)
  | [] => ([], none)
  | c :: rest =>
    if c = '=' then ([], some rest)
    else (c :: (cut rest).1, (cut rest).2)

/-- Take an argument that began with two dashes. -/
def takeLong (level : Level) (text : List Char) : Except UsageError Level :=
  let (name, value) := cut text
  match (switches level.task).find? fun switch => switch.long.toList = name, value with
  | none, _ => .error .unknownArgument
  | some switch, some value =>
    if switch.takesValue then level.attach switch (String.ofList value) else .error .unexpectedValue
  | some switch, none =>
    if switch.takesValue then level.await switch else level.raise switch

/-- Take the letters of an argument that began with one dash.  What follows the
letter of an option with a value is the value; an equals sign in front of it does
not count. -/
def takeShort (level : Level) : List Char → Except UsageError Level
  | [] => .ok level
  | c :: rest =>
    match (switches level.task).find? fun switch => switch.short = c with
    | none => .error .unknownArgument
    | some switch =>
      if switch.takesValue then
        match rest with
        | [] => level.await switch
        | '=' :: value => level.attach switch (String.ofList value)
        | value => level.attach switch (String.ofList value)
      else do takeShort (← level.raise switch) rest

/-- The kinds of arguments. -/
inductive Shape where
  | dashes
  | long (text : List Char)
  | short (text : List Char)
  | word

/-- The kind of an argument.  A single dash is a word. -/
def shape (argument : String) : Shape :=
  match argument.toList with
  | ['-', '-'] => .dashes
  | '-' :: '-' :: text => .long text
  | ['-'] => .word
  | '-' :: text => .short text
  | _ => .word

/-- Take an argument; none for a word that is no value. -/
def take? (level : Level) (argument : String) : Except UsageError (Option Level) :=
  if level.closed then .ok none
  else match shape argument, level.waiting with
  | .dashes, _ => .ok (some { level with closed := true })
  | .long text, _ => do return some (← level.takeLong text)
  | .short text, _ => do return some (← level.takeShort text)
  | .word, .value switch => .ok (some { level with waiting := .check switch argument })
  | .word, _ => .ok none

/-- Take the arguments behind the name of a task, which are all options. -/
def takeAll (level : Level) : List String → Except UsageError Level
  | [] => level.settle
  | argument :: rest => do
    match ← level.take? argument with
    | some level => level.takeAll rest
    | none => throw .unknownArgument

end Level

/-! ### All arguments -/

/-- The name of the task that shows help. -/
def helpName : String := "help"

/-- What follows the request for help: nothing or the name of one task. -/
def helpFor : List String → UsageError
  | [] => .help
  | [name] => if name = helpName || (TaskName.ofText? name).isSome then .help else .unknownTask
  | _ => .unknownTask

/-- The task that the options behind its name describe. -/
def taskOf (name : TaskName) (level : Level) : Except UsageError Task :=
  match name with
  | .generate =>
    match level.value? .document with
    | none => .error .missingOption
    | some document =>
      let backend := (level.value? .backend).bind fun name => Backend.ofName? name false
      .ok (.generate document backend (level.has .placeholders))
  | .run =>
    match level.value? .document with
    | none => .error .missingOption
    | some document => .ok (.run document)
  | .schema => .ok (.schema (level.value? .name))
  | .status => .ok .status

/-- What two levels of options ask for.  The options behind the task count more. -/
def invocation (outer inner : Level) (task : Task) : Invocation :=
  let value (switch : Switch) : Option String := inner.value? switch <|> outer.value? switch
  let format := (value .format).bind fun name => Output.Format.ofName? name false
  ⟨value .database, format.getD .table, task⟩

/-- Read the name of a task and what follows it. -/
def readTask (outer : Level) (word : String) (rest : List String) :
    Except UsageError Invocation := do
  if outer.closed then return invocation (← outer.settle) (Level.start none) (.unknown word)
  if word = helpName then throw (helpFor rest)
  match TaskName.ofText? word with
  | none => return invocation (← outer.settle) (Level.start none) (.unknown word)
  | some name =>
    let inner ← (Level.start (some name)).takeAll rest
    let task ← taskOf name inner
    return invocation (← outer.settle) inner task

/-- Read the arguments from a level on. -/
def readFrom (level : Level) : List String → Except UsageError Invocation
  | [] => do
    let level ← level.settle
    throw (if level.given.isEmpty then .helpWithoutArguments else .missingTask)
  | argument :: rest => do
    match ← level.take? argument with
    | some level => readFrom level rest
    | none => readTask level argument rest

/-- What arguments ask for. -/
def Invocation.ofArguments (arguments : List String) : Except UsageError Invocation :=
  readFrom (Level.start none) arguments

end Polyquery.CommandLine
