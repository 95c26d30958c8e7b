import GestureCalculator.Text.Numeral
import GestureCalculator.Words

/-!
The command line. Options may stand before or behind the words of a command, a value either behind its
option or after an equals sign, and two dashes make words of everything behind them.
-/
namespace GestureCalculator.CommandLine

/-- What is to be done. -/
inductive Command where
  | eval (expression : String)
  | layout (width height : UInt32)
  | replay (input : String) (asText : Bool)
deriving DecidableEq, Repr

/-- What was asked for. -/
inductive Request where
  | version
  | perform (settingsFile : Option String) (command : Command)
deriving DecidableEq, Repr

/-- An argument that looks like an option. A dash alone does not. -/
def isDashed (arg : String) : Bool := arg.startsWith "-" && arg != "-"

/-- The words, flags and values behind a command. -/
structure Given where
  words : List String := []
  flags : List String := []
  values : List (String × String) := []
deriving DecidableEq, Repr

namespace Given

/-- With one more word, behind the others. -/
def addWord (given : Given) (word : String) : Given := { given with words := given.words ++ [word] }

/-- With a flag, which must not be repeated. -/
def addFlag? (given : Given) (flag : String) : Option Given :=
  if flag ∈ given.flags then none else some { given with flags := flag :: given.flags }

/-- With the value of an option, which must not be repeated. -/
def addValue? (given : Given) (option value : String) : Option Given :=
  if option ∈ given.values.map Prod.fst then none
  else some { given with values := (option, value) :: given.values }

def value? (given : Given) (option : String) : Option String :=
  (given.values.find? fun entry => entry.1 == option).map Prod.snd

end Given

/-- The options that have a value, and the flags, which have none. -/
structure Options where
  valued : List String
  flags : List String := []

/-- The option and the value that an argument with an equals sign holds. -/
def assigned? (options : Options) (arg : String) : Option (String × String) :=
  (options.valued.find? fun option => arg.startsWith (option ++ "=")).map fun option =>
    (option, String.ofList (arg.toList.drop (option.length + 1)))

/-- The arguments sorted into words, flags and values. -/
def sortArguments (options : Options) : Given → List String → Option Given
  | given, [] => some given
  | given, arg :: rest =>
    if arg = "--" then some (rest.foldl Given.addWord given)
    else if arg ∈ options.flags then do sortArguments options (← given.addFlag? arg) rest
    else if arg ∈ options.valued then
      match rest with
      | value :: rest =>
        if isDashed value then none
        else do sortArguments options (← given.addValue? arg value) rest
      | [] => none
    else
      match assigned? options arg with
      | some (option, value) => do sortArguments options (← given.addValue? option value) rest
      | none => if isDashed arg then none else sortArguments options (given.addWord arg) rest

/-- The option for the file with the settings, which every command has. -/
def settingsOption : String := "--config"

def path? (text : String) : Option String := if text.isEmpty then none else some text

/-- The file with the settings: the one given behind the command, or the one before it. -/
def settingsFile? (before : Option String) (given : Given) : Option (Option String) :=
  match given.value? settingsOption with
  | some path => (path? path).map some
  | none => some before

def size? (text : String) : Option UInt32 := do countOf? (← Text.integerOf? text.toList)

def sizeOr? (usual : UInt32) : Option String → Option UInt32
  | none => some usual
  | some text => size? text

/-- Evaluates an expression. -/
def evalRequest? (before : Option String) (args : List String) : Option Request := do
  let given ← sortArguments { valued := [settingsOption] } {} args
  match given.words with
  | [expression] => return .perform (← settingsFile? before given) (.eval expression)
  | _ => none

/-- Shows the keypad. -/
def layoutRequest? (before : Option String) (args : List String) : Option Request := do
  let given ← sortArguments { valued := [settingsOption, "--width", "--height"] } {} args
  let width ← sizeOr? 640 (given.value? "--width")
  let height ← sizeOr? 480 (given.value? "--height")
  if given.words.isEmpty then return .perform (← settingsFile? before given) (.layout width height)
  else none

/-- Replays a recording: a file, or what comes in if none is given or a dash stands for it. -/
def replayRequest? (before : Option String) (args : List String) : Option Request := do
  let given ← sortArguments { valued := [settingsOption], flags := ["--text"] } {} args
  let asText := decide ("--text" ∈ given.flags)
  match given.words with
  | [] => return .perform (← settingsFile? before given) (.replay "-" asText)
  | [input] => return .perform (← settingsFile? before given) (.replay (← path? input) asText)
  | _ => none

/-- The request that a command with its arguments is. -/
def commandRequest? (before : Option String) (command : String) (args : List String) : Option Request :=
  if command = "eval" then evalRequest? before args
  else if command = "layout" then layoutRequest? before args
  else if command = "replay" then replayRequest? before args
  else none

/-- The request that arguments make, with the settings file found before them. -/
def requestFrom? (before : Option String) : List String → Option Request
  | [] => none
  | arg :: rest =>
    if arg = "--version" ∨ arg.startsWith "-V" then some .version
    else if arg = settingsOption then
      match rest with
      | value :: rest =>
        if before.isSome ∨ isDashed value then none
        else do requestFrom? (some (← path? value)) rest
      | [] => none
    else
      match assigned? { valued := [settingsOption] } arg with
      | some (_, value) => if before.isSome then none else do requestFrom? (some (← path? value)) rest
      | none => if isDashed arg then none else commandRequest? before arg rest

/-- The request that arguments make. -/
def request? (args : List String) : Option Request := requestFrom? none args

end GestureCalculator.CommandLine
