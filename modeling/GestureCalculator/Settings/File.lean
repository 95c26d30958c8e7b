import GestureCalculator.FileStore
import GestureCalculator.Settings.Document

/-!
Settings in files. A file is written beside its place first and then moved there, so that there is never a
file that was written in part.
-/
namespace GestureCalculator.Settings

/-- Why settings were not loaded. -/
inductive LoadFault where
  | unreadable
  | malformed
  | invalid (fault : SettingsFault)
deriving DecidableEq, Repr

def LoadFault.message (path : String) : LoadFault → String
  | unreadable => "Failed to read config file: " ++ path
  | malformed => "Failed to parse config file: " ++ path
  | invalid _ => "Invalid config file: " ++ path

/-- The settings in the text of a file, if the file has one. -/
def load (text : Option String) : Except LoadFault Settings :=
  match text with
  | none => .error .unreadable
  | some text =>
    match ofText? text with
    | none => .error .malformed
    | some settings =>
      match settings.fault? with
      | some fault => .error (.invalid fault)
      | none => .ok settings

/-- Why settings were not saved. -/
inductive SaveFault where
  | invalid (fault : SettingsFault)
  | noFolder (path : Path)
  | notWritten (path : Path)
  | notRenamed (path : Path)
deriving DecidableEq, Repr

def pathText (path : Path) : String := "/".intercalate path

def SaveFault.message : SaveFault → String
  | invalid fault => fault.message
  | noFolder path => "Failed to create config directory: " ++ pathText path
  | notWritten path => "Failed to write temp config file: " ++ pathText path
  | notRenamed path => "Failed to rename temp config file to: " ++ pathText path

/-- A file name without its extension. A dot at the head of a name begins no extension. -/
def stem (name : List Char) : List Char :=
  let extension := name.reverse.takeWhile (· != '.')
  let rest := name.take (name.length - (extension.length + 1))
  if rest.isEmpty then name else rest

/-- The name under which a file is written first. -/
def temporaryName (name : String) : String := String.ofList (stem name.toList) ++ ".toml.tmp"

/-- The path under which a file is written first. -/
def temporaryPath (path : Path) : Path :=
  match path.getLast? with
  | some name => path.dropLast ++ [temporaryName name]
  | none => []

/-- Does an operation; a failure of it is the given fault. -/
def attempt (disk : Disk) (operation : Operation) (fault : SaveFault) (store : FileStore)
    (next : FileStore → Except SaveFault Unit × FileStore) : Except SaveFault Unit × FileStore :=
  match disk operation store with
  | (after, true) => next after
  | (after, false) => (.error fault, after)

/-- Saves settings that make sense. -/
def save (disk : Disk) (settings : Settings) (path : Path) (store : FileStore) :
    Except SaveFault Unit × FileStore :=
  match settings.fault? with
  | some fault => (.error (.invalid fault), store)
  | none =>
    let temporary := temporaryPath path
    attempt disk (.makeFolder path.dropLast) (.noFolder path.dropLast) store fun store =>
    attempt disk (.write temporary settings.text) (.notWritten temporary) store fun store =>
    attempt disk (.rename temporary path) (.notRenamed path) store fun store => (.ok (), store)

end GestureCalculator.Settings
