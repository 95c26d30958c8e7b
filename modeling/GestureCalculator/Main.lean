import GestureCalculator.CommandLine.Answer

/-!
The program: looks at the files that the arguments name, and prints the answer.
-/
namespace GestureCalculator.CommandLine

/-- What became of opening a file. -/
inductive Opened where
  | bytes (content : ByteArray)
  | missing
  | refused
  /-- It was opened, and has no bytes to read. -/
  | unreadable

/-- Opens a file and reads it. -/
def openFile (path : String) : IO Opened := do
  try return .bytes (← IO.FS.readBinFile path)
  catch failure =>
    match failure with
    | .noFileOrDirectory .. => return .missing
    | .permissionDenied .. => return .refused
    | _ => return .unreadable

/-- Something is there. -/
def Opened.isThere : Opened → Bool
  | missing => false
  | _ => true

/-- The text of the file, if it has one. -/
def Opened.text? : Opened → Option String
  | bytes content => String.fromUTF8? content
  | _ => none

/-- The recording that the file is, if it could be opened. -/
def Opened.recording? : Opened → Option Recording
  | bytes content => some (Recording.ofBytes content)
  | unreadable => some { lines := [], complete := false }
  | _ => none

/-- All that is still to come from a stream. -/
partial def allBytes (stream : IO.FS.Stream) (before : ByteArray) : IO ByteArray := do
  let more ← stream.read 65536
  if more.isEmpty then return before else allBytes stream (before ++ more)

/-- The folder for the settings of the user's programs. -/
def settingsFolder : IO (Option String) := do
  match ← IO.getEnv "XDG_CONFIG_HOME" with
  | some folder => if folder.startsWith "/" then return some folder
  | none => pure ()
  return (← IO.getEnv "HOME").map (· ++ "/.config")

/-- How the program is called. -/
def usageText : String :=
  "usage: aircalc [--config PATH] eval EXPRESSION\n"
    ++ "       aircalc [--config PATH] layout [--width PIXELS] [--height PIXELS]\n"
    ++ "       aircalc [--config PATH] replay [--text] [FILE]"

/-- The file with the settings for a request, and the recording that it replays. -/
def filesOf (userSettings : Option String) : Request → Option String × Option String
  | .version => (none, none)
  | .perform settingsFile (.replay path _) => (settingsFile <|> userSettings, some path)
  | .perform settingsFile _ => (settingsFile <|> userSettings, none)

/-- What the program finds around it, as far as a request needs it. -/
def surroundingsFor (request : Request) : IO Surroundings := do
  let userSettings := (← settingsFolder).map (· ++ "/aircalc/config.toml")
  let (settingsPath, recordingPath) := filesOf userSettings request
  let settings ← match settingsPath with
    | some path => openFile path
    | none => pure .missing
  let recording ← match recordingPath with
    | some "-" => pure (.bytes (← allBytes (← IO.getStdin) ByteArray.empty))
    | some path => openFile path
    | none => pure .missing
  return {
    machine := .nearest .wraps
    isThere := fun _ => settings.isThere
    text? := fun _ => settings.text?
    recording? := fun _ => recording.recording?
    input := recording.recording?.getD { lines := [] }
    userSettings }

end GestureCalculator.CommandLine

open GestureCalculator.CommandLine

/-- Prints the answer to the arguments and ends with its status. -/
def main (args : List String) : IO UInt32 := do
  match request? args with
  | none =>
    IO.eprintln usageText
    return 2
  | some request =>
    let answer := answerRequest (← surroundingsFor request) request
    IO.print answer.output
    if let some complaint := answer.complaint then IO.eprintln complaint
    return answer.status
