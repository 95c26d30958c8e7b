import GestureCalculator.Calculator.Replay
import GestureCalculator.CommandLine.Arguments
import GestureCalculator.Settings.File

/-!
What the program answers to its arguments: its output, its exit status, and a complaint if something went
wrong.
-/
namespace GestureCalculator.CommandLine

/-- What the program finds around it. -/
structure Surroundings where
  machine : Machine
  /-- Something is at a path. -/
  isThere : String → Bool
  /-- The text of a file, if there is one. -/
  text? : String → Option String
  /-- What a file holds, if it can be opened. -/
  recording? : String → Option Recording
  /-- What comes in. -/
  input : Recording
  /-- The path of the user's own settings, if it is known. -/
  userSettings : Option String

/-- What the program answers. -/
structure Answer where
  output : String := ""
  status : UInt32 := 0
  complaint : Option String := none
deriving DecidableEq, Repr

/-- Output so far, and a complaint that ends it. -/
def Answer.failed (output message : String) : Answer :=
  { output, status := 1, complaint := some ("Error: " ++ message) }

/-- Output so far, where the program stopped. What the machine reports then is not looked at. -/
def Answer.stopped (output : String) : Answer := { output, status := 101 }

/-- Output so far, and why there is no more of a replay. -/
def Answer.ended (output : String) : ReplayFault → Answer
  | .invalidEvent line => .failed output s!"Invalid event on line {line}"
  | .unreadable => .failed output "Failed to read event"
  | .overflow => .stopped output

def versionText : String := "aircalc 0.1.0"

/-- The settings in a file that has to be there. -/
def settingsIn (around : Surroundings) (path : String) : Except String Settings :=
  (Settings.load (around.text? path)).mapError (Settings.LoadFault.message path)

/-- The settings: those of the file that was given, else those of the user, else the usual ones. -/
def settingsFor (around : Surroundings) : Option String → Except String Settings
  | some path => settingsIn around path
  | none =>
    match around.userSettings with
    | none => .error "Failed to determine config directory"
    | some path => if around.isThere path then settingsIn around path else .ok {}

def outputOf (lines : List String) : String := String.join (lines.map (· ++ "\n"))

/-- The answer to a command. -/
def perform (around : Surroundings) (settings : Settings) : Command → Answer
  | .eval expression =>
    match Expression.evaluate expression with
    | .ok value => { output := outputOf [value.text] }
    | .error failure => .failed "" failure.message
  | .layout width height =>
    match Keypad.Layout.build? around.machine.overflow width height settings.layout with
    | some layout => { output := outputOf [layout.json.indented 0] }
    | none => .stopped ""
  | .replay input asText =>
    match if input = "-" then some around.input else around.recording? input with
    | none => .failed "" ("Failed to open event file: " ++ input)
    | some recording =>
      match replay around.machine settings asText recording with
      | (lines, none) => { output := outputOf lines }
      | (lines, some fault) => .ended (outputOf lines) fault

/-- The answer to a request. The settings are read before anything else is done. -/
def answerRequest (around : Surroundings) : Request → Answer
  | .version => { output := outputOf [versionText] }
  | .perform settingsFile command =>
    match settingsFor around settingsFile with
    | .ok settings => perform around settings command
    | .error message => .failed "" message

/-- The answer to arguments. Arguments that make no request have the status 2. -/
def answer (around : Surroundings) (args : List String) : Answer :=
  match request? args with
  | some request => answerRequest around request
  | none => { status := 2 }

end GestureCalculator.CommandLine
