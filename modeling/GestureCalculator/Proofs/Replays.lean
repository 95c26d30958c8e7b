import GestureCalculator.Proofs.Lines
import GestureCalculator.Proofs.Printable

/-!
Replays. A recording is one run of the calculator over the events in its lines, up to the first line that is neither
blank nor an event, and each event makes one line of the output, as far as the program gets.
-/
namespace GestureCalculator
open CommandLine

section

variable {line : String} (lines : List String)

end

/-- What is printed for an overlay. -/
def Overlay.line (asText : Bool) (overlay : Overlay) : String :=
  if asText then overlay.expressionLine ++ " | " ++ overlay.resultLine else overlay.json.compact

section

variable {machine : Machine} {settings : Settings} (asText : Bool) {recording : Recording} {heard : List String}

end

section

variable {around : Surroundings} {settings : Settings} {input : String} {asText : Bool} {recording : Recording}
  (found : (if input = "-" then some around.input else around.recording? input) = some recording)

include found

end

end GestureCalculator
