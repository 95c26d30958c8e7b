import GestureCalculator.Calculator.Basic

/-!
Replaying a recording: one event on each line, and what is shown after it on a line of the output.
-/
namespace GestureCalculator

section

variable {α : Type} [DecidableEq α]

/-- The lines from an element on, given the next element and the lines from that on. A feed ends a line and takes
    a carriage return before it away. -/
def linesBefore (carriage feed c : α) (next : Option α) (lines : List (List α)) : List (List α) :=
  if c = feed then [] :: lines
  else if c = carriage ∧ next = some feed then lines
  else (c :: lines.headD []) :: lines.tail

/-- The lines of a text of any elements. A feed at the end begins no other line. -/
def splitLines (carriage feed : α) (text : List α) : List (List α) :=
  (text.foldr (fun c (next, lines) => (some c, linesBefore carriage feed c next lines)) (none, [])).2

end

/-- The lines of a text. -/
def linesOf (text : String) : List String := (splitLines '\r' '\n' text.toList).map String.ofList

/-- The lines that could be read, and whether they are all that there are. -/
structure Recording where
  lines : List String
  complete : Bool := true
deriving DecidableEq, Repr

namespace Recording

def ofText (text : String) : Recording := { lines := linesOf text }

/-- What a file of bytes holds. A line that is no text cannot be read, and nothing behind it is. -/
def ofBytes (bytes : ByteArray) : Recording :=
  let lines := (splitLines 13 10 bytes.data.toList).map fun line => String.fromUTF8? ⟨line.toArray⟩
  { lines := (lines.takeWhile Option.isSome).filterMap id, complete := lines.all Option.isSome }

end Recording

/-- Why a replay ended before its recording did. -/
inductive ReplayFault where
  /-- The line with this number is no event. -/
  | invalidEvent (line : Nat)
  | unreadable
  /-- A number did not fit into its bits, and the program stopped. -/
  | overflow
deriving DecidableEq, Repr

/-- The two status lines of an overlay, on one line. -/
def Overlay.statusText (overlay : Overlay) : String := overlay.expressionLine ++ " | " ++ overlay.resultLine

/-- What is shown for the lines from the one with a number on, and why it ended early if it did. Blank
    lines are counted and passed over. -/
def replayFrom (shown : Overlay → String) (complete : Bool) :
    Nat → Calculator → List String → List String × Option ReplayFault
  | _, _, [] => ([], if complete then none else some .unreadable)
  | number, calculator, line :: rest =>
    if Text.isBlankText line then replayFrom shown complete (number + 1) calculator rest
    else
      match Event.ofText? line with
      | none => ([], some (.invalidEvent number))
      | some event =>
        match calculator.handle? event with
        | none => ([], some .overflow)
        | some (overlay, after) =>
          let (others, fault) := replayFrom shown complete (number + 1) after rest
          (shown overlay :: others, fault)

/-- What is shown for a recording, as status lines or as JSON. -/
def replay (machine : Machine) (settings : Settings) (asText : Bool) (recording : Recording) :
    List String × Option ReplayFault :=
  replayFrom (fun overlay => if asText then overlay.statusText else overlay.json.compact) recording.complete 1
    { machine, settings } recording.lines

end GestureCalculator
