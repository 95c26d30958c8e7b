import GestureCalculator.Settings.Basic
import GestureCalculator.Toml.Document

/-!
Settings as a TOML document. Every table and every key may be missing, and what a document holds beside
them is of no account.
-/
namespace GestureCalculator
open Binary64 Toml

namespace Settings

/-- A value whose parts can be settings: a table, an array of the parts in order, or a date or time, which
    has none of them. -/
def hasParts : Value → Bool
  | .table .. => true
  | .array _ => true
  | .tables _ => true
  | .moment _ => true
  | _ => false

/-- A part of a value, by its name or by its place. -/
def part? (place : Nat) (name : String) : Value → Option Value
  | .table _ entries => find? name entries
  | .array items => items[place]?
  | .tables items => items[place]?
  | _ => none

/-- What is read from a value, or something else if there is none. -/
def readOr {α : Type} (missing : α) (read : Value → Option α) : Option Value → Option α
  | none => some missing
  | some value => read value

def count? : Value → Option UInt32
  | .integer n => countOf? n
  | _ => none

def pixels? : Value → Option Int32
  | .integer n => if isPixel n then some (Int32.ofInt n) else none
  | _ => none

/-- A whole number that fits in 64 bits, with a sign or without one. -/
def isLong (n : Int) : Bool := decide (-0x8000000000000000 ≤ n ∧ n ≤ 0xFFFFFFFFFFFFFFFF)

def number? : Value → Option Float
  | .integer n => if isLong n then some (ofInt n) else none
  | .real x => some x
  | _ => none

def gesture? (value : Value) : Option Gesture.Settings :=
  if hasParts value then do
    return {
      dwellFrames := ← readOr 12 count? (part? 0 "dwell_frames" value)
      cooldownFrames := ← readOr 12 count? (part? 1 "cooldown_frames" value)
      pinchRatio := ← readOr 0.04 number? (part? 2 "pinch_ratio" value)
      pinchFloor := ← readOr 12 number? (part? 3 "pinch_floor_px" value) }
  else none

def layout? (value : Value) : Option Keypad.Settings :=
  if hasParts value then do
    return {
      columns := ← readOr 4 count? (part? 0 "columns" value)
      rows := ← readOr 4 count? (part? 1 "rows" value)
      widthRatio := ← readOr 0.35 number? (part? 2 "width_ratio" value)
      heightRatio := ← readOr 0.7 number? (part? 3 "height_ratio" value)
      margin := ← readOr 20 pixels? (part? 4 "margin" value) }
  else none

/-- The settings that a document holds. -/
def ofDocument? (document : Value) : Option Settings := do
  return {
    gesture := ← readOr {} gesture? (part? 0 "gesture" document)
    layout := ← readOr {} layout? (part? 1 "layout" document) }

/-- The settings that a text holds. They may make no sense. -/
def ofText? (text : String) : Option Settings := do ofDocument? (← Toml.ofText? text)

/-- A number with a point, so that it is not read as a whole one. -/
def pointedText (x : Float) : String := if isWhole x then shortestText x ++ ".0" else shortestText x

/-- A key and its value, on a line of their own. -/
def line (key value : String) : String := key ++ " = " ++ value ++ "\n"

/-- The settings as a document that holds every key. -/
def text (settings : Settings) : String :=
  let gesture := settings.gesture
  let layout := settings.layout
  "[gesture]\n"
    ++ line "dwell_frames" (toString gesture.dwellFrames.toNat)
    ++ line "cooldown_frames" (toString gesture.cooldownFrames.toNat)
    ++ line "pinch_ratio" (pointedText gesture.pinchRatio)
    ++ line "pinch_floor_px" (pointedText gesture.pinchFloor)
    ++ "\n[layout]\n"
    ++ line "columns" (toString layout.columns.toNat)
    ++ line "rows" (toString layout.rows.toNat)
    ++ line "width_ratio" (pointedText layout.widthRatio)
    ++ line "height_ratio" (pointedText layout.heightRatio)
    ++ line "margin" (toString layout.margin.toInt)

end Settings
end GestureCalculator
