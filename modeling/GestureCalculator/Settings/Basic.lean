import GestureCalculator.Binary64.Decimal
import GestureCalculator.Gesture.Pinch
import GestureCalculator.Keypad.Grid

/-!
All settings of the calculator, and which of them make sense.
-/
namespace GestureCalculator
open Binary64

/-- The settings of the hand and of the keypad. -/
structure Settings where
  gesture : Gesture.Settings := {}
  layout : Keypad.Settings := {}
deriving Repr, BEq

/-- Why settings make no sense. -/
inductive SettingsFault where
  | noDwell
  | noCooldown
  | pinchRatio (found : Float)
  | pinchFloor (found : Float)
  | noCells (columns rows : UInt32)
  | widthRatio (found : Float)
  | heightRatio (found : Float)
  | margin (found : Int32)
deriving DecidableEq, Repr

/-- The reason in words. -/
def SettingsFault.message : SettingsFault → String
  | noDwell => "gesture.dwell_frames must be at least 1"
  | noCooldown => "gesture.cooldown_frames must be at least 1"
  | pinchRatio found => "gesture.pinch_ratio must be positive, got " ++ shortestText found
  | pinchFloor found => "gesture.pinch_floor_px must not be negative, got " ++ shortestText found
  | noCells columns rows => "layout must have at least one column and row, got "
      ++ toString columns.toNat ++ "x" ++ toString rows.toNat
  | widthRatio found => "layout.width_ratio must be in (0, 1], got " ++ shortestText found
  | heightRatio found => "layout.height_ratio must be in (0, 1], got " ++ shortestText found
  | margin found => "layout.margin must not be negative, got " ++ toString found.toInt

namespace Settings

/-- A part of a size: positive, and not more than all of it. -/
def isPart (ratio : Float) : Bool := 0 < ratio && ratio ≤ 1

/-- The first of the settings that makes no sense. -/
def fault? (settings : Settings) : Option SettingsFault :=
  let gesture := settings.gesture
  let layout := settings.layout
  if gesture.dwellFrames = 0 then some .noDwell
  else if gesture.cooldownFrames = 0 then some .noCooldown
  else if !(0 < gesture.pinchRatio && gesture.pinchRatio.isFinite) then some (.pinchRatio gesture.pinchRatio)
  else if !(0 ≤ gesture.pinchFloor && gesture.pinchFloor.isFinite) then some (.pinchFloor gesture.pinchFloor)
  else if layout.columns = 0 ∨ layout.rows = 0 then some (.noCells layout.columns layout.rows)
  else if !isPart layout.widthRatio then some (.widthRatio layout.widthRatio)
  else if !isPart layout.heightRatio then some (.heightRatio layout.heightRatio)
  else if layout.margin < 0 then some (.margin layout.margin)
  else none

end Settings
end GestureCalculator
