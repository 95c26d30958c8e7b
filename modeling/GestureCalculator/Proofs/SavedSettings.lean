import GestureCalculator.Proofs.Products
import GestureCalculator.Proofs.TomlLines
import GestureCalculator.Settings.File

/-!
Settings that were saved. The document that is written for settings that make sense holds them all, and they are read back
from it exactly: words of 32 bits at their bounds, numbers of any size, and the sign of a zero.
-/
namespace GestureCalculator.Settings
open Binary64 Toml

/-! ### Settings that make sense -/

/-- The numbers that are not whole are finite. -/
structure Finite (settings : Settings) : Prop where
  pinchRatio : settings.gesture.pinchRatio.isFinite
  pinchFloor : settings.gesture.pinchFloor.isFinite
  widthRatio : settings.layout.widthRatio.isFinite
  heightRatio : settings.layout.heightRatio.isFinite

theorem isFinite_of_isPart {ratio : Float} (part : isPart ratio) : ratio.isFinite := by
  rw [isPart, Bool.and_eq_true, decide_eq_true_iff, decide_eq_true_iff] at part
  exact isFinite_of_part part.1 part.2

theorem finite_of_fault?_eq_none {settings : Settings} (sound : settings.fault? = none) : settings.Finite := by
  simp only [fault?] at sound
  split_ifs at sound with dwell cooldown ratio floor cells width height margin
  simp only [Bool.not_eq_true, Bool.not_eq_false', Bool.and_eq_true] at ratio floor width height
  exact ⟨ratio.2, floor.2, isFinite_of_isPart width, isFinite_of_isPart height⟩

/-! ### Words -/

theorem count?_integer (n : UInt32) : count? (.integer n.toNat) = some n := by
  have small := n.toNat_lt
  rw [count?, countOf?, if_pos ⟨by omega, by rw [greatestCount]; omega⟩, Int.toNat_natCast, UInt32.ofNat_toNat]

theorem pixels?_integer (n : Int32) : pixels? (.integer n.toInt) = some n := by
  have least := n.le_toInt
  have greatest := n.toInt_lt
  have pixel : isPixel n.toInt := by
    rw [isPixel, decide_eq_true_iff, leastPixel, greatestPixel]
    omega
  rw [pixels?, if_pos pixel, Int32.ofInt_toInt]

/-! ### Documents -/

def gestureEntries (gesture : Gesture.Settings) : List Entry :=
  [⟨"dwell_frames", toString gesture.dwellFrames.toNat, .integer gesture.dwellFrames.toNat⟩,
   ⟨"cooldown_frames", toString gesture.cooldownFrames.toNat, .integer gesture.cooldownFrames.toNat⟩,
   ⟨"pinch_ratio", pointedText gesture.pinchRatio, .real gesture.pinchRatio⟩,
   ⟨"pinch_floor_px", pointedText gesture.pinchFloor, .real gesture.pinchFloor⟩]

def layoutEntries (layout : Keypad.Settings) : List Entry :=
  [⟨"columns", toString layout.columns.toNat, .integer layout.columns.toNat⟩,
   ⟨"rows", toString layout.rows.toNat, .integer layout.rows.toNat⟩,
   ⟨"width_ratio", pointedText layout.widthRatio, .real layout.widthRatio⟩,
   ⟨"height_ratio", pointedText layout.heightRatio, .real layout.heightRatio⟩,
   ⟨"margin", toString layout.margin.toInt, .integer layout.margin.toInt⟩]

/-- The document that is written for settings. -/
def document (settings : Settings) : Value :=
  .table .header [("gesture", .table .header ((gestureEntries settings.gesture).map Entry.pair)),
    ("layout", .table .header ((layoutEntries settings.layout).map Entry.pair))]

theorem text_eq_lines (settings : Settings) : settings.text.toList =
    ('[' :: ("gesture".toList ++ [']', '\n']) ++ entryLines (gestureEntries settings.gesture)) ++
      (['\n'] ++ ('[' :: ("layout".toList ++ [']', '\n']) ++ entryLines (layoutEntries settings.layout))) := by
  have header : "[gesture]\n".toList = '[' :: ("gesture".toList ++ [']', '\n']) := by simp
  have header' : "\n[layout]\n".toList = ['\n'] ++ '[' :: ("layout".toList ++ [']', '\n']) := by simp
  rw [← List.append_assoc ['\n'], ← header, ← header']
  unfold text
  simp only [entryLines, gestureEntries, layoutEntries, String.toList_append, List.flatMap_cons, List.flatMap_nil, List.append_nil,
    List.append_assoc]

theorem written_count (n : UInt32) : Written (toString n.toNat) (.integer n.toNat) := by
  have small : (n.toNat : Int).natAbs < 2 ^ 127 := by
    have := n.toNat_lt
    omega
  exact written_toString small

theorem written_pixels (n : Int32) : Written (toString n.toInt) (.integer n.toInt) := by
  have least := n.le_toInt
  have greatest := n.toInt_lt
  exact written_toString (by omega)

theorem written_gestureEntries {settings : Settings} (finite : settings.Finite) :
    ∀ entry ∈ gestureEntries settings.gesture, Written entry.text entry.value := by
  simp only [gestureEntries, List.forall_mem_cons, List.not_mem_nil, false_imp_iff, implies_true, and_true]
  exact ⟨written_count _, written_count _, written_pointedText finite.pinchRatio, written_pointedText finite.pinchFloor⟩

theorem written_layoutEntries {settings : Settings} (finite : settings.Finite) :
    ∀ entry ∈ layoutEntries settings.layout, Written entry.text entry.value := by
  simp only [layoutEntries, List.forall_mem_cons, List.not_mem_nil, false_imp_iff, implies_true, and_true]
  exact ⟨written_count _, written_count _, written_pointedText finite.widthRatio, written_pointedText finite.heightRatio,
    written_pixels _⟩

theorem isBare_gestureEntries (gesture : Gesture.Settings) : ∀ key ∈ (gestureEntries gesture).map Entry.key, IsBare key := by
  simp [gestureEntries, IsBare]
  decide

theorem isBare_layoutEntries (layout : Keypad.Settings) : ∀ key ∈ (layoutEntries layout).map Entry.key, IsBare key := by
  simp [layoutEntries, IsBare]
  decide

theorem leads_text {settings : Settings} (finite : settings.Finite) :
    Leads settings.text.toList [] (.table .header []) ["layout"] settings.document := by
  have gesture : IsBare "gesture" := by
    simp [IsBare]
    decide
  have layout : IsBare "layout" := by
    simp [IsBare]
    decide
  rw [text_eq_lines]
  refine (leads_table [] gesture (by simp) (isBare_gestureEntries _) ?_ (written_gestureEntries finite)).trans
    ((leads_blank _ _).trans
      (leads_table ["gesture"] layout (by simp) (isBare_layoutEntries _) ?_ (written_layoutEntries finite)))
  · simp [gestureEntries]
  · simp [layoutEntries]

theorem ofText?_text_eq_document {settings : Settings} (finite : settings.Finite) :
    Toml.ofText? settings.text = some settings.document := by
  have gesture := return_not_mem_entryLines (isBare_gestureEntries settings.gesture) (written_gestureEntries finite)
  have layout := return_not_mem_entryLines (isBare_layoutEntries settings.layout) (written_layoutEntries finite)
  refine ofText?_of_leads (leads_text finite) ?_ ?_
  · rw [text_eq_lines]
    simp [gesture, layout]
  · rw [text_eq_lines]
    simp

theorem ofDocument?_document (settings : Settings) : ofDocument? settings.document = some settings := by
  simp [ofDocument?, document, part?, find?, readOr, gesture?, layout?, hasParts, gestureEntries, layoutEntries, Entry.pair,
    count?_integer, pixels?_integer, number?]

/-- Settings whose numbers are finite are read back from the text that is written for them. -/
theorem ofText?_text {settings : Settings} (finite : settings.Finite) : ofText? settings.text = some settings := by
  rw [ofText?, ofText?_text_eq_document finite]
  exact ofDocument?_document settings

/-- Settings that make sense are loaded from the text that is written for them. -/
theorem load_text {settings : Settings} (sound : settings.fault? = none) : load (some settings.text) = .ok settings := by
  simp only [load, ofText?_text (finite_of_fault?_eq_none sound), sound]

end GestureCalculator.Settings
