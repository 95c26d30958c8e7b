import GestureCalculator.Gesture.Press
import Mathlib.Tactic

/-!
When keys are pressed, told from the frames alone. What is remembered between frames stands for all that was
seen before: the wait for the presses that are not far enough back, and the last key with its count for the
frames that the finger has stayed over it.
-/
namespace GestureCalculator.Gesture
open Keypad

/-- What one frame offers: the keys on the display, the finger if there is a hand, and a pinch. -/
structure Frame where
  layout : Layout
  fingertip : Option Point
  pinch : Bool
deriving DecidableEq, Repr

namespace Frame

/-- The key under the finger. -/
def hovered (frame : Frame) : Option Key := frame.fingertip.bind frame.layout.keyAt?

/-- The label of the key under the finger. -/
def label (frame : Frame) : Option Label := frame.hovered.map Key.label

end Frame

/-- The labels under the finger, from the last frame backwards. Frames without a hand are passed over. -/
def hoveredBackwards (frames : List Frame) : List (Option Label) :=
  ((frames.filter fun frame => frame.fingertip.isSome).map Frame.label).reverse

/-- What the frames show one after another, and what is remembered after them. -/
def State.run (settings : Settings) : State → List Frame → List Outcome × State
  | state, [] => ([], state)
  | state, frame :: frames =>
    let (outcome, next) := state.advance settings frame.layout frame.fingertip frame.pinch
    let (outcomes, last) := next.run settings frames
    (outcome :: outcomes, last)

/-- The key is pressed in the frame at the index. -/
def Presses (settings : Settings) (frames : List Frame) (index : Nat) (key : Key) : Prop :=
  ∃ outcome, (State.run settings {} frames).1[index]? = some outcome ∧ outcome.pressed = some key

variable {settings : Settings}

/-! ### One frame -/

/-- The count of frames stops where no settings can tell. -/
theorem dwellFrames_le_min_iff {count : Nat} :
    settings.dwellFrames.toNat ≤ min count greatestCount ↔ settings.dwellFrames.toNat ≤ count := by
  have bounded : settings.dwellFrames.toNat ≤ greatestCount := Nat.le_of_lt_succ settings.dwellFrames.toNat_lt
  omega

theorem Frame.fingertip_isSome_of_hovered {frame : Frame} {key : Key} (hovers : frame.hovered = some key) :
    frame.fingertip.isSome := by
  obtain ⟨point, seen, _⟩ := Option.bind_eq_some_iff.mp hovers
  rw [seen]
  rfl

/-- What is remembered once the finger has been looked at, before a key is pressed. -/
def State.look (state : State) (frame : Frame) : State :=
  if frame.fingertip.isSome then state.hover frame.label else state

theorem look_cooldown (state : State) (frame : Frame) : (state.look frame).cooldown = state.cooldown := by
  unfold State.look
  split <;> rfl

/-- The key that a frame presses, unless one has to wait. -/
def pressedNow (settings : Settings) (state : State) (frame : Frame) : Option Key :=
  if 0 < state.cooldown then none
  else frame.hovered.filter fun _ => frame.pinch || decide (settings.dwellFrames.toNat ≤ (state.look frame).dwell)

/-- One frame: the finger is looked at, and then a key is pressed or the waiting goes on. -/
theorem advance_eq (state : State) (frame : Frame) :
    state.advance settings frame.layout frame.fingertip frame.pinch =
      (⟨frame.hovered, pressedNow settings state frame⟩, { state.look frame with
        cooldown := if (pressedNow settings state frame).isSome then settings.cooldownFrames.toNat
          else state.cooldown - 1 }) := by
  have hovered : frame.fingertip.bind frame.layout.keyAt? = frame.hovered := rfl
  have looked : (if frame.fingertip.isSome then state.hover (frame.hovered.map Key.label) else state) =
    state.look frame := rfl
  simp only [State.advance, hovered, looked, pressedNow, look_cooldown]
  by_cases waiting : 0 < state.cooldown
  · simp only [if_pos waiting, Option.isSome_none, Bool.false_eq_true, if_false]
  · simp only [if_neg waiting]
    have done : state.cooldown = 0 := by omega
    split
    · rfl
    · rw [done, Nat.zero_sub, ← done, ← look_cooldown state frame]

/-- A key is pressed if there is nothing to wait for, the finger is over it, and there is a pinch or the
    finger has stayed long enough. -/
theorem pressedNow_eq_some_iff {state : State} {frame : Frame} {key : Key} :
    pressedNow settings state frame = some key ↔ frame.hovered = some key ∧ state.cooldown = 0 ∧
      (frame.pinch ∨ settings.dwellFrames.toNat ≤ (state.hover (some key.label)).dwell) := by
  have looked : frame.hovered = some key → state.look frame = state.hover (some key.label) := by
    intro hovers
    rw [State.look, if_pos (Frame.fingertip_isSome_of_hovered hovers), Frame.label, hovers, Option.map_some]
  unfold pressedNow
  split
  next waiting => simp [show state.cooldown ≠ 0 by omega]
  next done =>
  rw [Option.filter_eq_some_iff, Bool.or_eq_true, decide_eq_true_iff]
  constructor
  · rintro ⟨hovers, enough⟩
    exact ⟨hovers, by omega, looked hovers ▸ enough⟩
  · rintro ⟨hovers, _, enough⟩
    exact ⟨hovers, (looked hovers).symm ▸ enough⟩

/-! ### Runs -/

/-- What is remembered after the frames. -/
abbrev stateAfter (settings : Settings) (frames : List Frame) : State := (State.run settings {} frames).2

theorem run_append (state : State) (frames more : List Frame) :
    state.run settings (frames ++ more) =
      ((state.run settings frames).1 ++ ((state.run settings frames).2.run settings more).1,
        ((state.run settings frames).2.run settings more).2) := by
  induction frames generalizing state with
  | nil => rfl
  | cons frame frames ih => simp only [List.cons_append, State.run, ih]

theorem run_length (state : State) (frames : List Frame) : (state.run settings frames).1.length = frames.length := by
  induction frames generalizing state with
  | nil => rfl
  | cons frame frames ih => simp only [State.run, List.length_cons, ih]

/-- A frame shows what the state behind the earlier frames makes of it, whatever comes later. -/
theorem presses_iff_pressedNow {before behind : List Frame} {frame : Frame} {key : Key} :
    Presses settings (before ++ frame :: behind) before.length key ↔
      pressedNow settings (stateAfter settings before) frame = some key := by
  have length := @run_length settings {} before
  rw [Presses, run_append, List.getElem?_append_right (by omega), length, Nat.sub_self, State.run, advance_eq]
  simp

/-- Presses in earlier frames do not depend on later ones. -/
theorem presses_append_iff {before behind : List Frame} {index : Nat} {key : Key} (early : index < before.length) :
    Presses settings (before ++ behind) index key ↔ Presses settings before index key := by
  have length := @run_length settings {} before
  rw [Presses, run_append, List.getElem?_append_left (by omega), Presses]

theorem Presses.lt_length {frames : List Frame} {index : Nat} {key : Key}
    (presses : Presses settings frames index key) : index < frames.length := by
  obtain ⟨outcome, shown, _⟩ := presses
  rw [← @run_length settings {} frames]
  exact (List.getElem?_eq_some_iff.mp shown).1

theorem stateAfter_append_singleton (frames : List Frame) (frame : Frame) :
    stateAfter settings (frames ++ [frame]) =
      { (stateAfter settings frames).look frame with
        cooldown := if (pressedNow settings (stateAfter settings frames) frame).isSome then
            settings.cooldownFrames.toNat
          else (stateAfter settings frames).cooldown - 1 } := by
  rw [stateAfter, run_append, State.run, advance_eq]
  rfl

/-! ### What the count stands for -/

/-- The number of frames with a hand, from the last one backwards, in which the finger stayed over a label. -/
def stays (label : Label) (frames : List Frame) : Nat :=
  ((hoveredBackwards frames).takeWhile fun hovered => hovered = some label).length

theorem hoveredBackwards_append_singleton (frames : List Frame) (frame : Frame) :
    hoveredBackwards (frames ++ [frame]) =
      if frame.fingertip.isSome then frame.label :: hoveredBackwards frames else hoveredBackwards frames := by
  unfold hoveredBackwards
  by_cases seen : frame.fingertip.isSome
  · simp [List.filter_append, seen]
  · simp [List.filter_append, seen]

theorem stays_append_singleton (label : Label) (frames : List Frame) (frame : Frame) :
    stays label (frames ++ [frame]) =
      if frame.fingertip.isSome then if frame.label = some label then stays label frames + 1 else 0
      else stays label frames := by
  rw [stays, hoveredBackwards_append_singleton]
  split
  · rw [List.takeWhile_cons]
    by_cases same : frame.label = some label
    · rw [if_pos (by simpa using same), if_pos same]
      rfl
    · rw [if_neg (by simpa using same), if_neg same]
      rfl
  · rfl

theorem hover_dwell (state : State) (label : Label) :
    (state.hover (some label)).dwell = if state.last = some label then min (state.dwell + 1) greatestCount else 0 := by
  simp [State.hover, eq_comm]

theorem look_hover_dwell (state : State) (frame : Frame) (label : Label) :
    ((state.look frame).hover (some label)).dwell =
      if frame.fingertip.isSome then
        if frame.label = some label then min ((state.hover (some label)).dwell + 1) greatestCount else 0
      else (state.hover (some label)).dwell := by
  unfold State.look
  split
  · rw [hover_dwell]
    have last : (state.hover frame.label).last = frame.label := rfl
    rw [last]
    by_cases same : frame.label = some label
    · rw [if_pos same, if_pos same, same]
    · rw [if_neg same, if_neg same]
  · rfl

/-- The count that the finger would have if it were seen over a label next is the number of frames it has
    stayed there, as far as frames are counted. -/
theorem hover_dwell_eq_stays (frames : List Frame) (label : Label) :
    ((stateAfter settings frames).hover (some label)).dwell = min (stays label frames) greatestCount := by
  induction frames using List.reverseRecOn with
  | nil => rfl
  | append_singleton frames frame ih =>
    have forgets : ((stateAfter settings (frames ++ [frame])).hover (some label)).dwell =
        (((stateAfter settings frames).look frame).hover (some label)).dwell := by
      rw [stateAfter_append_singleton]
      rfl
    rw [forgets, look_hover_dwell, stays_append_singleton, ih]
    by_cases seen : frame.fingertip.isSome
    · rw [if_pos seen, if_pos seen]
      by_cases same : frame.label = some label
      · rw [if_pos same, if_pos same]
        omega
      · rw [if_neg same, if_neg same, Nat.zero_min]
    · rw [if_neg seen, if_neg seen]

/-- The finger has stayed so long if the labels backwards start with that many. -/
theorem le_stays_iff {count : Nat} {label : Label} {frames : List Frame} :
    count ≤ stays label frames ↔ List.replicate count (some label) <+: hoveredBackwards frames := by
  unfold stays
  induction hoveredBackwards frames generalizing count with
  | nil => cases count <;> simp [List.replicate_succ]
  | cons hovered rest ih =>
    rw [List.takeWhile_cons]
    by_cases same : hovered = some label
    · cases count with
      | zero => simp
      | succ count => simp [same, List.replicate_succ, ih]
    · cases count with
      | zero => simp
      | succ count => simp [same, List.replicate_succ, eq_comm]

/-! ### What the wait stands for -/

/-- There are more than so many frames to wait if a press is less far back from there than presses have to
    be apart. -/
theorem lt_cooldown_iff (frames : List Frame) (count : Nat) :
    count < (stateAfter settings frames).cooldown ↔
      ∃ index key, Presses settings frames index key ∧
        frames.length + count ≤ index + settings.cooldownFrames.toNat := by
  induction frames using List.reverseRecOn generalizing count with
  | nil =>
    constructor
    · exact fun waits => absurd waits (Nat.not_lt_zero count)
    · rintro ⟨index, key, presses, _⟩
      exact absurd presses.lt_length (Nat.not_lt_zero index)
  | append_singleton frames frame ih =>
    rw [stateAfter_append_singleton, List.length_append, List.length_singleton]
    dsimp only
    constructor
    · intro waits
      split at waits
      next pressed =>
        obtain ⟨key, pressed⟩ := Option.isSome_iff_exists.mp pressed
        exact ⟨frames.length, key, presses_iff_pressedNow.mpr pressed, by omega⟩
      next =>
        -- The frame has taken one from the wait, so the wait before it was longer by one.
        obtain ⟨index, key, presses, near⟩ := (ih (count + 1)).mp (by omega)
        exact ⟨index, key, (presses_append_iff presses.lt_length).mpr presses, by omega⟩
    · rintro ⟨index, key, presses, near⟩
      have inside : index < frames.length + 1 := by simpa using presses.lt_length
      by_cases last : index = frames.length
      · subst last
        rw [presses_iff_pressedNow] at presses
        rw [presses, Option.isSome_some, if_pos rfl]
        omega
      · have waits := (ih (count + 1)).mpr
          ⟨index, key, (presses_append_iff (by omega)).mp presses, by omega⟩
        split <;> omega

/-- In every run, a frame presses a key exactly if the finger is over it, no frame that is too near before
    it presses one, and there is a pinch or the last frames with a hand, as many as the settings ask for,
    all had the finger over its label. -/
theorem presses_iff_history (settings : Settings) (frames : List Frame) (index : Nat) (key : Key) :
    Presses settings frames index key ↔
      ∃ frame, frames[index]? = some frame ∧ frame.hovered = some key ∧
        (∀ earlier < index, index - earlier ≤ settings.cooldownFrames.toNat →
          ∀ other, ¬ Presses settings frames earlier other) ∧
        (frame.pinch ∨ List.replicate settings.dwellFrames.toNat (some key.label) <+:
          hoveredBackwards (frames.take index)) := by
  rcases Nat.lt_or_ge index frames.length with inside | outside
  · obtain ⟨before, frame, behind, rfl, rfl⟩ : ∃ before frame behind,
        frames = before ++ frame :: behind ∧ index = before.length :=
      ⟨frames.take index, frames[index], frames.drop (index + 1), by simp, by simp; omega⟩
    have rested : (stateAfter settings before).cooldown = 0 ↔
        ∀ earlier < before.length, before.length - earlier ≤ settings.cooldownFrames.toNat →
          ∀ other, ¬ Presses settings (before ++ frame :: behind) earlier other := by
      constructor
      · intro none earlier early near other presses
        have waits := (lt_cooldown_iff before 0).mpr
          ⟨earlier, other, (presses_append_iff early).mp presses, by omega⟩
        omega
      · intro apart
        by_contra waits
        obtain ⟨earlier, other, presses, near⟩ := (lt_cooldown_iff before 0).mp (Nat.pos_of_ne_zero waits)
        exact apart earlier presses.lt_length (by omega) other ((presses_append_iff presses.lt_length).mpr presses)
    rw [presses_iff_pressedNow, pressedNow_eq_some_iff, hover_dwell_eq_stays, dwellFrames_le_min_iff, le_stays_iff,
      rested]
    simp
  · rw [List.getElem?_eq_none outside]
    constructor
    · intro presses
      exact absurd presses.lt_length (by omega)
    · rintro ⟨_, absent, _⟩
      cases absent

end GestureCalculator.Gesture
