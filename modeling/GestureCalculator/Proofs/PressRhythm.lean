import GestureCalculator.Proofs.TypedLabels

/-!
A finger that rests on a key. How many frames are left before the next press can be told from what is remembered:
it is one less after every frame, and a press sets it to the wait that follows a press. So a resting finger presses
at equal distances, beginning at a frame that the state before the run decides.
-/
namespace GestureCalculator.Gesture
open Keypad

/-- In a run from a state, the key is pressed in the frame at the index. -/
def State.PressesAt (settings : Settings) (state : State) (frames : List Frame) (index : Nat) (key : Key) : Prop :=
  ∃ outcome, (state.run settings frames).1[index]? = some outcome ∧ outcome.pressed = some key

/-- The frames that are left before the next press, as long as the finger rests on a key with the label. -/
def State.remaining (settings : Settings) (pinch : Bool) (label : Label) (state : State) : Nat :=
  if pinch then state.cooldown else max state.cooldown (settings.dwellFrames.toNat - state.stayed label)

variable {settings : Settings} {state : State} {frame : Frame} {key : Key}

/-! ### One frame -/

theorem remaining_eq_zero_iff {pinch : Bool} {label : Label} :
    state.remaining settings pinch label = 0 ↔
      state.cooldown = 0 ∧ (pinch ∨ settings.dwellFrames.toNat ≤ state.stayed label) := by
  unfold State.remaining
  cases pinch with
  | true => simp
  | false =>
    simp only [Bool.false_eq_true, if_false, false_or]
    omega

/-- The key is pressed once nothing is left before the next press. -/
theorem pressedNow_resting (touches : frame.hovered = some key) :
    pressedNow settings state frame =
      if state.remaining settings frame.pinch key.label = 0 then some key else none := by
  have enough (other : Key) : pressedNow settings state frame = some other ↔
      other = key ∧ state.remaining settings frame.pinch key.label = 0 := by
    rw [pressedNow_eq_some_iff, touches, Option.some_inj, eq_comm, remaining_eq_zero_iff]
    constructor
    · rintro ⟨rfl, ready⟩
      exact ⟨rfl, ready⟩
    · rintro ⟨rfl, ready⟩
      exact ⟨rfl, ready⟩
  split
  next ready => exact (enough key).mpr ⟨rfl, ready⟩
  next waits =>
    rw [Option.eq_none_iff_forall_ne_some]
    exact fun other pressed => waits ((enough other).mp pressed).2

/-- A frame takes one from what is left, and a press sets it to the wait between presses. The count that goes on
    below has no say in it: behind a press it is enough already. -/
theorem remaining_after (touches : frame.hovered = some key) :
    (state.after settings frame).remaining settings frame.pinch key.label =
      if state.remaining settings frame.pinch key.label = 0 then settings.cooldownFrames.toNat
      else state.remaining settings frame.pinch key.label - 1 := by
  have labelled : frame.label = some key.label := by rw [Frame.label, touches, Option.map_some]
  have cooldown := @after_cooldown settings state frame
  rw [pressedNow_resting touches] at cooldown
  have stayed := @after_stayed settings state key.label frame
  rw [if_pos (Frame.fingertip_isSome_of_hovered touches), if_pos labelled] at stayed
  have bounded : settings.dwellFrames.toNat ≤ greatestCount := Nat.le_of_lt_succ settings.dwellFrames.toNat_lt
  by_cases ready : state.remaining settings frame.pinch key.label = 0
  · rw [if_pos ready, Option.isSome_some, if_pos rfl] at cooldown
    rw [if_pos ready]
    obtain ⟨_, enough⟩ := remaining_eq_zero_iff.mp ready
    unfold State.remaining
    rw [cooldown, stayed]
    cases pinched : frame.pinch with
    | true => rfl
    | false =>
      rw [pinched] at enough
      simp only [Bool.false_eq_true, if_false, false_or] at enough ⊢
      omega
  · rw [if_neg ready, Option.isSome_none, if_neg Bool.false_ne_true] at cooldown
    rw [if_neg ready]
    unfold State.remaining
    rw [cooldown, stayed]
    split
    · rfl
    · omega

/-! ### Runs -/

theorem pressesAt_cons_zero {frames : List Frame} :
    state.PressesAt settings (frame :: frames) 0 key ↔ pressedNow settings state frame = some key := by
  simp [State.PressesAt, State.run, advance_eq]

theorem pressesAt_cons_succ {frames : List Frame} {index : Nat} :
    state.PressesAt settings (frame :: frames) (index + 1) key ↔
      (state.after settings frame).PressesAt settings frames index key := by
  simp [State.PressesAt, State.run, State.after]

/-- The indices at a distance from each other, seen from the next frame. -/
theorem exists_multiple_succ_iff {first wait index : Nat} :
    (∃ k, index + 1 = first + k * (wait + 1)) ↔
      ∃ k, index = (if first = 0 then wait else first - 1) + k * (wait + 1) := by
  by_cases now : first = 0
  · rw [if_pos now]
    constructor
    · rintro ⟨k, later⟩
      cases k with
      | zero => omega
      | succ k =>
        rw [Nat.succ_mul] at later
        exact ⟨k, by omega⟩
    · rintro ⟨k, later⟩
      refine ⟨k + 1, ?_⟩
      rw [Nat.succ_mul]
      omega
  · rw [if_neg now]
    constructor
    · rintro ⟨k, later⟩
      exact ⟨k, by omega⟩
    · rintro ⟨k, later⟩
      exact ⟨k, by omega⟩

/-- A finger that rests on a key presses it whenever nothing is left before the next press, and no other key. -/
theorem pressesAt_resting_iff (touches : frame.hovered = some key) {count index : Nat} {other : Key} :
    state.PressesAt settings (List.replicate count frame) index other ↔
      other = key ∧ index < count ∧
        ∃ k, index = state.remaining settings frame.pinch key.label + k * (settings.cooldownFrames.toNat + 1) := by
  -- The induction is on the frames, from any state; what is left before the next press is all that it carries.
  induction count generalizing state index with
  | zero => simp [State.PressesAt, State.run]
  | succ count ih =>
    rw [List.replicate_succ]
    cases index with
    | zero =>
      rw [pressesAt_cons_zero, pressedNow_resting touches]
      have now : (∃ k, 0 = state.remaining settings frame.pinch key.label +
          k * (settings.cooldownFrames.toNat + 1)) ↔ state.remaining settings frame.pinch key.label = 0 := by
        constructor
        · rintro ⟨k, none⟩
          omega
        · intro ready
          exact ⟨0, by omega⟩
      rw [now]
      by_cases ready : state.remaining settings frame.pinch key.label = 0
      · simp [ready, eq_comm]
      · simp [ready]
    | succ index =>
      rw [pressesAt_cons_succ, ih, remaining_after touches, exists_multiple_succ_iff, Nat.succ_lt_succ_iff]

/-- What a state has counted for a label, and more only where no settings can tell. -/
theorem dwellFrames_sub_stayed (label : Label) :
    settings.dwellFrames.toNat - state.stayed label =
      settings.dwellFrames.toNat - if state.last = some label then state.dwell + 1 else 0 := by
  have bounded : settings.dwellFrames.toNat ≤ greatestCount := Nat.le_of_lt_succ settings.dwellFrames.toNat_lt
  rw [State.stayed, hover_dwell]
  split
  · omega
  · rfl

/-- While the finger rests on a key, from whatever state, the frames that press are at equal distances, one more than
    the wait after a press. Without a pinch the first of them is there once the wait is over and the count, which
    begins anew unless the finger was over the label already, is enough; with a pinch, once the wait is over.
    No other key is pressed. -/
theorem presses_at_equal_distances (settings : Settings) (state : State) {layout : Layout} {point : Point} {key : Key}
    (touches : layout.keyAt? point = some key) (count : Nat) :
    let stayed := if state.last = some key.label then state.dwell + 1 else 0
    let distance := settings.cooldownFrames.toNat + 1
    (∀ index other, state.PressesAt settings (List.replicate count ⟨layout, some point, false⟩) index other ↔
      other = key ∧ index < count ∧
        ∃ k, index = max state.cooldown (settings.dwellFrames.toNat - stayed) + k * distance) ∧
    ∀ index other, state.PressesAt settings (List.replicate count ⟨layout, some point, true⟩) index other ↔
      other = key ∧ index < count ∧ ∃ k, index = state.cooldown + k * distance := by
  dsimp only
  constructor
  · intro index other
    have hovers : (⟨layout, some point, false⟩ : Frame).hovered = some key := touches
    rw [pressesAt_resting_iff hovers, State.remaining, if_neg Bool.false_ne_true, dwellFrames_sub_stayed]
  · intro index other
    have hovers : (⟨layout, some point, true⟩ : Frame).hovered = some key := touches
    rw [pressesAt_resting_iff hovers, State.remaining, if_pos rfl]

/-- A wait that ends one frame before the count is enough: a pinch presses that much earlier. -/
theorem presses_at_equal_distances_behind_wait :
    let settings : Settings := { dwellFrames := 9, cooldownFrames := 7 }
    let layout : Layout := ⟨20, 20, [⟨.seven, 0, 0, 8, 8⟩, ⟨.eight, 10, 0, 18, 8⟩]⟩
    let key : Key := ⟨.eight, 10, 0, 18, 8⟩
    let state : State := { dwell := 2, last := some .eight, cooldown := 5 }
    layout.keyAt? ⟨18, 8⟩ = some key ∧
      (∀ index other, state.PressesAt settings (List.replicate 30 ⟨layout, some ⟨18, 8⟩, false⟩) index other ↔
        other = key ∧ index < 30 ∧ ∃ k, index = 6 + k * 8) ∧
      ∀ index other, state.PressesAt settings (List.replicate 30 ⟨layout, some ⟨18, 8⟩, true⟩) index other ↔
        other = key ∧ index < 30 ∧ ∃ k, index = 5 + k * 8 := by
  intro settings layout key state
  have touches : layout.keyAt? ⟨18, 8⟩ = some key := by decide
  exact ⟨touches, presses_at_equal_distances settings state touches 30⟩

end GestureCalculator.Gesture
