import GestureCalculator.Calculator.Basic
import GestureCalculator.Proofs.KeypadBounds
import GestureCalculator.Proofs.PressHistory

/-!
Runs of the calculator over events. A run ends early if the program stops in the middle of an event, and then what was
shown before stays. The keypad that is kept from frame to frame is the one that would be built for the frame, so what a
frame offers to the hand, and whether the program gets through it, is decided by the frame alone.
-/
namespace GestureCalculator
open Keypad

namespace Event

def frame? : Event → Option Frame
  | .frame captured => some captured
  | .key _ => none

end Event

namespace Calculator

/-- What is shown after each event, up to one in which the program stops, and the calculator after all of them if it does
    not. -/
def run : Calculator → List Event → List Overlay × Option Calculator
  | calculator, [] => ([], some calculator)
  | calculator, event :: events =>
    match calculator.handle? event with
    | none => ([], none)
    | some (overlay, next) =>
      let (overlays, last) := next.run events
      (overlay :: overlays, last)

section

variable {calculator next : Calculator} {event : Event} {overlay : Overlay}

theorem run_cons_of_some (handled : calculator.handle? event = some (overlay, next)) (events : List Event) :
    calculator.run (event :: events) = (overlay :: (next.run events).1, (next.run events).2) := by
  rw [run, handled]

theorem run_cons_of_none (stopped : calculator.handle? event = none) (events : List Event) :
    calculator.run (event :: events) = ([], none) := by
  rw [run, stopped]

/-- A run that comes to its end has handled its first event. -/
theorem handled_of_run_cons {events : List Event} {last : Calculator}
    (ended : (calculator.run (event :: events)).2 = some last) :
    ∃ overlay next, calculator.handle? event = some (overlay, next) ∧ (next.run events).2 = some last := by
  cases handled : calculator.handle? event with
  | none =>
    rw [run_cons_of_none handled] at ended
    cases ended
  | some shown =>
    rw [run_cons_of_some handled] at ended
    exact ⟨shown.1, shown.2, rfl, ended⟩

end

theorem run_length_eq_iff {calculator : Calculator} {events : List Event} :
    (calculator.run events).1.length = events.length ↔ (calculator.run events).2.isSome := by
  induction events generalizing calculator with
  | nil => simp [run]
  | cons event events ih =>
    cases handled : calculator.handle? event with
    | none => simp [run_cons_of_none handled]
    | some shown => simp [run_cons_of_some handled, ih]

theorem run_take (calculator : Calculator) (events : List Event) (count : Nat) :
    (calculator.run (events.take count)).1 = (calculator.run events).1.take count := by
  induction events generalizing calculator count with
  | nil => simp [run]
  | cons event events ih =>
    cases count with
    | zero => rfl
    | succ count =>
      rw [List.take_succ_cons]
      cases handled : calculator.handle? event with
      | none => rw [run_cons_of_none handled, run_cons_of_none handled, List.take_nil]
      | some shown => rw [run_cons_of_some handled, run_cons_of_some handled, ih, List.take_succ_cons]

/-- Where something is shown, an event was handled. -/
theorem run_shown {calculator : Calculator} {events : List Event} {k : Nat} {overlay : Overlay}
    (shown : (calculator.run events).1[k]? = some overlay) :
    ∃ event before after, events[k]? = some event ∧ (calculator.run (events.take k)).2 = some before ∧
      before.handle? event = some (overlay, after) ∧ (calculator.run (events.take (k + 1))).2 = some after := by
  induction events generalizing calculator k with
  | nil => simp [run] at shown
  | cons first events ih =>
    rw [List.take_succ_cons]
    cases handled : calculator.handle? first with
    | none =>
      rw [run_cons_of_none handled] at shown
      simp at shown
    | some made =>
      rw [run_cons_of_some handled] at shown ⊢
      cases k with
      | zero =>
        obtain rfl := Option.some.inj shown
        exact ⟨first, calculator, made.2, rfl, rfl, handled, rfl⟩
      | succ k =>
        rw [List.take_succ_cons, run_cons_of_some handled]
        exact ih shown

/-- What every event preserves, a run preserves. -/
theorem run_preserves (invariant : Calculator → Prop)
    (step : ∀ {calculator event overlay after}, invariant calculator → calculator.handle? event = some (overlay, after) →
      invariant after) {calculator last : Calculator} {events : List Event} (holds : invariant calculator)
    (ended : (calculator.run events).2 = some last) : invariant last := by
  induction events generalizing calculator with
  | nil =>
    obtain rfl := Option.some.inj ended
    exact holds
  | cons event events ih =>
    obtain ⟨overlay, next, handled, ended⟩ := handled_of_run_cons ended
    exact ih (step holds handled) ended

end Calculator

/-! ### What frames offer -/

/-- What a frame offers to the hand: the keypad for its size, the finger and the pinch. -/
def Frame.offered? (machine : Machine) (settings : Settings) (frame : Frame) : Option Gesture.Frame := do
  let layout ← Layout.build? machine.overflow frame.width frame.height settings.layout
  let pinch ← frame.pinch? machine settings.gesture
  return { layout, fingertip := frame.hand.map Gesture.Hand.fingertip, pinch }

theorem offered?_eq_some_iff {machine : Machine} {settings : Settings} {frame : Frame} {offered : Gesture.Frame} :
    frame.offered? machine settings = some offered ↔
      Layout.build? machine.overflow frame.width frame.height settings.layout = some offered.layout ∧
        frame.pinch? machine settings.gesture = some offered.pinch ∧
        offered.fingertip = frame.hand.map Gesture.Hand.fingertip := by
  obtain ⟨layout, fingertip, pinch⟩ := offered
  simp only [Frame.offered?, Option.bind_eq_bind, Option.bind_eq_some_iff, Option.pure_def, Option.some.injEq,
    Gesture.Frame.mk.injEq]
  constructor
  · rintro ⟨_, built, _, pinched, rfl, rfl, rfl⟩
    exact ⟨built, pinched, rfl⟩
  · rintro ⟨built, pinched, rfl⟩
    exact ⟨layout, built, pinch, pinched, rfl, rfl, rfl⟩

/-- Whether a hand pinches is told unless the program stops because the finger and the thumb are further apart than 32 bits
    can tell. -/
theorem isSome_pinch?_iff {machine : Machine} {settings : Gesture.Settings} {frame : Frame} :
    (frame.pinch? machine settings).isSome ↔ machine.overflow = .wraps ∨
      ∀ hand ∈ frame.hand, isPixel (hand.fingertip.x - hand.thumb.x) ∧ isPixel (hand.fingertip.y - hand.thumb.y) := by
  unfold Frame.pinch?
  cases frame.hand with
  | none => simp
  | some hand =>
    have parts : (Gesture.isPinch? machine hand frame.width settings).isSome ↔
        (machine.overflow.pixel? (hand.fingertip.x - hand.thumb.x)).isSome ∧
          (machine.overflow.pixel? (hand.fingertip.y - hand.thumb.y)).isSome := by
      simp only [Gesture.isPinch?, Point.distance?]
      cases machine.overflow.pixel? (hand.fingertip.x - hand.thumb.x) with
      | none => simp
      | some width => cases machine.overflow.pixel? (hand.fingertip.y - hand.thumb.y) <;> simp
    simp only [parts, Overflow.isSome_pixel?_iff, Option.mem_def, Option.some.injEq, forall_eq', or_and_left]

theorem isSome_offered?_iff {machine : Machine} {settings : Settings} {frame : Frame} :
    (frame.offered? machine settings).isSome ↔
      (Layout.build? machine.overflow frame.width frame.height settings.layout).isSome ∧
        (frame.pinch? machine settings.gesture).isSome := by
  simp only [Option.isSome_iff_exists, offered?_eq_some_iff]
  constructor
  · rintro ⟨offered, built, pinched, _⟩
    exact ⟨⟨_, built⟩, _, pinched⟩
  · rintro ⟨⟨layout, built⟩, pinch, pinched⟩
    exact ⟨⟨layout, _, pinch⟩, built, pinched, rfl⟩

/-- A program that does not stop gets through every frame. -/
theorem isSome_offered?_of_wraps {machine : Machine} (wraps : machine.overflow = .wraps) (settings : Settings)
    (frame : Frame) : (frame.offered? machine settings).isSome := by
  rw [isSome_offered?_iff, isSome_pinch?_iff, wraps]
  exact ⟨isSome_build?_wraps _ _ _, .inl rfl⟩

/-- The program gets through the frames: it does not stop where bits are not enough, or they are enough for the number of
    the frames and for what each of them offers. -/
def Machine.Computes (machine : Machine) (settings : Settings) (frames : List Frame) : Prop :=
  machine.overflow = .wraps ∨
    frames.length < 2 ^ 64 ∧ ∀ frame ∈ frames, (frame.offered? machine settings).isSome

/-- With settings that make sense, nothing but the count of the frames and a finger far from the thumb can make the program
    stop. -/
theorem computes_iff_of_fault? {settings : Settings} (valid : settings.fault? = none) (machine : Machine)
    (frames : List Frame) : machine.Computes settings frames ↔
      machine.overflow = .wraps ∨ frames.length < 2 ^ 64 ∧ ∀ frame ∈ frames, ∀ hand ∈ frame.hand,
        isPixel (hand.fingertip.x - hand.thumb.x) ∧ isPixel (hand.fingertip.y - hand.thumb.y) := by
  rw [Machine.Computes]
  cases overflow : machine.overflow with
  | wraps => simp
  | stops => simp only [isSome_offered?_iff, isSome_pinch?_iff, overflow, build?_of_fault? valid, Option.isSome_some, true_and,
      reduceCtorEq, false_or]

/-- The greatest coordinate and the least one are further apart than that. -/
example : ¬ (Machine.nearest .stops).Computes {} [⟨640, 480, some ⟨⟨0x7FFFFFFF, 0⟩, ⟨-0x80000000, 0⟩⟩⟩] := by
  unfold Machine.Computes
  decide +kernel

namespace Calculator

/-- The calculator runs on a machine with settings, and the keypad that it keeps is the one that would be built for its
    size. -/
structure Serves (calculator : Calculator) (machine : Machine) (settings : Settings) : Prop where
  onMachine : calculator.machine = machine
  withSettings : calculator.settings = settings
  keepsBuilt : ∀ layout ∈ calculator.layout,
    Layout.build? machine.overflow layout.width layout.height settings.layout = some layout

variable {machine : Machine} {settings : Settings} {calculator after : Calculator} {overlay : Overlay} {frame : Frame}

theorem serves_new (machine : Machine) (settings : Settings) : Serves { machine, settings } machine settings :=
  ⟨rfl, rfl, nofun⟩

theorem Serves.layoutFor?_eq (serves : calculator.Serves machine settings) (width height : UInt32) :
    calculator.layoutFor? width height = Layout.build? machine.overflow width height settings.layout := by
  rw [layoutFor?, serves.onMachine, serves.withSettings]
  cases found : calculator.layout with
  | none => rfl
  | some layout =>
    have built := serves.keepsBuilt layout found
    dsimp only
    split
    next fits =>
      rw [Layout.fits, Bool.and_eq_true, beq_iff_eq, beq_iff_eq] at fits
      rw [← built, fits.1, fits.2]
    next => rfl

/-- A frame is handled if it can be counted, and there is a keypad for it and an answer whether the hand pinches; then
    the hand moves over that keypad. -/
theorem frame?_eq_some_iff : calculator.frame? frame = some (overlay, after) ↔
    ∃ frames layout pinch, calculator.machine.overflow.next? calculator.frames = some frames ∧
      calculator.layoutFor? frame.width frame.height = some layout ∧
      frame.pinch? calculator.machine calculator.settings.gesture = some pinch ∧
      overlay = (calculator.onLayout layout frame pinch).1 ∧
      after = { (calculator.onLayout layout frame pinch).2 with frames } := by
  simp only [frame?, Option.bind_eq_bind, Option.bind_eq_some_iff, Option.pure_def, Option.some.injEq, Prod.mk.injEq]
  constructor
  · rintro ⟨frames, counted, layout, found, pinch, pinched, rfl, rfl⟩
    exact ⟨frames, layout, pinch, counted, found, pinched, rfl, rfl⟩
  · rintro ⟨frames, layout, pinch, counted, found, pinched, rfl, rfl⟩
    exact ⟨frames, counted, layout, found, pinch, pinched, rfl, rfl⟩

theorem Serves.frame?_eq_some_iff (serves : calculator.Serves machine settings) :
    calculator.frame? frame = some (overlay, after) ↔
      ∃ frames offered, machine.overflow.next? calculator.frames = some frames ∧
        frame.offered? machine settings = some offered ∧
        overlay = (calculator.onLayout offered.layout frame offered.pinch).1 ∧
        after = { (calculator.onLayout offered.layout frame offered.pinch).2 with frames } := by
  rw [Calculator.frame?_eq_some_iff, serves.layoutFor?_eq, serves.onMachine, serves.withSettings]
  constructor
  · rintro ⟨frames, layout, pinch, counted, built, pinched, rfl, rfl⟩
    exact ⟨frames, ⟨layout, _, pinch⟩, counted, offered?_eq_some_iff.mpr ⟨built, pinched, rfl⟩, rfl, rfl⟩
  · rintro ⟨frames, offered, counted, offers, rfl, rfl⟩
    obtain ⟨built, pinched, _⟩ := offered?_eq_some_iff.mp offers
    exact ⟨frames, offered.layout, offered.pinch, counted, built, pinched, rfl, rfl⟩

theorem build?_size {overflow : Overflow} {width height : UInt32} {settings : Keypad.Settings} {layout : Layout}
    (built : Layout.build? overflow width height settings = some layout) : layout.width = width ∧ layout.height = height := by
  rw [Layout.build?] at built
  split_ifs at built
  · cases built
    exact ⟨rfl, rfl⟩
  · obtain ⟨keys, _, rfl⟩ := Option.map_eq_some_iff.mp built
    exact ⟨rfl, rfl⟩

theorem Serves.step (serves : calculator.Serves machine settings) {event : Event}
    (handled : calculator.handle? event = some (overlay, after)) : after.Serves machine settings := by
  cases event with
  | key label =>
    cases handled
    exact ⟨serves.onMachine, serves.withSettings, serves.keepsBuilt⟩
  | frame frame =>
    obtain ⟨frames, offered, _, offers, _, rfl⟩ := serves.frame?_eq_some_iff.mp handled
    refine ⟨serves.onMachine, serves.withSettings, fun layout found => ?_⟩
    obtain rfl : offered.layout = layout := Option.some.inj found
    have built := (offered?_eq_some_iff.mp offers).1
    obtain ⟨width, height⟩ := build?_size built
    rwa [width, height]

theorem Serves.last (serves : calculator.Serves machine settings) {events : List Event} {last : Calculator}
    (ended : (calculator.run events).2 = some last) : last.Serves machine settings :=
  run_preserves (Serves · machine settings) (fun serves handled => serves.step handled) serves ended

/-! ### Runs to the end -/

theorem next?_eq_some {overflow : Overflow} {count next : UInt64} (counted : overflow.next? count = some next) :
    next = count + 1 := by
  cases overflow with
  | stops => exact (Option.some.inj (Option.ite_none_left_eq_some.mp counted).2).symm
  | wraps => exact (Option.some.inj counted).symm

theorem isSome_next?_iff {overflow : Overflow} {count : UInt64} :
    (overflow.next? count).isSome ↔ overflow = .wraps ∨ count.toNat + 1 < 2 ^ 64 := by
  cases overflow with
  | stops =>
    have zero : count + 1 = 0 ↔ ¬ count.toNat + 1 < 2 ^ 64 := by
      rw [← UInt64.toNat_inj, UInt64.toNat_add]
      have := count.toNat_lt
      simp
      omega
    have goes : (Overflow.stops.next? count).isSome ↔ ¬ count + 1 = 0 := by simp [Overflow.next?]
    rw [goes, zero, Decidable.not_not]
    exact (or_iff_right nofun).symm
  | wraps => simp [Overflow.next?]

/-- Each frame is counted, and nothing else is. -/
theorem Serves.frames_step (serves : calculator.Serves machine settings) {event : Event}
    (handled : calculator.handle? event = some (overlay, after)) :
    after.frames = calculator.frames + .ofNat event.frame?.toList.length := by
  cases event with
  | key label =>
    cases handled
    exact (UInt64.add_zero _).symm
  | frame frame =>
    obtain ⟨frames, offered, counted, _, _, rfl⟩ := serves.frame?_eq_some_iff.mp handled
    exact next?_eq_some counted

theorem Serves.isSome_frame?_iff (serves : calculator.Serves machine settings) :
    (calculator.frame? frame).isSome ↔
      machine.overflow = .wraps ∨ calculator.frames.toNat + 1 < 2 ^ 64 ∧ (frame.offered? machine settings).isSome := by
  have parts : (calculator.frame? frame).isSome ↔
      (machine.overflow.next? calculator.frames).isSome ∧ (frame.offered? machine settings).isSome := by
    simp only [Option.isSome_iff_exists, Prod.exists, serves.frame?_eq_some_iff]
    constructor
    · rintro ⟨_, _, frames, offered, counted, offers, _⟩
      exact ⟨⟨frames, counted⟩, offered, offers⟩
    · rintro ⟨⟨frames, counted⟩, offered, offers⟩
      exact ⟨_, _, frames, offered, counted, offers, rfl, rfl⟩
  rw [parts, isSome_next?_iff]
  constructor
  · rintro ⟨wraps | fits, offers⟩
    · exact .inl wraps
    · exact .inr ⟨fits, offers⟩
  · rintro (wraps | ⟨fits, offers⟩)
    · exact ⟨.inl wraps, isSome_offered?_of_wraps wraps settings frame⟩
    · exact ⟨.inr fits, offers⟩

/-- A run comes to its end if the program does not stop where bits are not enough, or they are enough for the number of
    frames and for what each of them offers. -/
theorem Serves.isSome_run_iff (serves : calculator.Serves machine settings) {events : List Event} :
    (calculator.run events).2.isSome ↔ machine.overflow = .wraps ∨
      calculator.frames.toNat + (events.filterMap Event.frame?).length < 2 ^ 64 ∧
        ∀ frame ∈ events.filterMap Event.frame?, (frame.offered? machine settings).isSome := by
  induction events generalizing calculator with
  | nil => simpa [run] using .inr calculator.frames.toNat_lt
  | cons event events ih =>
    cases event with
    | key label =>
      have handled : calculator.handle? (.key label) = some (calculator.key label) := rfl
      rw [run_cons_of_some handled, ih (serves.step handled)]
      rfl
    | frame frame =>
      have goes := @Serves.isSome_frame?_iff _ _ _ frame serves
      simp only [List.filterMap_cons, Event.frame?, List.length_cons, List.forall_mem_cons]
      cases handled : calculator.handle? (.frame frame) with
      | none =>
        rw [show calculator.frame? frame = none from handled] at goes
        rw [run_cons_of_none handled]
        simp only [Option.isSome_none, Bool.false_eq_true, false_iff, not_or, not_and] at goes ⊢
        exact ⟨goes.1, fun fits offers => absurd offers (goes.2 (by omega))⟩
      | some shown =>
        rw [show calculator.frame? frame = some shown from handled] at goes
        rw [run_cons_of_some handled, ih (serves.step handled), serves.frames_step handled]
        rcases goes.mp rfl with wraps | ⟨fits, offers⟩
        · simp [wraps]
        · have counted : (calculator.frames + .ofNat (Event.frame frame).frame?.toList.length).toNat =
              calculator.frames.toNat + 1 := by
            rw [UInt64.toNat_add]
            exact Nat.mod_eq_of_lt fits
          rw [counted, Nat.add_right_comm]
          simp [offers, Nat.add_assoc]

/-- A new calculator handles all events exactly if the program gets through the frames among them. -/
theorem isSome_run_iff {events : List Event} :
    (run { machine, settings } events).2.isSome ↔ machine.Computes settings (events.filterMap Event.frame?) := by
  rw [(serves_new machine settings).isSome_run_iff, Machine.Computes]
  simp

theorem Serves.frames_run (serves : calculator.Serves machine settings) {events : List Event} {last : Calculator}
    (ended : (calculator.run events).2 = some last) :
    last.frames = calculator.frames + .ofNat (events.filterMap Event.frame?).length := by
  induction events generalizing calculator with
  | nil =>
    obtain rfl := Option.some.inj ended
    exact (UInt64.add_zero _).symm
  | cons event events ih =>
    obtain ⟨overlay, next, handled, ended⟩ := handled_of_run_cons ended
    have counts : ((event :: events).filterMap Event.frame?).length =
        event.frame?.toList.length + (events.filterMap Event.frame?).length := by
      rw [List.filterMap_cons]
      cases event.frame? <;> simp [Nat.add_comm]
    rw [ih (serves.step handled) ended, serves.frames_step handled, UInt64.add_assoc, ← UInt64.ofNat_add, counts]

/-! ### Frames alone -/

/-- The frames offer these things to the hand, wherever the program gets through them. -/
def Offers (machine : Machine) (settings : Settings) : List Frame → List Gesture.Frame → Prop :=
  List.Forall₂ fun frame offered => ∀ computed, frame.offered? machine settings = some computed → computed = offered

theorem offers_getD (machine : Machine) (settings : Settings) (frames : List Frame) (other : Gesture.Frame) :
    Offers machine settings frames (frames.map fun frame => (frame.offered? machine settings).getD other) := by
  rw [Offers, List.forall₂_map_right_iff, List.forall₂_same]
  intro frame _ computed offers
  rw [offers, Option.getD_some]

theorem frame?_eq_advance (serves : calculator.Serves machine settings) {offered : Gesture.Frame}
    (offers : frame.offered? machine settings = some offered) (handled : calculator.frame? frame = some (overlay, after)) :
    let advanced := calculator.gesture.advance settings.gesture offered.layout offered.fingertip offered.pinch
    overlay.hovered = advanced.1.hovered.map Key.label ∧ overlay.pressed = advanced.1.pressed.map Key.label ∧
      after.gesture = advanced.2 := by
  obtain ⟨_, computed, _, offers', rfl, rfl⟩ := serves.frame?_eq_some_iff.mp handled
  obtain rfl : offered = computed := Option.some.inj (offers.symm.trans offers')
  rw [(offered?_eq_some_iff.mp offers).2.2, ← serves.withSettings]
  exact ⟨rfl, rfl, rfl⟩

/-- Frames without keys between them press what the hand presses, as far as the program gets. -/
theorem run_frames (serves : calculator.Serves machine settings) {frames : List Frame} {offered : List Gesture.Frame}
    (offers : Offers machine settings frames offered) :
    let shown := calculator.run (frames.map .frame)
    shown.1.map Overlay.pressed = ((calculator.gesture.run settings.gesture offered).1.take shown.1.length).map
      fun outcome => outcome.pressed.map Key.label := by
  induction offers generalizing calculator with
  | nil => rfl
  | @cons frame seen frames offered first _ ih =>
    dsimp only
    rw [List.map_cons]
    cases handled : calculator.handle? (.frame frame) with
    | none =>
      rw [run_cons_of_none handled]
      rfl
    | some shown =>
      obtain ⟨frames', computed, _, offers', _⟩ := serves.frame?_eq_some_iff.mp handled
      obtain rfl := first computed offers'
      obtain ⟨_, pressed, gesture⟩ := frame?_eq_advance serves offers' handled
      rw [run_cons_of_some handled]
      simp only [Gesture.State.run, List.map_cons, List.length_cons, List.take_succ_cons, pressed, ← gesture]
      exact congrArg _ (ih (serves.step handled))

end Calculator
end GestureCalculator
