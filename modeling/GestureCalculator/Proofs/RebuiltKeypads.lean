import GestureCalculator.Proofs.SharedSession

/-!
The keypad that a calculator keeps from frame to frame cannot be seen from outside. Beside it stands a calculator that
keeps the size of the last frame alone and builds the keypad anew whenever one is needed; both show the same after every
event, however the sizes of the frames change, and stop in the same event if they do.
-/
namespace GestureCalculator
open Keypad

/-- A calculator that keeps no keypad. -/
structure Rebuilding where
  machine : Machine
  settings : Settings
  /-- The width and the height of the last frame. -/
  size : Option (UInt32 × UInt32) := none
  gesture : Gesture.State := {}
  session : Session := {}
  frames : UInt64 := 0

namespace Rebuilding

def build? (rebuilding : Rebuilding) (width height : UInt32) : Option Layout :=
  Layout.build? rebuilding.machine.overflow width height rebuilding.settings.layout

def frame? (rebuilding : Rebuilding) (frame : Frame) : Option (Overlay × Rebuilding) := do
  let frames ← rebuilding.machine.overflow.next? rebuilding.frames
  let built ← rebuilding.build? frame.width frame.height
  let pinch ← frame.pinch? rebuilding.machine rebuilding.settings.gesture
  let fingertip := frame.hand.map Gesture.Hand.fingertip
  let (outcome, gesture) := rebuilding.gesture.advance rebuilding.settings.gesture built fingertip pinch
  let pressed := outcome.pressed.map Key.label
  let session := pressed.elim rebuilding.session rebuilding.session.press
  return ({ Overlay.of rebuilding.frames built.keys session with
      hovered := outcome.hovered.map Key.label, pressed, fingertip, pinch },
    { rebuilding with size := some (frame.width, frame.height), gesture, session, frames })

def layout? (rebuilding : Rebuilding) : Option Layout :=
  rebuilding.size.bind fun (width, height) => rebuilding.build? width height

def key (rebuilding : Rebuilding) (label : Label) : Overlay × Rebuilding :=
  let session := rebuilding.session.press label
  (Overlay.of rebuilding.frames (rebuilding.layout?.elim [] Layout.keys) session, { rebuilding with session })

def handle? (rebuilding : Rebuilding) : Event → Option (Overlay × Rebuilding)
  | .frame frame => rebuilding.frame? frame
  | .key label => some (rebuilding.key label)

/-- What is shown after each event, up to one in which the program stops, and the calculator after all of them if it does
    not. -/
def run : Rebuilding → List Event → List Overlay × Option Rebuilding
  | rebuilding, [] => ([], some rebuilding)
  | rebuilding, event :: events =>
    match rebuilding.handle? event with
    | none => ([], none)
    | some (overlay, next) =>
      let (overlays, last) := next.run events
      (overlay :: overlays, last)

/-- The calculator that has kept the keypad. -/
def keeping (rebuilding : Rebuilding) : Calculator where
  machine := rebuilding.machine
  settings := rebuilding.settings
  layout := rebuilding.layout?
  gesture := rebuilding.gesture
  session := rebuilding.session
  frames := rebuilding.frames

theorem keeping_serves (rebuilding : Rebuilding) :
    rebuilding.keeping.Serves rebuilding.machine rebuilding.settings := by
  refine ⟨rfl, rfl, fun layout found => ?_⟩
  obtain ⟨size, _, built⟩ := Option.bind_eq_some_iff.mp found
  obtain ⟨width, height⟩ := Calculator.build?_size built
  rw [width, height]
  exact built

theorem handle?_keeping (rebuilding : Rebuilding) (event : Event) :
    rebuilding.keeping.handle? event = (rebuilding.handle? event).map fun shown => (shown.1, shown.2.keeping) := by
  cases event with
  | key label => rfl
  | frame frame =>
    change rebuilding.keeping.frame? frame = (rebuilding.frame? frame).map fun shown => (shown.1, shown.2.keeping)
    have layouts : rebuilding.keeping.layoutFor? frame.width frame.height = rebuilding.build? frame.width frame.height :=
      rebuilding.keeping_serves.layoutFor?_eq frame.width frame.height
    have numbers : rebuilding.keeping.frames = rebuilding.frames := rfl
    have machines : rebuilding.keeping.machine = rebuilding.machine := rfl
    have chosen : rebuilding.keeping.settings = rebuilding.settings := rfl
    rw [Calculator.frame?, frame?, layouts, numbers, machines, chosen]
    cases rebuilding.machine.overflow.next? rebuilding.frames with
    | none => rfl
    | some frames =>
      cases built : rebuilding.build? frame.width frame.height with
      | none => rfl
      | some layout =>
        cases frame.pinch? rebuilding.machine rebuilding.settings.gesture with
        | none => rfl
        | some pinch =>
          -- The keypad that the one calculator keeps is the one that the other would build for the size it keeps.
          have kept (gesture : Gesture.State) (session : Session) : layout? { rebuilding with
            size := some (frame.width, frame.height), gesture, session, frames } = some layout := built
          simp only [Option.bind_eq_bind, Option.bind_some, Option.pure_def, Option.map_some, keeping, kept,
            Calculator.onLayout]

theorem run_keeping (rebuilding : Rebuilding) (events : List Event) :
    rebuilding.keeping.run events = ((rebuilding.run events).1, (rebuilding.run events).2.map keeping) := by
  induction events generalizing rebuilding with
  | nil => rfl
  | cons event events ih =>
    have same := rebuilding.handle?_keeping event
    rw [run]
    cases handled : rebuilding.handle? event with
    | none =>
      rw [handled] at same
      rw [Calculator.run_cons_of_none same]
      rfl
    | some shown =>
      rw [handled] at same
      rw [Calculator.run_cons_of_some same, ih]

end Rebuilding

namespace Calculator

variable {machine : Machine} {settings : Settings} {calculator after last : Calculator} {overlay : Overlay} {frame : Frame}

/-- The keypad behind a run is that of its last frame. -/
theorem Serves.run_layout (serves : calculator.Serves machine settings) {events : List Event}
    (ended : (calculator.run events).2 = some last) :
    let frames := events.filterMap Event.frame?
    (frames = [] → last.layout = calculator.layout) ∧ ∀ frame ∈ frames.getLast?, ∃ built,
      Layout.build? machine.overflow frame.width frame.height settings.layout = some built ∧ last.layout = some built := by
  induction events generalizing calculator with
  | nil =>
    obtain rfl := Option.some.inj ended
    exact ⟨fun _ => rfl, nofun⟩
  | cons event events ih =>
    obtain ⟨overlay, next, handled, ended⟩ := handled_of_run_cons ended
    obtain ⟨unframed, framed⟩ := ih (serves.step handled) ended
    cases event with
    | key label =>
      cases handled
      exact ⟨unframed, framed⟩
    | frame frame =>
      obtain ⟨_, offered, _, offers, _, rest⟩ := serves.frame?_eq_some_iff.mp handled
      have used : next.layout = some offered.layout := by rw [rest]; rfl
      refine ⟨nofun, fun other found => ?_⟩
      change other ∈ (frame :: events.filterMap Event.frame?).getLast? at found
      rw [List.getLast?_cons, Option.mem_some_iff] at found
      cases others : (events.filterMap Event.frame?).getLast? with
      | none =>
        rw [others, Option.getD_none] at found
        subst found
        have last := unframed (List.getLast?_eq_none_iff.mp others)
        exact ⟨offered.layout, (offered?_eq_some_iff.mp offers).1, last.trans used⟩
      | some another =>
        rw [others, Option.getD_some] at found
        exact framed other (found ▸ others)

/-- What a frame shows of the keypad: its keys, the one under the finger, and no other as pressed. -/
theorem Serves.frame?_keys (serves : calculator.Serves machine settings)
    (handled : calculator.frame? frame = some (overlay, after)) : ∃ built,
      Layout.build? machine.overflow frame.width frame.height settings.layout = some built ∧
      let hovered := frame.hand.bind fun hand => built.keyAt? hand.fingertip
      overlay.keys = built.keys ∧ overlay.hovered = hovered.map Key.label ∧
        ∀ label ∈ overlay.pressed, label ∈ hovered.map Key.label := by
  obtain ⟨frames, offered, _, offers, shown, _⟩ := serves.frame?_eq_some_iff.mp handled
  obtain ⟨built, _, fingertip⟩ := offered?_eq_some_iff.mp offers
  obtain ⟨hovers, presses, _⟩ := frame?_eq_advance serves offers handled
  have finger : offered.hovered = frame.hand.bind fun hand => offered.layout.keyAt? hand.fingertip := by
    rw [Gesture.Frame.hovered, fingertip, Option.bind_map]
    rfl
  rw [Gesture.advance_eq] at hovers presses
  refine ⟨offered.layout, built, by rw [shown]; rfl, hovers.trans (by rw [finger]), fun label pressed => ?_⟩
  rw [presses] at pressed
  obtain ⟨key, found, rfl⟩ := Option.map_eq_some_iff.mp pressed
  rw [← finger, (Gesture.pressedNow_eq_some_iff.mp found).1]
  rfl

/-- What is shown after every event is what a calculator shows that keeps no keypad. So a frame has the keys that are built
    for its own size, a key pressed without a hand has those of the last frame before it, and frames are counted one by
    one, as far as 64 bits can count them. -/
theorem kept_keypad_unobservable (machine : Machine) (settings : Settings) (events : List Event) :
    let shown := (run { machine, settings } events).1
    (shown.length = events.length ↔ machine.Computes settings (events.filterMap Event.frame?)) ∧
      shown = (Rebuilding.run { machine, settings } events).1 ∧
      ∀ (k : Nat) (event : Event) (overlay : Overlay), events[k]? = some event → shown[k]? = some overlay →
        let frames := (events.take k).filterMap Event.frame?
        overlay.frame.toNat = frames.length % 2 ^ 64 ∧
        match event with
        | .frame frame => ∃ built,
          Layout.build? machine.overflow frame.width frame.height settings.layout = some built ∧
          let hovered := frame.hand.bind fun hand => built.keyAt? hand.fingertip
          overlay.keys = built.keys ∧ overlay.hovered = hovered.map Key.label ∧
            ∀ label ∈ overlay.pressed, label ∈ hovered.map Key.label
        | .key _ => (frames = [] → overlay.keys = []) ∧ ∀ last ∈ frames.getLast?, ∃ built,
          Layout.build? machine.overflow last.width last.height settings.layout = some built ∧
            overlay.keys = built.keys := by
  refine ⟨run_length_eq_iff.trans isSome_run_iff,
    congrArg Prod.fst (Rebuilding.run_keeping { machine, settings } events), ?_⟩
  intro k event overlay found shown
  obtain ⟨event', before, after, found', reached, handled, _⟩ := run_shown shown
  obtain rfl : event = event' := Option.some.inj (found.symm.trans found')
  have serves := (serves_new machine settings).last reached
  have counted : before.frames.toNat = ((events.take k).filterMap Event.frame?).length % 2 ^ 64 := by
    rw [(serves_new machine settings).frames_run reached, UInt64.zero_add, UInt64.toNat_ofNat']
  cases event with
  | frame frame =>
    obtain ⟨_, _, _, _, seen, _⟩ := serves.frame?_eq_some_iff.mp handled
    have number : overlay.frame = before.frames := by rw [seen]; rfl
    exact ⟨number ▸ counted, serves.frame?_keys handled⟩
  | key label =>
    obtain ⟨unframed, framed⟩ := (serves_new machine settings).run_layout reached
    cases handled
    refine ⟨counted, fun none => ?_, fun last ended => ?_⟩
    · change before.layout.elim [] Layout.keys = []
      rw [unframed none]
      rfl
    · obtain ⟨built, computed, kept⟩ := framed last ended
      refine ⟨built, computed, ?_⟩
      change before.layout.elim [] Layout.keys = built.keys
      rw [kept]
      rfl

end Calculator
end GestureCalculator
