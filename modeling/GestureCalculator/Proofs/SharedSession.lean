import GestureCalculator.Proofs.CalculatorRuns

/-!
Keys that are pressed without a hand. They meet the frames in the session alone: it is what the labels that were
pressed make of a new one, whichever way they were pressed. What a frame shows of the hand and of the keypad
depends on the frames before it and on nothing else.
-/
namespace GestureCalculator
open Keypad

/-- The overlay shows the texts of the session. -/
structure Overlay.Shows (overlay : Overlay) (session : Session) : Prop where
  expression : overlay.expression = session.expression
  lastResult : overlay.lastResult = session.lastResult
  isError : overlay.isError = session.isError

/-- What an overlay shows beside the texts of a session. -/
structure Scene where
  frame : UInt64
  keys : List Key
  hovered : Option Label
  pressed : Option Label
  fingertip : Option Point
  pinch : Bool
deriving DecidableEq, Repr

def Overlay.scene (overlay : Overlay) : Scene :=
  ⟨overlay.frame, overlay.keys, overlay.hovered, overlay.pressed, overlay.fingertip, overlay.pinch⟩

namespace Event

/-- The label that an event presses: its own, or the one that is shown as pressed in the frame. -/
def pressed? : Event → Overlay → Option Label
  | .frame _, overlay => overlay.pressed
  | .key label, _ => some label

/-- What is shown in the event if it is a frame. -/
def scene? : Event → Overlay → Option Scene
  | .frame _, overlay => some overlay.scene
  | .key _, _ => none

/-- The other events come from these by inserting and deleting keys. -/
inductive KeysChanged (events : List Event) : List Event → Prop
  | same : KeysChanged events events
  | insert (before : List Event) {behind : List Event} (label : Label) : KeysChanged events (before ++ behind) →
      KeysChanged events (before ++ .key label :: behind)
  | delete (before : List Event) {behind : List Event} {label : Label} :
      KeysChanged events (before ++ .key label :: behind) → KeysChanged events (before ++ behind)

theorem KeysChanged.frames_eq {events other : List Event} (changed : KeysChanged events other) :
    other.filterMap frame? = events.filterMap frame? := by
  induction changed with
  | same => rfl
  | insert before label _ ih =>
    rw [← ih, List.filterMap_append, List.filterMap_append]
    rfl
  | delete before _ ih =>
    rw [← ih, List.filterMap_append, List.filterMap_append]
    rfl

end Event

namespace Calculator

def labelsPressed (events : List Event) (overlays : List Overlay) : List Label :=
  (List.zipWith Event.pressed? events overlays).reduceOption

/-- What is shown after each of the frames in a run. -/
def frameScenes (events : List Event) (overlays : List Overlay) : List Scene :=
  (List.zipWith Event.scene? events overlays).reduceOption

/-! ### The part that presses drive -/

section

variable {calculator after : Calculator} {event : Event} {overlay : Overlay}

/-- An event presses its label in the session and does nothing else to it. -/
theorem handle?_session (handled : calculator.handle? event = some (overlay, after)) :
    after.session = (event.pressed? overlay).toList.foldl Session.press calculator.session := by
  cases event with
  | key label =>
    cases handled
    rfl
  | frame frame =>
    obtain ⟨frames, layout, pinch, _, _, _, rfl, rfl⟩ := frame?_eq_some_iff.mp handled
    have session : (calculator.onLayout layout frame pinch).2.session =
      (calculator.onLayout layout frame pinch).1.pressed.elim calculator.session calculator.session.press := rfl
    rw [session, Event.pressed?]
    cases (calculator.onLayout layout frame pinch).1.pressed <;> rfl

theorem handle?_shows (handled : calculator.handle? event = some (overlay, after)) : overlay.Shows after.session := by
  cases event with
  | key label =>
    cases handled
    exact ⟨rfl, rfl, rfl⟩
  | frame frame =>
    obtain ⟨frames, layout, pinch, _, _, _, rfl, rfl⟩ := frame?_eq_some_iff.mp handled
    exact ⟨rfl, rfl, rfl⟩

end

theorem run_session {calculator last : Calculator} {events : List Event}
    (ended : (calculator.run events).2 = some last) :
    last.session = (labelsPressed events (calculator.run events).1).foldl Session.press calculator.session := by
  induction events generalizing calculator with
  | nil =>
    obtain rfl := Option.some.inj ended
    rfl
  | cons event events ih =>
    obtain ⟨overlay, next, handled, ended⟩ := handled_of_run_cons ended
    have split : labelsPressed (event :: events) (calculator.run (event :: events)).1 =
        (event.pressed? overlay).toList ++ labelsPressed events (next.run events).1 := by
      rw [run_cons_of_some handled, labelsPressed, List.zipWith_cons_cons]
      cases event.pressed? overlay <;> rfl
    rw [split, List.foldl_append, ← handle?_session handled, ih ended]

/-! ### The part that frames drive -/

/-- The calculator with a new session. -/
def withoutSession (calculator : Calculator) : Calculator := { calculator with session := {} }

/-- What a frame does beside the session does not depend on it. -/
theorem frame?_withoutSession (calculator : Calculator) (frame : Frame) :
    (calculator.withoutSession.frame? frame).map (fun shown => (shown.1.scene, shown.2.withoutSession)) =
      (calculator.frame? frame).map fun shown => (shown.1.scene, shown.2.withoutSession) := by
  have layouts : calculator.withoutSession.layoutFor? frame.width frame.height =
    calculator.layoutFor? frame.width frame.height := rfl
  have numbers : calculator.withoutSession.frames = calculator.frames := rfl
  have machines : calculator.withoutSession.machine = calculator.machine := rfl
  have chosen : calculator.withoutSession.settings = calculator.settings := rfl
  rw [Calculator.frame?, Calculator.frame?, layouts, numbers, machines, chosen]
  cases calculator.machine.overflow.next? calculator.frames with
  | none => rfl
  | some frames =>
    cases calculator.layoutFor? frame.width frame.height with
    | none => rfl
    | some layout => cases frame.pinch? calculator.machine calculator.settings.gesture <;> rfl

/-- What a calculator shows in frames that come without keys. -/
def scenes : Calculator → List Frame → List Scene
  | _, [] => []
  | calculator, frame :: frames =>
    match calculator.frame? frame with
    | none => []
    | some (overlay, after) => overlay.scene :: after.scenes frames

theorem scenes_withoutSession (calculator : Calculator) (frames : List Frame) :
    calculator.withoutSession.scenes frames = calculator.scenes frames := by
  induction frames generalizing calculator with
  | nil => rfl
  | cons frame frames ih =>
    have same := frame?_withoutSession calculator frame
    rw [scenes, scenes]
    cases handled : calculator.frame? frame with
    | none =>
      rw [handled, Option.map_none, Option.map_eq_none_iff] at same
      rw [same]
    | some shown =>
      rw [handled] at same
      obtain ⟨shown', handled', same⟩ := Option.map_eq_some_iff.mp same
      obtain ⟨scene, after⟩ := Prod.mk.inj same
      rw [handled']
      dsimp only
      rw [scene, ← ih, after, ih]

/-- The keys between the frames do not change what is shown in the frames. -/
theorem frameScenes_run (calculator : Calculator) (events : List Event) :
    frameScenes events (calculator.run events).1 = calculator.scenes (events.filterMap Event.frame?) := by
  induction events generalizing calculator with
  | nil => rfl
  | cons event events ih =>
    cases event with
    | frame frame =>
      change _ = calculator.scenes (frame :: events.filterMap Event.frame?)
      rw [scenes]
      cases handled : calculator.handle? (.frame frame) with
      | none =>
        rw [run_cons_of_none handled, show calculator.frame? frame = none from handled]
        rfl
      | some shown =>
        rw [run_cons_of_some handled, show calculator.frame? frame = some shown from handled]
        exact congrArg _ (ih shown.2)
    | key label =>
      -- A key changes the session alone, and what frames show is the same with a new one in its place.
      have handled : calculator.handle? (.key label) = some (calculator.key label) := rfl
      have same : (calculator.key label).2.withoutSession = calculator.withoutSession := rfl
      rw [run_cons_of_some handled]
      change frameScenes events ((calculator.key label).2.run events).1 =
        calculator.scenes (events.filterMap Event.frame?)
      rw [ih, ← scenes_withoutSession, same, scenes_withoutSession]

/-- After each event that is handled, the session and the texts that are shown are those of a new session in which the
    labels of all keys and all frames so far were pressed, and all events are handled if the program gets through the
    frames. Inserting and deleting keys changes nothing else that the frames show. -/
theorem keys_and_frames_share_session (machine : Machine) (settings : Settings) (events : List Event) :
    let shown := run { machine, settings } events
    (shown.1.length = events.length ↔ machine.Computes settings (events.filterMap Event.frame?)) ∧
      (∀ index overlay, shown.1[index]? = some overlay →
        let pressed := labelsPressed (events.take (index + 1)) (shown.1.take (index + 1))
        (∃ after, (run { machine, settings } (events.take (index + 1))).2 = some after ∧
          after.session = pressed.foldl Session.press {}) ∧
        overlay.Shows (pressed.foldl Session.press {})) ∧
      ∀ other, Event.KeysChanged events other →
        frameScenes other (run { machine, settings } other).1 = frameScenes events shown.1 := by
  refine ⟨run_length_eq_iff.trans isSome_run_iff, ?_, ?_⟩
  · intro index overlay found
    obtain ⟨event, before, after, _, _, handled, ended⟩ := run_shown found
    have session := run_session ended
    rw [run_take] at session
    exact ⟨⟨after, ended, session⟩, session ▸ handle?_shows handled⟩
  · intro other changed
    rw [frameScenes_run, frameScenes_run, changed.frames_eq]

/-- A key before the first frame and one between two sizes of frames leave no trace in the frames. -/
theorem keys_around_resized_frames_share_session :
    let machine : Machine := .nearest .stops
    let small : Event := .frame ⟨640, 480, some ⟨⟨530, 100⟩, ⟨532, 100⟩⟩⟩
    let large : Event := .frame ⟨1280, 720, none⟩
    let events := [.key .one, small, .key .add, large]
    let other := [small, large, .key .equals]
    Event.KeysChanged events other ∧
      (∃ overlay after, (run { machine, settings := {} } events).1[2]? = some overlay ∧
        (run { machine, settings := {} } (events.take 3)).2 = some after ∧
        after.session =
          (labelsPressed (events.take 3) ((run { machine, settings := {} } events).1.take 3)).foldl Session.press {}) ∧
      frameScenes other (run { machine, settings := {} } other).1 =
        frameScenes events (run { machine, settings := {} } events).1 := by
  intro machine small large events other
  have changed : Event.KeysChanged events other := by
    have shorter : Event.KeysChanged events [small, .key .add, large] := .delete [] .same
    have framesOnly : Event.KeysChanged events [small, large] := .delete [small] shorter
    exact .insert [small, large] .equals framesOnly
  obtain ⟨handled, sessions, scenes⟩ := keys_and_frames_share_session machine {} events
  have all : (run { machine, settings := {} } events).1.length = events.length :=
    handled.mpr (.inr ⟨by decide, by decide +kernel⟩)
  have third : 2 < (run { machine, settings := {} } events).1.length := by rw [all]; decide
  obtain ⟨⟨after, ended, session⟩, _⟩ := sessions 2 _ (List.getElem?_eq_getElem third)
  exact ⟨changed, ⟨_, after, List.getElem?_eq_getElem third, ended, session⟩, scenes other changed⟩

end Calculator
end GestureCalculator
