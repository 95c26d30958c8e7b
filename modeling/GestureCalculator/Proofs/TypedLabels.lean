import GestureCalculator.Proofs.SharedSession

/-!
Typing by hand. A label is typed by a visit of its key, with a pinch or by a stay, and between two visits the hand
is away from the keys. Each visit presses its label once: the wait after a press outlasts the visit, and it is
over when the hand comes back.
-/
namespace GestureCalculator.Gesture
open Keypad

/-- A visit of the key with a label: one frame with a pinch, or a stay without one that is long enough for a press
    and too short for a second. -/
inductive Visit (settings : Settings) (label : Label) : List Frame → Prop
  | pinch {frame : Frame} : frame.label = some label → frame.pinch → Visit settings label [frame]
  | stay {frames : List Frame} : (∀ frame ∈ frames, frame.label = some label ∧ frame.pinch = false) →
      settings.dwellFrames.toNat + 1 ≤ frames.length →
      frames.length ≤ settings.dwellFrames.toNat + settings.cooldownFrames.toNat + 1 → Visit settings label frames

/-- The frames between two visits: the finger is over no key, and a hand is seen at least once. -/
structure Gap (settings : Settings) (frames : List Frame) : Prop where
  long : settings.cooldownFrames.toNat ≤ frames.length
  away : ∀ frame ∈ frames, frame.hovered = none
  seen : ∃ frame ∈ frames, frame.fingertip.isSome

/-- Frames in which labels are typed, a visit and a gap for each. -/
inductive Typing (settings : Settings) : List Label → List Frame → Prop
  | done : Typing settings [] []
  | next {label : Label} {labels : List Label} {visit gap frames : List Frame} : Visit settings label visit →
      Gap settings gap → Typing settings labels frames → Typing settings (label :: labels) (visit ++ gap ++ frames)

/-- The labels of the keys that are pressed in frames, in order. -/
def labelsPressed (settings : Settings) (state : State) (frames : List Frame) : List Label :=
  (state.run settings frames).1.filterMap fun outcome => outcome.pressed.map Key.label

/-- What is remembered after one frame. -/
def State.after (settings : Settings) (state : State) (frame : Frame) : State :=
  (state.advance settings frame.layout frame.fingertip frame.pinch).2

/-- The count of frames that there would be if the finger were seen over a label next. -/
def State.stayed (state : State) (label : Label) : Nat := (state.hover (some label)).dwell

/-- There is nothing to wait for, and no key has a count. -/
structure State.Rested (state : State) : Prop where
  waited : state.cooldown = 0
  fresh : ∀ label, state.stayed label = 0

variable {settings : Settings} {state : State} {label : Label}

/-! ### One frame -/

theorem labelsPressed_cons (frame : Frame) (frames : List Frame) :
    labelsPressed settings state (frame :: frames) =
      ((pressedNow settings state frame).map Key.label).toList ++
        labelsPressed settings (state.after settings frame) frames := by
  simp only [labelsPressed, State.run, State.after, advance_eq, List.filterMap_cons]
  cases pressedNow settings state frame <;> rfl

theorem after_cooldown (frame : Frame) :
    (state.after settings frame).cooldown =
      if (pressedNow settings state frame).isSome then settings.cooldownFrames.toNat else state.cooldown - 1 := by
  rw [State.after, advance_eq]

theorem after_stayed (frame : Frame) :
    (state.after settings frame).stayed label =
      if frame.fingertip.isSome then
        if frame.label = some label then min (state.stayed label + 1) greatestCount else 0
      else state.stayed label := by
  rw [State.after, advance_eq]
  exact look_hover_dwell state frame label

theorem pressedNow_eq_none {frame : Frame} (idle : frame.hovered = none ∨ 0 < state.cooldown) :
    pressedNow settings state frame = none := by
  rw [pressedNow]
  rcases idle with away | waits
  · rw [away, Option.filter_none, ite_self]
  · rw [if_pos waits]

/-- Without a wait, the key under the finger is pressed exactly if there is a pinch or its count is enough. -/
theorem pressedNow_of_label {frame : Frame} (waited : state.cooldown = 0) (labelled : frame.label = some label) :
    (pressedNow settings state frame).map Key.label =
      if frame.pinch ∨ settings.dwellFrames.toNat ≤ state.stayed label then some label else none := by
  obtain ⟨key, hovers, rfl⟩ := Option.map_eq_some_iff.mp labelled
  split
  next enough => rw [pressedNow_eq_some_iff.mpr ⟨hovers, waited, enough⟩, Option.map_some]
  next tooShort =>
    rw [Option.map_eq_none_iff, Option.eq_none_iff_forall_ne_some]
    intro other pressed
    obtain ⟨hovers', _, enough⟩ := pressedNow_eq_some_iff.mp pressed
    obtain rfl : key = other := Option.some.inj (hovers.symm.trans hovers')
    exact tooShort enough

/-! ### Frames without a press -/

theorem labelsPressed_append (frames more : List Frame) :
    labelsPressed settings state (frames ++ more) =
      labelsPressed settings state frames ++ labelsPressed settings (state.run settings frames).2 more := by
  rw [labelsPressed, run_append, List.filterMap_append]
  rfl

/-- While the finger is over no key or a wait lasts, nothing is pressed and the wait goes on. -/
theorem run_idle {frames : List Frame}
    (idle : ∀ index frame, frames[index]? = some frame → frame.hovered = none ∨ index < state.cooldown) :
    labelsPressed settings state frames = [] ∧
      (state.run settings frames).2.cooldown = state.cooldown - frames.length := by
  induction frames generalizing state with
  | nil => exact ⟨rfl, rfl⟩
  | cons frame frames ih =>
    have unpressed : pressedNow settings state frame = none := pressedNow_eq_none (idle 0 frame rfl)
    have cooldown : (state.after settings frame).cooldown = state.cooldown - 1 := by
      rw [after_cooldown, unpressed]
      rfl
    have idle' : ∀ index other, frames[index]? = some other →
        other.hovered = none ∨ index < (state.after settings frame).cooldown := by
      intro index other found
      rw [cooldown]
      rcases idle (index + 1) other found with away | waits
      · exact .inl away
      · exact .inr (by omega)
    obtain ⟨none, rest⟩ := ih idle'
    constructor
    · rw [labelsPressed_cons, unpressed, none]
      rfl
    · calc (state.run settings (frame :: frames)).2.cooldown
        _ = (state.after settings frame).cooldown - frames.length := rest
        _ = state.cooldown - (frame :: frames).length := by rw [cooldown, List.length_cons]; omega

/-- A hand that is seen away from the keys takes every count away, and none comes back before it returns. -/
theorem stayed_of_away {frames : List Frame} (away : ∀ frame ∈ frames, frame.hovered = none)
    (seen : (∃ frame ∈ frames, frame.fingertip.isSome) ∨ state.stayed label = 0) :
    (state.run settings frames).2.stayed label = 0 := by
  induction frames generalizing state with
  | nil => simpa [State.run] using seen
  | cons frame frames ih =>
    have unlabelled : frame.label = none := by rw [Frame.label, away frame List.mem_cons_self, Option.map_none]
    have counted := @after_stayed settings state label frame
    rw [unlabelled, if_neg (Option.some_ne_none label).symm] at counted
    change ((state.after settings frame).run settings frames).2.stayed label = 0
    refine ih (fun other inside => away other (List.mem_cons_of_mem _ inside)) ?_
    by_cases hand : frame.fingertip.isSome
    · exact .inr (by rw [counted, if_pos hand])
    · rw [counted, if_neg hand]
      rcases seen with ⟨other, inside, visible⟩ | none
      · rcases List.mem_cons.mp inside with rfl | inside
        · exact absurd visible hand
        · exact .inl ⟨other, inside, visible⟩
      · exact .inr none

/-- A stay that is not yet long enough presses nothing, and all of its frames are counted. -/
theorem run_short_stay {frames : List Frame} (waited : state.cooldown = 0)
    (stays : ∀ frame ∈ frames, frame.label = some label ∧ frame.pinch = false)
    (short : state.stayed label + frames.length ≤ settings.dwellFrames.toNat) :
    labelsPressed settings state frames = [] ∧ (state.run settings frames).2.cooldown = 0 ∧
      (state.run settings frames).2.stayed label = state.stayed label + frames.length := by
  induction frames generalizing state with
  | nil => exact ⟨rfl, waited, rfl⟩
  | cons frame frames ih =>
    rw [List.length_cons] at short
    obtain ⟨labelled, unpinched⟩ := stays frame List.mem_cons_self
    have unpressed : pressedNow settings state frame = none := by
      rw [← Option.map_eq_none_iff, pressedNow_of_label waited labelled, if_neg]
      rintro (pinched | enough)
      · rw [unpinched] at pinched
        cases pinched
      · omega
    have cooldown : (state.after settings frame).cooldown = 0 := by
      rw [after_cooldown, unpressed, waited]
      rfl
    have counted : (state.after settings frame).stayed label = state.stayed label + 1 := by
      obtain ⟨key, hovers, _⟩ := Option.map_eq_some_iff.mp labelled
      -- The greatest count is not reached, because the stay is shorter than a number of 32 bits.
      have bounded := settings.dwellFrames.toNat_lt
      rw [after_stayed, if_pos (Frame.fingertip_isSome_of_hovered hovers), if_pos labelled, greatestCount]
      omega
    obtain ⟨none, waited', counted'⟩ := ih cooldown
      (fun other inside => stays other (List.mem_cons_of_mem _ inside)) (by omega)
    refine ⟨?_, waited', ?_⟩
    · rw [labelsPressed_cons, unpressed, none]
      rfl
    · calc (state.run settings (frame :: frames)).2.stayed label
        _ = (state.after settings frame).stayed label + frames.length := counted'
        _ = state.stayed label + (frame :: frames).length := by rw [counted, List.length_cons]; omega

/-! ### Visits and gaps -/

/-- A press, and the frames after it that its wait covers. -/
theorem run_press {frame : Frame} {waiting : List Frame} (waited : state.cooldown = 0)
    (labelled : frame.label = some label) (enough : frame.pinch ∨ settings.dwellFrames.toNat ≤ state.stayed label)
    (covered : waiting.length ≤ settings.cooldownFrames.toNat) :
    labelsPressed settings state (frame :: waiting) = [label] ∧
      (state.run settings (frame :: waiting)).2.cooldown ≤ settings.cooldownFrames.toNat := by
  have pressed : (pressedNow settings state frame).map Key.label = some label := by
    rw [pressedNow_of_label waited labelled, if_pos enough]
  have cooldown : (state.after settings frame).cooldown = settings.cooldownFrames.toNat := by
    rw [after_cooldown, if_pos]
    rw [← Option.isSome_map, pressed, Option.isSome_some]
  have idle : ∀ index other, waiting[index]? = some other →
      other.hovered = none ∨ index < (state.after settings frame).cooldown := by
    intro index other found
    have inside := (List.getElem?_eq_some_iff.mp found).1
    exact .inr (by omega)
  obtain ⟨none, rest⟩ := @run_idle settings _ _ idle
  constructor
  · rw [labelsPressed_cons, pressed, none]
    rfl
  · calc (state.run settings (frame :: waiting)).2.cooldown
      _ = (state.after settings frame).cooldown - waiting.length := rest
      _ ≤ settings.cooldownFrames.toNat := by omega

theorem Visit.presses {visit : List Frame} (visits : Visit settings label visit) (rested : state.Rested) :
    labelsPressed settings state visit = [label] ∧
      (state.run settings visit).2.cooldown ≤ settings.cooldownFrames.toNat := by
  cases visits with
  | pinch labelled pinched => exact run_press rested.waited labelled (.inl pinched) (Nat.zero_le _)
  | stay stays long short =>
    -- The count is enough in the frame behind as many as the settings ask for; the wait covers the others.
    obtain ⟨before, frame, waiting, rfl, length⟩ : ∃ before frame waiting,
        visit = before ++ frame :: waiting ∧ before.length = settings.dwellFrames.toNat := by
      refine ⟨visit.take settings.dwellFrames.toNat, visit[settings.dwellFrames.toNat],
        visit.drop (settings.dwellFrames.toNat + 1), by simp, ?_⟩
      rw [List.length_take]
      omega
    rw [List.length_append, List.length_cons] at short
    have fresh := rested.fresh label
    obtain ⟨none, waited, counted⟩ := @run_short_stay settings state label before rested.waited
      (fun other inside => stays other (List.mem_append_left _ inside)) (by omega)
    obtain ⟨pressed, cooldown⟩ := @run_press settings _ label frame waiting waited
      (stays frame (by simp)).1 (.inr (by omega)) (by omega)
    constructor
    · rw [labelsPressed_append, none, pressed, List.nil_append]
    · rw [run_append]
      exact cooldown

theorem Gap.rests {gap : List Frame} (between : Gap settings gap)
    (waits : state.cooldown ≤ settings.cooldownFrames.toNat) :
    labelsPressed settings state gap = [] ∧ (state.run settings gap).2.Rested := by
  obtain ⟨none, cooldown⟩ := @run_idle settings state gap fun index frame found =>
    .inl (between.away frame (List.mem_of_getElem? found))
  refine ⟨none, ?_, fun label => stayed_of_away between.away (.inl between.seen)⟩
  have long := between.long
  omega

/-- The labels that are typed are pressed, each once and in order. -/
theorem Typing.presses {labels : List Label} {frames : List Frame} (typing : Typing settings labels frames)
    (rested : state.Rested) : labelsPressed settings state frames = labels := by
  induction typing generalizing state with
  | done => rfl
  | next visit gap _ ih =>
    obtain ⟨pressed, waits⟩ := visit.presses rested
    obtain ⟨none, rested'⟩ := gap.rests waits
    rw [labelsPressed_append, labelsPressed_append, pressed, none, run_append, ih rested']
    rfl

end GestureCalculator.Gesture

namespace GestureCalculator.Calculator
open Keypad

theorem labelsPressed_frames (frames : List Frame) (overlays : List Overlay)
    (same : overlays.length = frames.length) :
    labelsPressed (frames.map .frame) overlays = overlays.filterMap Overlay.pressed := by
  induction frames generalizing overlays with
  | nil =>
    obtain rfl := List.eq_nil_of_length_eq_zero same
    rfl
  | cons frame frames ih =>
    obtain ⟨overlay, overlays, rfl⟩ := List.exists_cons_of_length_eq_add_one same
    have behind := ih overlays (by simpa using same)
    rw [labelsPressed] at behind
    rw [labelsPressed, List.map_cons, List.zipWith_cons_cons, Event.pressed?, List.filterMap_cons, ← behind]
    cases overlay.pressed <;> rfl

/-- In frames in which labels are typed, with whatever settings and whatever sizes, a new calculator shows exactly
    these labels as pressed, and its session is a new one in which they were pressed one after the other. If the program
    does not get through the frames, it has shown some of the labels, from the first on, when it stops. -/
theorem typed_labels_reach_session {machine : Machine} {settings : Settings} {labels : List Label} {frames : List Frame}
    {offered : List Gesture.Frame} (offers : Offers machine settings frames offered)
    (typing : Gesture.Typing settings.gesture labels offered) :
    let shown := run { machine, settings } (frames.map .frame)
    (shown.2.isSome ↔ machine.Computes settings frames) ∧
      (∀ last, shown.2 = some last →
        shown.1.filterMap Overlay.pressed = labels ∧ last.session = labels.foldl Session.press {}) ∧
      shown.1.filterMap Overlay.pressed <+: labels := by
  intro shown
  have rested : Gesture.State.Rested {} := ⟨rfl, fun label => rfl⟩
  have all : (frames.map Event.frame).filterMap Event.frame? = frames := by
    rw [List.filterMap_map]
    exact List.filterMap_some
  have pressed : shown.1.filterMap Overlay.pressed =
      (((Gesture.State.run settings.gesture {} offered).1.take shown.1.length).filterMap
        fun outcome => outcome.pressed.map Key.label) :=
    calc shown.1.filterMap Overlay.pressed
      _ = (shown.1.map Overlay.pressed).filterMap id := by rw [List.filterMap_map]; rfl
      _ = _ := by rw [run_frames (serves_new machine settings) offers, List.filterMap_map]; rfl
  have typed : (Gesture.State.run settings.gesture {} offered).1.filterMap (fun outcome => outcome.pressed.map Key.label) =
    labels := typing.presses rested
  refine ⟨by rw [isSome_run_iff, all], fun last ended => ?_, ?_⟩
  · have length : shown.1.length = frames.length :=
      (run_length_eq_iff.mpr (Option.isSome_iff_exists.mpr ⟨last, ended⟩)).trans (List.length_map _)
    have whole : shown.1.filterMap Overlay.pressed = labels := by
      have outcomes := @Gesture.run_length settings.gesture {} offered
      rw [pressed, length, List.Forall₂.length_eq offers, List.take_of_length_le outcomes.le, typed]
    refine ⟨whole, ?_⟩
    rw [run_session ended, labelsPressed_frames _ _ length, whole]
  · rw [pressed, ← typed]
    exact (List.take_prefix _ _).filterMap _

/-- The same key twice, first with a pinch and then by a stay in the middle of which the frames grow. -/
theorem typed_labels_reach_session_repeated :
    let machine : Machine := .nearest .stops
    let settings : Settings := { gesture := { dwellFrames := 2, cooldownFrames := 1 } }
    let pinching : Frame := ⟨640, 480, some ⟨⟨420, 280⟩, ⟨422, 281⟩⟩⟩
    let staying : Frame := ⟨640, 480, some ⟨⟨420, 280⟩, ⟨420, 400⟩⟩⟩
    let grown : Frame := ⟨1280, 720, some ⟨⟨850, 400⟩, ⟨850, 600⟩⟩⟩
    let away : Frame := ⟨640, 480, some ⟨⟨5, 5⟩, ⟨5, 6⟩⟩⟩
    let unseen : Frame := ⟨640, 480, none⟩
    let frames := [pinching, away, staying, staying, grown, grown, unseen, away]
    let offered := frames.map fun frame => (frame.offered? machine settings).getD ⟨⟨0, 0, []⟩, none, false⟩
    Offers machine settings frames offered ∧ Gesture.Typing settings.gesture [.seven, .seven] offered ∧
      ∃ last, (run { machine, settings } (frames.map .frame)).2 = some last ∧
        (run { machine, settings } (frames.map .frame)).1.filterMap Overlay.pressed = [.seven, .seven] ∧
        last.session = [Label.seven, .seven].foldl Session.press {} := by
  intro machine settings pinching staying grown away unseen frames offered
  have offers : Offers machine settings frames offered := offers_getD machine settings frames _
  have typing : Gesture.Typing settings.gesture [.seven, .seven] offered := by
    let seen (frame : Frame) : Gesture.Frame := (frame.offered? machine settings).getD ⟨⟨0, 0, []⟩, none, false⟩
    have pinch : Gesture.Visit settings.gesture .seven ([pinching].map seen) :=
      .pinch (by decide +kernel) (by decide +kernel)
    have gap : Gesture.Gap settings.gesture ([away].map seen) :=
      ⟨by decide, by decide +kernel, by decide +kernel⟩
    have stay : Gesture.Visit settings.gesture .seven ([staying, staying, grown, grown].map seen) :=
      .stay (by decide +kernel) (by decide) (by decide)
    have gap' : Gesture.Gap settings.gesture ([unseen, away].map seen) :=
      ⟨by decide, by decide +kernel, by decide +kernel⟩
    exact .next pinch gap (.next stay gap' .done)
  obtain ⟨ends, whole, _⟩ := typed_labels_reach_session offers typing
  obtain ⟨last, ended⟩ := Option.isSome_iff_exists.mp (ends.mpr (.inr ⟨by decide, by decide +kernel⟩))
  exact ⟨offers, typing, last, ended, whole last ended⟩

end GestureCalculator.Calculator
