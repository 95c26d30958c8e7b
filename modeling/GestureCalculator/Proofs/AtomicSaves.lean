import GestureCalculator.Proofs.SavedSettings

/-!
Saves that are done as a whole or not at all. Until the file is renamed, no operation touches what is at the path that settings are
saved to: the folders lie on the way to it, and the text is written to a path beside it.
-/
namespace GestureCalculator

/-- Operations one after the other, up to the first that fails: the store after them, and whether all were done. -/
def Disk.runAll (disk : Disk) : List Operation → FileStore → FileStore × Bool
  | [], store => (store, true)
  | operation :: rest, store =>
    match disk operation store with
    | (after, true) => disk.runAll rest after
    | (after, false) => (after, false)

namespace Disk
variable {disk : Disk} {operation : Operation} {rest : List Operation} {store : FileStore}

theorem runAll_cons_of_done (done : (disk operation store).2 = true) :
    disk.runAll (operation :: rest) store = disk.runAll rest (disk operation store).1 := by
  rw [runAll, show disk operation store = ((disk operation store).1, true) from Prod.ext rfl done]

theorem runAll_cons_of_failed (failed : (disk operation store).2 = false) :
    disk.runAll (operation :: rest) store = ((disk operation store).1, false) := by
  rw [runAll, show disk operation store = ((disk operation store).1, false) from Prod.ext rfl failed]

/-- What each operation preserves, done or not, a run of them preserves. -/
theorem runAll_preserves (invariant : FileStore → Prop) {operations : List Operation}
    (step : ∀ operation ∈ operations, ∀ store, invariant store → invariant (disk operation store).1) (holds : invariant store) :
    invariant (disk.runAll operations store).1 := by
  induction operations generalizing store with
  | nil => exact holds
  | cons operation rest ih =>
    rw [List.forall_mem_cons] at step
    have after := step.1 store holds
    cases done : (disk operation store).2 with
    | false =>
      rw [runAll_cons_of_failed done]
      exact after
    | true =>
      rw [runAll_cons_of_done done]
      exact ih step.2 after

/-- In a run that is done, the first operation is done and so is the rest. -/
theorem done_of_runAll_cons (done : (disk.runAll (operation :: rest) store).2 = true) :
    (disk operation store).2 = true ∧ (disk.runAll rest (disk operation store).1).2 = true := by
  cases first : (disk operation store).2 with
  | false =>
    rw [runAll_cons_of_failed first] at done
    cases done
  | true => exact ⟨rfl, runAll_cons_of_done first ▸ done⟩

/-- A run fails at its last operation if not before. -/
theorem runAll_concat {last : Operation} : (disk.runAll (rest ++ [last]) store).2 = false →
    (disk.runAll (rest ++ [last]) store).1 = (disk.runAll rest store).1 ∨
      (disk last (disk.runAll rest store).1).2 = false ∧
        (disk.runAll (rest ++ [last]) store).1 = (disk last (disk.runAll rest store).1).1 := by
  induction rest generalizing store with
  | nil =>
    intro failed
    cases ended : (disk last store).2 with
    | false =>
      rw [List.nil_append, runAll_cons_of_failed ended]
      exact .inr ⟨ended, rfl⟩
    | true =>
      rw [List.nil_append, runAll_cons_of_done ended] at failed
      cases failed
  | cons operation rest ih =>
    intro failed
    cases done : (disk operation store).2 with
    | false =>
      rw [List.cons_append, runAll_cons_of_failed done, runAll_cons_of_failed done]
      exact .inl rfl
    | true =>
      rw [List.cons_append, runAll_cons_of_done done] at failed
      rw [List.cons_append, runAll_cons_of_done done, runAll_cons_of_done done]
      exact ih failed

end Disk

theorem FileStore.read?_of_file {store : FileStore} {path : Path} {content : String} (found : store path = some (.file content)) :
    store.read? path = some content := by
  simp only [FileStore.read?, found]

/-! ### Operations -/

namespace Operation

theorem foldl_set_of_not_mem {paths : List Path} {other : Path} (apart : other ∉ paths) (node : Option Node) (store : FileStore) :
    paths.foldl (fun store path => store.set path node) store other = store other := by
  induction paths generalizing store with
  | nil => rfl
  | cons path paths ih =>
    rw [List.mem_cons, not_or] at apart
    rw [List.foldl_cons, ih apart.2, FileStore.set, if_neg apart.1]

/-- A path is not on the way to the folder that it is in. -/
theorem not_mem_waysTo_dropLast (path : Path) : path ∉ waysTo path.dropLast := by
  intro inside
  obtain ⟨n, within, same⟩ := List.mem_map.mp inside
  have length := congrArg List.length same
  rw [List.length_take, List.length_dropLast] at length
  rw [List.mem_range, List.length_dropLast] at within
  omega

theorem run?_write_eq_some {path : Path} {content : String} {store after : FileStore}
    (done : (write path content).run? store = some after) : path ≠ [] ∧ after = store.set path (some (.file content)) := by
  simp only [run?] at done
  split at done
  next free =>
    cases done
    refine ⟨?_, rfl⟩
    rintro rfl
    simp [hasFolder] at free
  next => cases done

theorem run?_rename_eq_some {source target : Path} {store after : FileStore}
    (done : (rename source target).run? store = some after) :
    ∃ content, store source = some (.file content) ∧ after = (store.set source none).set target (some (.file content)) := by
  simp only [run?] at done
  split at done
  next content found =>
    split at done
    · cases done
      exact ⟨content, found, rfl⟩
    · cases done
  next => cases done

end Operation

namespace Disk

/-! ### Links -/

theorem not_linked_self (disk : Disk) (path : Path) : ¬ disk.Linked path path := fun linked => linked.1 rfl

theorem Linked.symm {disk : Disk} {path other : Path} (linked : disk.Linked path other) : disk.Linked other path :=
  ⟨linked.1.symm, linked.2.symm⟩

/-! ### What may be relied on -/

namespace Sound
variable {disk : Disk} (sound : disk.Sound)
include sound

/-- Making folders touches nothing that is not on the way to them. -/
theorem makeFolder_keeps {path other : Path} (apart : other ∉ Operation.waysTo path) (store : FileStore) :
    (disk (.makeFolder path) store).1 other = store other := by
  cases done : (disk (.makeFolder path) store).2 with
  | false => exact (sound.folders path store other done).resolve_right fun made => apart made.1
  | true =>
    obtain ⟨after, effect, shown⟩ := sound.done _ store done
    simp only [Operation.run?] at effect
    split at effect
    · rw [shown other (by simp [Operation.files]), ← Option.some.inj effect, Operation.foldl_set_of_not_mem apart]
    · cases effect

/-- Writing a file touches nothing that is not linked to it, and nothing at all if there is no place for the file. -/
theorem write_keeps {path other : Path} (apart : path ≠ [] → other ≠ path) (unlinked : ¬ disk.Linked path other)
    (content : String) (store : FileStore) : (disk (.write path content) store).1 other = store other := by
  cases effect : (Operation.write path content).run? store with
  | none => rw [sound.blocked path content store effect]
  | some after =>
    obtain ⟨named, written⟩ := Operation.run?_write_eq_some effect
    cases done : (disk (.write path content) store).2 with
    | false => exact sound.elsewhere path content store other done (apart named) unlinked
    | true =>
      obtain ⟨_, same, shown⟩ := sound.done _ store done
      obtain rfl := Option.some.inj (same.symm.trans effect)
      rw [shown other (by simpa [Operation.files] using unlinked), written, FileStore.set, if_neg (apart named)]

/-- A file that is written has a name, and its content is at its path. -/
theorem write_done {path : Path} {content : String} {store : FileStore}
    (done : (disk (.write path content) store).2 = true) :
    path ≠ [] ∧ (disk (.write path content) store).1 path = some (.file content) := by
  obtain ⟨after, effect, shown⟩ := sound.done _ store done
  obtain ⟨named, rfl⟩ := Operation.run?_write_eq_some effect
  refine ⟨named, ?_⟩
  rw [shown path (by simp [Operation.files, not_linked_self]), FileStore.set, if_pos rfl]

/-- A file that is renamed is no longer at its old path, and its content is at the new one, unless the two are links. -/
theorem rename_done {source target : Path} {store : FileStore} (apart : source ≠ target)
    (unlinked : ¬ disk.Linked source target) (done : (disk (.rename source target) store).2 = true) :
    ∃ content, store source = some (.file content) ∧ (disk (.rename source target) store).1 source = none ∧
      (disk (.rename source target) store).1 target = some (.file content) := by
  obtain ⟨after, effect, shown⟩ := sound.done _ store done
  obtain ⟨content, found, rfl⟩ := Operation.run?_rename_eq_some effect
  have sides : (∀ file ∈ (Operation.rename source target).files, ¬ disk.Linked file source) ∧
      ∀ file ∈ (Operation.rename source target).files, ¬ disk.Linked file target := by
    simp only [Operation.files, List.mem_cons, List.not_mem_nil, or_false, forall_eq_or_imp, forall_eq]
    exact ⟨⟨not_linked_self disk source, fun linked => unlinked linked.symm⟩, unlinked, not_linked_self disk target⟩
  refine ⟨content, found, ?_, ?_⟩
  · rw [shown source sides.1, FileStore.set, if_neg apart, FileStore.set, if_pos rfl]
  · rw [shown target sides.2, FileStore.set, if_pos rfl]

end Sound

/-! ### Disks -/

variable {place : Path → Path}

theorem reliable_of_none {operation : Operation} {store : FileStore} (blocked : operation.run? store = none) :
    reliable place operation store = (store, false) := by
  cases operation <;> simp only [reliable, blocked]

/-- On a reliable disk, the effect of an operation is shown wherever nothing is linked to one of its files. -/
theorem reliable_of_some {operation : Operation} {store after : FileStore} (effect : operation.run? store = some after) :
    (reliable place operation store).2 = true ∧
      ∀ other, (∀ file ∈ operation.files, ¬ (reliable place).Linked file other) →
        (reliable place operation store).1 other = after other := by
  cases operation with
  | makeFolder path => simp [reliable, effect]
  | rename source target => simp [reliable, effect]
  | write path content =>
    simp only [reliable, effect, true_and]
    intro other unlinked
    split
    next same =>
      by_contra apart
      refine unlinked path List.mem_cons_self ⟨?_, same.symm⟩
      rintro rfl
      exact apart rfl
    next => rfl

/-- An operation that fails on a reliable disk does nothing. -/
theorem reliable_of_failed {operation : Operation} {store : FileStore} (failed : (reliable place operation store).2 = false) :
    (reliable place operation store).1 = store := by
  cases effect : operation.run? store with
  | none => rw [reliable_of_none effect]
  | some after =>
    rw [(reliable_of_some effect).1] at failed
    cases failed

theorem reliable_sound (place : Path → Path) : (reliable place).Sound where
  done := by
    intro operation store done
    cases effect : operation.run? store with
    | none =>
      rw [reliable_of_none effect] at done
      cases done
    | some after => exact ⟨after, rfl, (reliable_of_some effect).2⟩
  folders := fun path store other failed => .inl (by rw [reliable_of_failed failed])
  elsewhere := fun path content store other failed _ _ => by rw [reliable_of_failed failed]
  blocked := fun path content store blocked => by rw [reliable_of_none blocked]
  whole := fun source target store failed => reliable_of_failed failed

/-- A disk that is full: a file that is written is there without its content. -/
def full (place : Path → Path) : Disk where
  act
    | .write path _, store => ((reliable place (.write path "") store).1, false)
    | operation, store => reliable place operation store
  place := place

theorem full_sound (place : Path → Path) : (full place).Sound where
  done := by
    intro operation store done
    cases operation with
    | write path content => cases done
    | makeFolder path => exact (reliable_sound place).done _ store done
    | rename source target => exact (reliable_sound place).done _ store done
  folders := (reliable_sound place).folders
  elsewhere := fun path content store other _ apart unlinked => (reliable_sound place).write_keeps (fun _ => apart) unlinked "" store
  blocked := by
    intro path content store blocked
    have none : (Operation.write path "").run? store = none := by simpa [Operation.run?] using blocked
    exact congrArg Prod.fst (reliable_of_none none)
  whole := (reliable_sound place).whole

end Disk

namespace Settings

/-! ### The path beside a path -/

theorem stem_eq_or (name : List Char) :
    stem name = name ∨ (stem name).length = name.length - ((name.reverse.takeWhile (· != '.')).length + 1) := by
  simp only [stem]
  split
  · exact .inl rfl
  · refine .inr ?_
    rw [List.length_take]
    omega

theorem temporaryName_ne (name : String) : temporaryName name ≠ name := by
  intro same
  have chars : stem name.toList ++ ['.', 't', 'o', 'm', 'l', '.', 't', 'm', 'p'] = name.toList := by
    have := congrArg String.toList same
    simpa [temporaryName] using this
  have length := congrArg List.length chars
  rw [List.length_append, List.length_cons] at length
  rcases stem_eq_or name.toList with whole | short
  · rw [whole] at length
    omega
  · -- The extension of such a name would have three characters, but nine are put behind the stem.
    have extension : (name.toList.reverse.takeWhile (· != '.')).length = 3 := by
      rw [← chars, List.reverse_append]
      rfl
    rw [short, extension] at length
    simp at length
    omega

theorem temporaryPath_ne {path : Path} (named : path ≠ []) : temporaryPath path ≠ path := by
  obtain ⟨folder, name, rfl⟩ : ∃ folder name, path = folder ++ [name] :=
    ⟨path.dropLast, path.getLast named, (List.dropLast_append_getLast named).symm⟩
  intro same
  simp [temporaryPath] at same
  exact temporaryName_ne name same

/-! ### Saves -/

/-- What is done to save settings. -/
def savingOperations (settings : Settings) (path : Path) : List Operation :=
  [.makeFolder path.dropLast, .write (temporaryPath path) settings.text, .rename (temporaryPath path) path]

/-- Settings that make no sense are not saved, and nothing is done. -/
theorem save_of_fault (disk : Disk) {settings : Settings} {fault : SettingsFault} (faulty : settings.fault? = some fault)
    (path : Path) (store : FileStore) : save disk settings path store = (.error (.invalid fault), store) := by
  simp only [save, faulty]

/-- An outcome tells whether a run was done, and has its store. -/
def Reflects (outcome : Except SaveFault Unit × FileStore) (run : FileStore × Bool) : Prop :=
  outcome.2 = run.1 ∧ (outcome.1 = .ok () ↔ run.2 = true)

theorem attempt_reflects {disk : Disk} {operation : Operation} {rest : List Operation} (fault : SaveFault)
    {next : FileStore → Except SaveFault Unit × FileStore} (behind : ∀ store, Reflects (next store) (disk.runAll rest store))
    (store : FileStore) : Reflects (attempt disk operation fault store next) (disk.runAll (operation :: rest) store) := by
  cases done : (disk operation store).2 with
  | false =>
    rw [attempt, Disk.runAll_cons_of_failed done, show disk operation store = ((disk operation store).1, false) from Prod.ext rfl done]
    simp [Reflects]
  | true =>
    rw [attempt, Disk.runAll_cons_of_done done, show disk operation store = ((disk operation store).1, true) from Prod.ext rfl done]
    exact behind _

/-- A save does the operations one after the other, and succeeds if all of them are done. -/
theorem save_reflects (disk : Disk) {settings : Settings} (plain : settings.fault? = none) (path : Path) (store : FileStore) :
    Reflects (save disk settings path store) (disk.runAll (savingOperations settings path) store) := by
  simp only [save, plain]
  refine attempt_reflects _ (fun store => ?_) store
  refine attempt_reflects _ (fun store => ?_) store
  refine attempt_reflects _ (fun store => ?_) store
  simp [Reflects, Disk.runAll]

section
variable {disk : Disk} (sound : disk.Sound) {settings : Settings} {path : Path} {store : FileStore}
include sound

/-- If an operation fails, what is at the path is what was there before. -/
theorem runAll_of_failed (unlinked : ¬ disk.Linked (temporaryPath path) path)
    (failed : (disk.runAll (savingOperations settings path) store).2 = false) :
    (disk.runAll (savingOperations settings path) store).1 path = store path := by
  have beside : temporaryPath path ≠ [] → path ≠ temporaryPath path := by
    intro named same
    rcases eq_or_ne path [] with rfl | other
    · exact named rfl
    · exact temporaryPath_ne other same.symm
  have split : savingOperations settings path =
    [.makeFolder path.dropLast, .write (temporaryPath path) settings.text] ++ [.rename (temporaryPath path) path] := rfl
  have before : (disk.runAll [.makeFolder path.dropLast, .write (temporaryPath path) settings.text] store).1 path = store path := by
    refine Disk.runAll_preserves (fun now => now path = store path) (fun operation listed now same => ?_) rfl
    simp only [List.mem_cons, List.not_mem_nil, or_false] at listed
    rcases listed with rfl | rfl
    · rw [sound.makeFolder_keeps (Operation.not_mem_waysTo_dropLast path), same]
    · rw [sound.write_keeps beside unlinked, same]
  rw [split] at failed ⊢
  rcases Disk.runAll_concat failed with same | ⟨kept, same⟩
  · rw [same, before]
  · rw [same, sound.whole _ _ _ kept, before]

/-- If all operations are done, the text is at the path and no longer at the one beside it. -/
theorem runAll_of_done (unlinked : ¬ disk.Linked (temporaryPath path) path)
    (done : (disk.runAll (savingOperations settings path) store).2 = true) :
    (disk.runAll (savingOperations settings path) store).1 (temporaryPath path) = none ∧
      (disk.runAll (savingOperations settings path) store).1 path = some (.file settings.text) := by
  obtain ⟨made, rest⟩ := Disk.done_of_runAll_cons done
  obtain ⟨written, rest'⟩ := Disk.done_of_runAll_cons rest
  obtain ⟨renamed, _⟩ := Disk.done_of_runAll_cons rest'
  obtain ⟨named, text⟩ := sound.write_done written
  have apart : temporaryPath path ≠ path := by
    refine temporaryPath_ne ?_
    rintro rfl
    exact named rfl
  obtain ⟨content, found, gone, moved⟩ := sound.rename_done apart unlinked renamed
  obtain rfl : content = settings.text := by simpa using found.symm.trans text
  rw [savingOperations, Disk.runAll_cons_of_done made, Disk.runAll_cons_of_done written, Disk.runAll_cons_of_done renamed]
  exact ⟨gone, moved⟩

/-- Saving is all or nothing, and loading undoes it. Settings that make no sense are refused, and nothing is done. Otherwise,
    as long as the path and the one beside it are not links to one file: if all operations are done, the file that was
    written first is gone, and exactly these settings are loaded from the file. If one fails, what is at the path is what was
    there before. -/
theorem save_all_or_nothing (settings : Settings) (path : Path) (store : FileStore) :
    (∀ fault, settings.fault? = some fault → save disk settings path store = (.error (.invalid fault), store)) ∧
      (settings.fault? = none → ¬ disk.Linked (temporaryPath path) path →
        (disk.runAll (savingOperations settings path) store).2 = true →
        ∃ after, save disk settings path store = (.ok (), after) ∧ after (temporaryPath path) = none ∧
          load (after.read? path) = .ok settings) ∧
      (settings.fault? = none → ¬ disk.Linked (temporaryPath path) path →
        (disk.runAll (savingOperations settings path) store).2 = false →
        ∃ fault after, save disk settings path store = (.error fault, after) ∧ after path = store path) := by
  refine ⟨fun fault faulty => save_of_fault disk faulty path store, fun plain unlinked done => ?_, fun plain unlinked failed => ?_⟩
  · obtain ⟨same, ok⟩ := save_reflects disk plain path store
    obtain ⟨gone, text⟩ := runAll_of_done sound unlinked done
    refine ⟨_, Prod.ext (ok.mpr done) same, gone, ?_⟩
    rw [FileStore.read?_of_file text]
    exact load_text plain
  · obtain ⟨same, ok⟩ := save_reflects disk plain path store
    have kept := runAll_of_failed sound unlinked failed
    cases outcome : (save disk settings path store).1 with
    | ok =>
      rw [ok.mp outcome] at failed
      cases failed
    | error fault => exact ⟨fault, _, Prod.ext outcome same, kept⟩

end

/-- Settings at their bounds are saved in place of a file on a reliable disk, which another path is a link to; on a full one the
    file stays, and settings that make no sense are not saved on either. -/
theorem save_all_or_nothing_full_disk :
    let settings : Settings :=
      { gesture := { dwellFrames := 0xFFFFFFFF, pinchRatio := 1e300, pinchFloor := -0.0 }, layout := { margin := 0x7FFFFFFF } }
    let faulty : Settings := { gesture := { dwellFrames := 0 } }
    let path := ["nested", "config.toml"]
    let place : Path → Path := fun other => if other = ["current.toml"] then path else other
    let store := (FileStore.empty.set ["nested"] (some .folder)).set path (some (.file "[layout]\n"))
    (Disk.reliable place).Sound ∧ (Disk.full place).Sound ∧ ¬ (Disk.full place).Linked (temporaryPath path) path ∧
      (∃ after, save (Disk.reliable place) settings path store = (.ok (), after) ∧ after (temporaryPath path) = none ∧
        load (after.read? path) = .ok settings) ∧
      (∃ fault after, save (Disk.full place) settings path store = (.error fault, after) ∧
        after path = some (.file "[layout]\n")) ∧
      save (Disk.full place) faulty path store = (.error (.invalid .noDwell), store) := by
  intro settings faulty path place store
  have unlinked : ¬ (Disk.full place).Linked (temporaryPath path) path :=
    fun linked => absurd linked.2 (by decide +kernel)
  obtain ⟨_, saved, _⟩ := save_all_or_nothing (Disk.reliable_sound place) settings path store
  obtain ⟨_, _, kept⟩ := save_all_or_nothing (Disk.full_sound place) settings path store
  obtain ⟨refused, _, _⟩ := save_all_or_nothing (Disk.full_sound place) faulty path store
  have plain : settings.fault? = none := by decide +kernel
  have done : ((Disk.reliable place).runAll (savingOperations settings path) store).2 = true := by decide +kernel
  have failed : ((Disk.full place).runAll (savingOperations settings path) store).2 = false := by decide +kernel
  have before : store path = some (.file "[layout]\n") := if_pos rfl
  exact ⟨Disk.reliable_sound place, Disk.full_sound place, unlinked, saved plain unlinked done, before ▸ kept plain unlinked failed,
    refused _ (by decide +kernel)⟩

/-- Where the path beside the file is a link to it, the file is written in place, and a full disk leaves it empty. -/
example :
    let path := ["config.toml"]
    let store := FileStore.empty.set path (some (.file "[layout]\n"))
    let place : Path → Path := fun other => if other = ["config.toml.tmp"] then path else other
    (save (Disk.full place) {} path store).2 path = some (.file "") := by
  decide +kernel

end Settings
end GestureCalculator
