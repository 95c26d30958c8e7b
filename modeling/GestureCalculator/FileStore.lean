/-!
Files and folders, and the operations on them. Several paths may be links to one file, and then what is done
at one of them may show at the others. An operation may fail, and then it may have done a part of its work.
Which operations fail, and which paths are links, is decided by the disk.
-/
namespace GestureCalculator

/-- The names on the way to a file or a folder. A path is resolved: none of its names is a step up, and no
    folder on the way is a link. -/
abbrev Path := List String

/-- What is at a path. -/
inductive Node where
  | folder
  | file (content : String)
deriving DecidableEq, Repr

/-- What is where. -/
abbrev FileStore := Path → Option Node

namespace FileStore

/-- A store without files. -/
def empty : FileStore := fun _ => none

/-- The store with something at a path, or with nothing there. -/
def set (store : FileStore) (path : Path) (node : Option Node) : FileStore :=
  fun other => if other = path then node else store other

/-- The text of a file. -/
def read? (store : FileStore) (path : Path) : Option String :=
  match store path with
  | some (.file content) => some content
  | _ => none

end FileStore

/-- What can be done to a store. -/
inductive Operation where
  /-- Makes a folder and all folders on the way to it, as far as they are missing. -/
  | makeFolder (path : Path)
  /-- Writes a file, in place of an old one if there is one. -/
  | write (path : Path) (content : String)
  /-- Gives a file another path, in place of an old one if there is one. -/
  | rename (source target : Path)
deriving DecidableEq, Repr

namespace Operation

/-- The paths from the first name on to the whole path. -/
def waysTo (path : Path) : List Path := (List.range path.length).map fun n => path.take (n + 1)

/-- The path has a name, and the folder that it is in exists. The first name of a path is in no folder. -/
def hasFolder (store : FileStore) (path : Path) : Bool :=
  !path.isEmpty && (path.dropLast.isEmpty || store path.dropLast == some .folder)

/-- The store after an operation, if nothing stands in its way. -/
def run? (store : FileStore) : Operation → Option FileStore
  | makeFolder path =>
    if (waysTo path).all fun way => (store.read? way).isNone then
      some ((waysTo path).foldl (fun store way => store.set way (some .folder)) store)
    else none
  | write path content =>
    if hasFolder store path && store path != some .folder then some (store.set path (some (.file content)))
    else none
  | rename source target =>
    match store source with
    | some (.file content) =>
      if hasFolder store target && store target != some .folder then
        some ((store.set source none).set target (some (.file content)))
      else none
    | _ => none

/-- The paths of the files that an operation writes or moves. -/
def files : Operation → List Path
  | makeFolder _ => []
  | write path _ => [path]
  | rename source target => [source, target]

end Operation

/-- A disk: what becomes of an operation on it, and which paths lead to one file. -/
structure Disk where
  /-- The store after an operation, and whether it was done. -/
  act : Operation → FileStore → FileStore × Bool
  /-- The place of the file that a path leads to. -/
  place : Path → Path

namespace Disk

instance : CoeFun Disk fun _ => Operation → FileStore → FileStore × Bool := ⟨act⟩

/-- The paths are two, but lead to one file. -/
def Linked (disk : Disk) (path other : Path) : Prop := path ≠ other ∧ disk.place path = disk.place other

/-- The disk on which an operation fails only if something stands in its way, and then does nothing. Files
    are written through links, while a link is renamed itself. -/
def reliable (place : Path → Path) : Disk where
  act operation store :=
    match operation, operation.run? store with
    | .write path _, some after => (fun other => if place other = place path then after path else after other, true)
    | _, some after => (after, true)
    | _, none => (store, false)
  place := place

/-- What may be relied on: an operation that is done has its effect, but paths that are linked to those of its
    files may show it too. Where folders cannot be made, some of the missing ones may be there; a file that
    cannot be written may have any content, but nothing else is touched, except through links to it, and if
    something stands in its way it is not touched either; a file is renamed as a whole or not at all. -/
structure Sound (disk : Disk) : Prop where
  done : ∀ operation store, (disk operation store).2 = true → ∃ after, operation.run? store = some after ∧
    ∀ other, (∀ file ∈ operation.files, ¬ disk.Linked file other) → (disk operation store).1 other = after other
  folders : ∀ path store other, (disk (.makeFolder path) store).2 = false →
    (disk (.makeFolder path) store).1 other = store other ∨
      other ∈ Operation.waysTo path ∧ store other = none ∧ (disk (.makeFolder path) store).1 other = some .folder
  elsewhere : ∀ path content store other, (disk (.write path content) store).2 = false → other ≠ path →
    ¬ disk.Linked path other → (disk (.write path content) store).1 other = store other
  blocked : ∀ path content store, (Operation.write path content).run? store = none →
    (disk (.write path content) store).1 = store
  whole : ∀ source target store, (disk (.rename source target) store).2 = false →
    (disk (.rename source target) store).1 = store

end Disk
end GestureCalculator
