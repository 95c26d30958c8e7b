/-!
TOML values, and how tables grow while a document is read. A table remembers how it came to be, because
that decides who may add to it later.
-/
namespace GestureCalculator.Toml

/-- How a table came to be. -/
inductive Origin where
  /-- By a header of its own. -/
  | header
  /-- By the header of a table inside it. -/
  | implied
  /-- By a dotted key. -/
  | dotted
  /-- As a value in braces, which is complete. -/
  | inline
deriving DecidableEq, Repr

/-- A TOML value. The tables of an array that is made by headers are kept apart from the values of an
    array in brackets, which is complete. -/
inductive Value where
  | text (content : String)
  | integer (value : Int)
  | real (value : Float)
  | truth (value : Bool)
  | moment (written : String)
  | array (items : List Value)
  | tables (items : List Value)
  | table (origin : Origin) (entries : List (String × Value))
deriving Repr

/-- The value of a key. -/
def find? (key : String) (entries : List (String × Value)) : Option Value :=
  (entries.find? fun entry => entry.1 == key).map Prod.snd

/-- The entries with a value for a key, at the place of the old one or at the end. -/
def put (key : String) (value : Value) : List (String × Value) → List (String × Value)
  | [] => [(key, value)]
  | entry :: rest => if entry.1 = key then (key, value) :: rest else entry :: put key value rest

namespace Value

/-- The value with a change made where a path leads. Missing tables on the way are made with the origin
    given, tables of some origins may not be entered, and the way into an array of tables leads to its
    last one. -/
def changeAt (fresh : Origin) (enters : Origin → Bool) (change : Value → Option Value) :
    List String → Value → Option Value
  | [], value => change value
  | key :: path, table origin entries =>
    match find? key entries with
    | none => do
      return table origin (put key (← changeAt fresh enters change path (table fresh [])) entries)
    | some (table inner found) =>
      if enters inner then do
        return table origin (put key (← changeAt fresh enters change path (table inner found)) entries)
      else none
    | some (tables items) => do
      let last ← changeAt fresh enters change path (← items.getLast?)
      return table origin (put key (tables (items.dropLast ++ [last])) entries)
    | some _ => none
  | _ :: _, _ => none

/-- A document with a table of its own for a header. Only a table that other headers implied may be there
    before. -/
def openTable (document : Value) (path : List String) (name : String) : Option Value :=
  document.changeAt .implied (· != .inline) (fun parent =>
    match parent with
    | table origin entries =>
      match find? name entries with
      | none => some (table origin (put name (table .header []) entries))
      | some (table .implied found) => some (table origin (put name (table .header found) entries))
      | some _ => none
    | _ => none) path

/-- A document with one more table in the array of tables for a header. -/
def appendTable (document : Value) (path : List String) (name : String) : Option Value :=
  document.changeAt .implied (· != .inline) (fun parent =>
    match parent with
    | table origin entries =>
      match find? name entries with
      | none => some (table origin (put name (tables [table .header []]) entries))
      | some (tables items) => some (table origin (put name (tables (items ++ [table .header []])) entries))
      | some _ => none
    | _ => none) path

/-- A table with a value for a key that is new, behind the dotted path given. Dotted keys add only to
    tables that dotted keys made, and plain keys only to others. -/
def insert (into : Value) (path : List String) (name : String) (value : Value) : Option Value :=
  into.changeAt .dotted (fun origin => origin == .implied || origin == .dotted) (fun parent =>
    match parent with
    | table origin entries =>
      if (origin == .dotted) == path.isEmpty then none
      else if (find? name entries).isSome then none
      else some (table origin (put name value entries))
    | _ => none) path

/-- A document with a value for a key in the table that the last header opened. -/
def insertIn (document : Value) (current path : List String) (name : String) (value : Value) : Option Value :=
  document.changeAt .implied (fun _ => true) (·.insert path name value) current

end Value
end GestureCalculator.Toml
