import GestureCalculator.Binary64.Decimal

/-!
JSON values and how they are written. An object keeps its fields in order, repeated ones too.
-/
namespace GestureCalculator

/-- A JSON value. Whole numbers are those written without a point, an exponent and as something else than
    minus zero. -/
inductive Json where
  | null
  | truth (value : Bool)
  | integer (value : Int)
  | real (value : Float)
  | text (value : String)
  | array (items : List Json)
  | object (fields : List (String × Json))
deriving Repr

namespace Json

/-- A value if there is one, and null otherwise. -/
def ofOption {α : Type} (json : α → Json) : Option α → Json
  | some value => json value
  | none => .null

/-- The number of a code unit in four hexadecimal digits. -/
def fourHexDigits (n : Nat) : List Char :=
  let digits := Nat.toDigits 16 n
  List.replicate (4 - digits.length) '0' ++ digits

/-- How a character is written inside a string. -/
def escapedChar (c : Char) : List Char :=
  match c with
  | '"' => ['\\', '"']
  | '\\' => ['\\', '\\']
  | '\n' => ['\\', 'n']
  | '\r' => ['\\', 'r']
  | '\t' => ['\\', 't']
  | '\x08' => ['\\', 'b']
  | '\x0c' => ['\\', 'f']
  | _ => if c.toNat < 0x20 then '\\' :: 'u' :: fourHexDigits c.toNat else [c]

/-- A string with its quotes. -/
def quotedText (text : String) : String :=
  String.ofList ('"' :: (text.toList.flatMap escapedChar ++ ['"']))

/-- A number that is not whole, or is written as if it were not. -/
def realText (x : Float) : String :=
  if Binary64.isWhole x then Binary64.shortestText x ++ ".0" else Binary64.shortestText x

mutual

/-- A value without any white space. -/
def compact : Json → String
  | null => "null"
  | truth value => if value then "true" else "false"
  | integer value => toString value
  | real value => realText value
  | text value => quotedText value
  | array items => "[" ++ ",".intercalate (compactItems items) ++ "]"
  | object fields => "\x7b" ++ ",".intercalate (compactFields fields) ++ "\x7d"

/-- The items of an array, each without white space. -/
def compactItems : List Json → List String
  | [] => []
  | item :: rest => compact item :: compactItems rest

/-- The fields of an object, each without white space. -/
def compactFields : List (String × Json) → List String
  | [] => []
  | (name, value) :: rest => (quotedText name ++ ":" ++ compact value) :: compactFields rest

end

/-- A line break and the indentation of a level, two spaces for each. -/
def newLine (level : Nat) : String := String.ofList ('\n' :: List.replicate (2 * level) ' ')

/-- Written parts, each on a line of its own, between an opening and a closing bracket. -/
def indentedBlock (opening closing : String) (level : Nat) (parts : List String) : String :=
  if parts.isEmpty then opening ++ closing
  else
    opening ++ newLine (level + 1) ++ ("," ++ newLine (level + 1)).intercalate parts ++ newLine level ++ closing

mutual

/-- A value with each item and field on a line of its own, at a level of indentation. -/
def indented (level : Nat) : Json → String
  | array items => indentedBlock "[" "]" level (indentedItems (level + 1) items)
  | object fields => indentedBlock "\x7b" "\x7d" level (indentedFields (level + 1) fields)
  | null => "null"
  | truth value => if value then "true" else "false"
  | integer value => toString value
  | real value => realText value
  | text value => quotedText value

/-- The items of an array, each indented. -/
def indentedItems (level : Nat) : List Json → List String
  | [] => []
  | item :: rest => indented level item :: indentedItems level rest

/-- The fields of an object, each indented. -/
def indentedFields (level : Nat) : List (String × Json) → List String
  | [] => []
  | (name, value) :: rest => (quotedText name ++ ": " ++ indented level value) :: indentedFields level rest

end

end Json
end GestureCalculator
