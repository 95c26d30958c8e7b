import GestureCalculator.Toml.Scalar

/-!
TOML documents: lines of headers and of keys with values, in the notation of TOML 1.1.
-/
namespace GestureCalculator.Toml
open Text

/-- A control character other than the tab; none may stand in strings and comments. -/
def isControl (c : Char) : Bool := (c.toNat < 0x20 && c != '\t') || c.toNat == 0x7F

def isGap (c : Char) : Bool := c == ' ' || c == '\t'

/-- A text without the spaces and tabs before it. -/
def trimStart (cs : List Char) : List Char := cs.dropWhile isGap

/-- A text whose line breaks are all single characters. -/
def unifyLineBreaks : List Char → List Char
  | '\r' :: '\n' :: rest => '\n' :: unifyLineBreaks rest
  | c :: rest => c :: unifyLineBreaks rest
  | [] => []

/-- The character with a code in hexadecimal digits. -/
def coded? (digits : List Char) : Option Char := do
  let code ← hexValue? digits
  if code < 0xD800 ∨ (0xE000 ≤ code ∧ code < 0x110000) then some (Char.ofNat code) else none

/-- The character that an escape stands for, from behind its backslash. -/
def escape : Reader Char
  | 'u' :: a :: b :: c :: d :: rest => do return (← coded? [a, b, c, d], rest)
  | 'U' :: a :: b :: c :: d :: e :: f :: g :: h :: rest => do return (← coded? [a, b, c, d, e, f, g, h], rest)
  | 'x' :: a :: b :: rest => do return (← coded? [a, b], rest)
  | 'b' :: rest => some ('\x08', rest)
  | 'e' :: rest => some ('\x1b', rest)
  | 't' :: rest => some ('\t', rest)
  | 'n' :: rest => some ('\n', rest)
  | 'f' :: rest => some ('\x0c', rest)
  | 'r' :: rest => some ('\r', rest)
  | '"' :: rest => some ('"', rest)
  | '\\' :: rest => some ('\\', rest)
  | _ => none

/-- The rest of a string in double quotes. It has no more characters than the text. -/
def basicRest : Nat → Reader (List Char)
  | 0, _ => none
  | _ + 1, '"' :: rest => some ([], rest)
  | more + 1, '\\' :: rest => do
    let (c, rest) ← escape rest
    let (others, rest) ← basicRest more rest
    return (c :: others, rest)
  | more + 1, c :: rest => do
    if isControl c then none
    let (others, rest) ← basicRest more rest
    return (c :: others, rest)
  | _ + 1, [] => none

/-- The rest of a string in single quotes. -/
def literalRest : Reader (List Char)
  | '\'' :: rest => some ([], rest)
  | c :: rest => do
    if isControl c then none
    let (others, rest) ← literalRest rest
    return (c :: others, rest)
  | [] => none

/-- The rest of a string of several lines between three quotes of a kind. Up to two more quotes may stand
    before the last three. In double quotes there are escapes, and a backslash at the end of a line takes
    the white space behind it away. -/
def linesRest (quote : Char) : Nat → Reader (List Char)
  | 0, _ => none
  | _ + 1, [] => none
  | more + 1, c :: rest =>
    let quotes := min ((c :: rest).takeWhile (· == quote)).length 5
    if 3 ≤ quotes then some (List.replicate (quotes - 3) quote, (c :: rest).drop quotes)
    else if c = '\\' ∧ quote = '"' then
      match trimStart rest with
      | '\n' :: after => linesRest quote more (after.dropWhile fun c => isGap c || c == '\n')
      | _ => do
        let (c, rest) ← escape rest
        let (others, rest) ← linesRest quote more rest
        return (c :: others, rest)
    else do
      if isControl c && c != '\n' then none
      let (others, rest) ← linesRest quote more rest
      return (c :: others, rest)

/-- A text without the line break at its head. -/
def dropLineBreak : List Char → List Char
  | '\n' :: rest => rest
  | cs => cs

def lineString : Reader String
  | '"' :: rest => do
    let (content, rest) ← basicRest (rest.length + 1) rest
    return (String.ofList content, rest)
  | '\'' :: rest => do
    let (content, rest) ← literalRest rest
    return (String.ofList content, rest)
  | _ => none

def string : Reader String
  | '"' :: '"' :: '"' :: rest => do
    let (content, rest) ← linesRest '"' (rest.length + 1) (dropLineBreak rest)
    return (String.ofList content, rest)
  | '\'' :: '\'' :: '\'' :: rest => do
    let (content, rest) ← linesRest '\'' (rest.length + 1) (dropLineBreak rest)
    return (String.ofList content, rest)
  | cs => lineString cs

/-- A character of a key without quotes. -/
def isBareChar (c : Char) : Bool := c.isAlphanum || c == '-' || c == '_'

/-- One part of a key. -/
def simpleKey : Reader String := fun cs =>
  match cs with
  | '"' :: _ => lineString cs
  | '\'' :: _ => lineString cs
  | _ =>
    let name := cs.takeWhile isBareChar
    if name.isEmpty then none else some (String.ofList name, cs.dropWhile isBareChar)

/-- The parts of a key behind its first part, at most so many: each follows a dot. -/
def keyRest : Nat → Reader (List String)
  | 0, cs => some ([], cs)
  | more + 1, cs =>
    match trimStart cs with
    | '.' :: rest => do
      let (name, rest) ← simpleKey (trimStart rest)
      let (others, rest) ← keyRest more rest
      return (name :: others, rest)
    | rest => some ([], rest)

/-- A key: the parts before the last one, the last one, and the text behind the key and its gap. -/
def key : Reader (List String × String) := fun cs => do
  let (first, rest) ← simpleKey (trimStart cs)
  let (others, rest) ← keyRest rest.length rest
  let parts := first :: others
  return ((parts.dropLast, parts.getLast?.getD first), trimStart rest)

/-- The text behind a comment. -/
def afterComment (cs : List Char) : Option (List Char) :=
  if (cs.takeWhile (· != '\n')).any isControl then none else some (cs.dropWhile (· != '\n'))

/-- The text behind gaps, line breaks and comments, of which there are at most so many. -/
def afterBlank : Nat → List Char → Option (List Char)
  | 0, cs => some cs
  | more + 1, cs =>
    match trimStart cs with
    | '\n' :: rest => afterBlank more rest
    | '#' :: rest => do afterBlank more (← afterComment rest)
    | rest => some rest

/-- The items of an array from behind its opening bracket, at most so many. -/
def arrayItems (value : Reader Value) : Nat → Reader (List Value)
  | 0, _ => none
  | more + 1, cs => do
    match ← afterBlank (cs.length + 1) cs with
    | ']' :: rest => return ([], rest)
    | rest => do
      let (first, rest) ← value rest
      match ← afterBlank (rest.length + 1) rest with
      | ',' :: rest => do
        let (others, rest) ← arrayItems value more rest
        return (first :: others, rest)
      | ']' :: rest => return ([first], rest)
      | _ => none

def keyValue (value : Reader Value) : Reader (List String × String × Value) := fun cs => do
  let ((path, name), rest) ← key cs
  match rest with
  | '=' :: rest => do
    let (found, rest) ← value (trimStart rest)
    return ((path, name, found), rest)
  | _ => none

/-- The entries of a table in braces from behind its opening brace or a comma, added to the ones before
    them, at most so many. -/
def inlineEntries (value : Reader Value) : Nat → Value → Reader Value
  | 0, _, _ => none
  | more + 1, before, cs => do
    match ← afterBlank (cs.length + 1) cs with
    | '\x7d' :: rest => return (before, rest)
    | rest => do
      let ((path, name, found), rest) ← keyValue value rest
      let table ← before.insert path name found
      match ← afterBlank (rest.length + 1) rest with
      | ',' :: rest => inlineEntries value more table rest
      | '\x7d' :: rest => return (table, rest)
      | _ => none

def inlineTable (value : Reader Value) : Reader Value := fun cs =>
  inlineEntries value (cs.length + 1) (.table .inline []) cs

/-- A value, given the reader for the values inside its brackets, if there may be any. -/
def valueOver (inner : Option (Reader Value)) : Reader Value := fun cs =>
  match cs with
  | '[' :: rest => do
    let (items, rest) ← arrayItems (← inner) (rest.length + 1) rest
    return (.array items, rest)
  | '\x7b' :: rest => do inlineTable (← inner) rest
  | '"' :: _ => do
    let (content, rest) ← string cs
    return (.text content, rest)
  | '\'' :: _ => do
    let (content, rest) ← string cs
    return (.text content, rest)
  | _ => scalar cs

/-- A value with at most so many brackets inside each other. -/
def valueWithin : Nat → Reader Value
  | 0 => valueOver none
  | depth + 1 => valueOver (some (valueWithin depth))

/-- How deep brackets may be nested. -/
def maxDepth : Nat := 80

/-- The text behind the end of a line, before which there may be a comment. -/
def afterLine (cs : List Char) : Option (List Char) :=
  match trimStart cs with
  | [] => some []
  | '\n' :: rest => some rest
  | '#' :: rest => do return dropLineBreak (← afterComment rest)
  | _ => none

/-- A document whose lines, at most so many, are still to be read, and the path of the table that the
    last header opened. -/
def readLines : Nat → List String → Value → List Char → Option Value
  | 0, _, document, cs => if cs.isEmpty then some document else none
  | more + 1, current, document, cs =>
    match trimStart cs with
    | [] => some document
    | '\n' :: rest => readLines more current document rest
    | '#' :: rest => do readLines more current document (← afterLine ('#' :: rest))
    | '[' :: '[' :: rest => do
      let ((path, name), rest) ← key rest
      match rest with
      | ']' :: ']' :: rest => do
        readLines more (path ++ [name]) (← document.appendTable path name) (← afterLine rest)
      | _ => none
    | '[' :: rest => do
      let ((path, name), rest) ← key rest
      match rest with
      | ']' :: rest => do
        readLines more (path ++ [name]) (← document.openTable path name) (← afterLine rest)
      | _ => none
    | rest => do
      let ((path, name, value), rest) ← keyValue (valueWithin maxDepth) rest
      readLines more current (← document.insertIn current path name value) (← afterLine rest)

/-- A text without the byte order mark before it. -/
def dropMark : List Char → List Char
  | '\ufeff' :: rest => rest
  | cs => cs

/-- The document that a text is. -/
def ofText? (text : String) : Option Value :=
  let cs := unifyLineBreaks (dropMark text.toList)
  readLines (cs.length + 1) [] (.table .header []) cs

end GestureCalculator.Toml
