import GestureCalculator.Expression.Grammar
import Mathlib.Tactic

/-!
The descent through an expression, with nothing taken for granted. A cursor stands on an entry of a list and counts how deep
the phrases are nested; it may run off the list, the count may fall below zero, and a walk that was allowed only so many calls
within each other may still be under way when there are none left. That nothing of this happens is shown in `DescentProgress`.
-/
namespace GestureCalculator.Expression.Descent

/-- A word and its offset, or the end of a text and the size of the text. -/
structure Entry where
  kind : Option Lexeme
  offset : Nat

/-- The entries of a text: its tokens, and one end behind them. -/
def entriesOf (tokens : List Token) (size : Nat) : List Entry :=
  tokens.map (fun token => ⟨some token.lexeme, token.offset⟩) ++ [⟨none, size⟩]

structure Cursor where
  place : Nat
  depth : Nat

/-- Why a walk breaks off: the text is refused, or the walk itself is at fault. -/
inductive Halt where
  | refused (failure : Failure)
  | pastEntries
  | depthBelowZero

/-- A walk moves the cursor and gives a value, or breaks off. It has no outcome (`none`) if it has not come to an end. -/
abbrev Walk := StateT Cursor (ExceptT Halt Option)

def unfinished {α : Type} : Walk α := fun _ => none

section
variable (entries : List Entry)

/-- The entry at the cursor. -/
def here : Walk Entry := do
  match entries[(← get).place]? with
  | some entry => return entry
  | none => throw .pastEntries

def peek : Walk (Option Lexeme) := do return (← here entries).kind

/-- Goes on to the next entry, if there is one. -/
def advance : Walk Unit := do
  let _ ← here entries
  let cursor ← get
  if cursor.place + 1 < entries.length then set { cursor with place := cursor.place + 1 }

/-- Takes a word if it stands here. -/
def eat (word : Lexeme) : Walk Bool := do
  if (← peek entries) = some word then
    advance entries
    return true
  else return false

/-- Refuses the text at the cursor. -/
def refuse {α : Type} (cause : Malformed) : Walk α := do
  let entry ← here entries
  throw (.refused (.malformed entry.offset cause))

def unexpected {α : Type} : Walk α := do refuse entries (.unexpected (← peek entries))

/-- Takes a symbol that has to stand here. -/
def expect (symbol : Symbol) : Walk Unit := do
  if ← eat entries (.symbol symbol) then return () else unexpected entries

/-- One more phrase is nested. -/
def enter : Walk Unit := do
  modify fun cursor => { cursor with depth := cursor.depth + 1 }
  if (← get).depth > maxDepth then refuse entries .nestedTooDeeply

/-- One nested phrase is over. -/
def leave : Walk Unit := do
  let cursor ← get
  match cursor.depth with
  | 0 => throw .depthBelowZero
  | depth + 1 => set { cursor with depth := depth }

/-- The literal of a number that stood at an offset. -/
def literalAt (offset : Nat) (text : String) : Walk Literal :=
  match numberLiteral text [] with
  | .ok value => return value
  | .error (.malformed cause _) => throw (.refused (.malformed offset cause))
  | .error .integerOverflow => throw (.refused .integerOverflow)

mutual

def expression : Nat → Walk Tree
  | 0 => unfinished
  | calls + 1 => do
    let first ← conjunction calls
    return booleanTree .or first (← disjuncts calls)

def disjuncts : Nat → Walk (List Tree)
  | 0 => unfinished
  | calls + 1 => do
    if ← eat entries (.name "or") then
      let next ← conjunction calls
      return next :: (← disjuncts calls)
    else return []

def conjunction : Nat → Walk Tree
  | 0 => unfinished
  | calls + 1 => do
    let first ← negation calls
    return booleanTree .and first (← conjuncts calls)

def conjuncts : Nat → Walk (List Tree)
  | 0 => unfinished
  | calls + 1 => do
    if ← eat entries (.name "and") then
      let next ← negation calls
      return next :: (← conjuncts calls)
    else return []

def negation : Nat → Walk Tree
  | 0 => unfinished
  | calls + 1 => do
    if ← eat entries (.name "not") then
      enter entries
      let operand ← negation calls
      leave
      return .unary .not operand
    else comparison calls

def comparison : Nat → Walk Tree
  | 0 => unfinished
  | calls + 1 => do
    let first ← operand calls levels.reverse
    return comparisonTree first (← sides calls)

def sides : Nat → Walk (List (CompareOp × Tree))
  | 0 => unfinished
  | calls + 1 => do
    match (← peek entries).bind compareOperator with
    | some op =>
      advance entries
      let right ← operand calls levels.reverse
      return (op, right) :: (← sides calls)
    | none => return []

/-- Operands of the levels, the loosest first. -/
def operand : Nat → List Level → Walk Tree
  | 0, _ => unfinished
  | calls + 1, [] => factor calls
  | calls + 1, level :: tighter => do
    let first ← operand calls tighter
    chain calls level tighter first

/-- Operators of a level with their right operands, after a left operand. -/
def chain : Nat → Level → List Level → Tree → Walk Tree
  | 0, _, _, _ => unfinished
  | calls + 1, level, tighter, left => do
    match (← peek entries).bind level with
    | some op =>
      advance entries
      let right ← operand calls tighter
      chain calls level tighter (.binary op left right)
    | none => return left

def factor : Nat → Walk Tree
  | 0 => unfinished
  | calls + 1 => do
    match (← peek entries).bind unaryOperator with
    | some op =>
      advance entries
      enter entries
      let operand ← factor calls
      leave
      return .unary op operand
    | none => power calls

def power : Nat → Walk Tree
  | 0 => unfinished
  | calls + 1 => do
    let base ← primary calls
    if ← eat entries (.symbol .power) then
      enter entries
      let exponent ← factor calls
      leave
      return .binary .pow base exponent
    else return base

def primary : Nat → Walk Tree
  | 0 => unfinished
  | calls + 1 => do
    let tree ← atom calls
    trailers calls tree

/-- Calls, subscripts and attributes of a tree. -/
def trailers : Nat → Tree → Walk Tree
  | 0, _ => unfinished
  | calls + 1, tree => do
    if ← eat entries (.symbol .openParen) then
      enter entries
      let arguments ← sequence calls .closeParen
      leave
      trailers calls (.call tree arguments)
    else if ← eat entries (.symbol .openBracket) then
      enter entries
      let index ← expression calls
      expect entries .closeBracket
      leave
      trailers calls (.subscript tree index)
    else if ← eat entries (.symbol .dot) then
      match ← peek entries with
      | some (.name name) =>
        advance entries
        trailers calls (.attribute tree name)
      | _ => unexpected entries
    else return tree

def atom : Nat → Walk Tree
  | 0 => unfinished
  | calls + 1 => do
    let entry ← here entries
    match entry.kind with
    | some (.number text) =>
      advance entries
      return .literal (← literalAt entry.offset text)
    | some (.quoted content) =>
      advance entries
      return .literal (.text content)
    | some (.name name) =>
      if isOperatorName name then unexpected entries
      else
        advance entries
        return nameTree name
    | some (.symbol .openParen) =>
      advance entries
      enter entries
      let tree ← parenthesized calls
      leave
      return tree
    | some (.symbol .openBracket) =>
      advance entries
      enter entries
      let found ← sequence calls .closeBracket
      leave
      return .list found
    | _ => unexpected entries

/-- What follows an opening parenthesis. -/
def parenthesized : Nat → Walk Tree
  | 0 => unfinished
  | calls + 1 => do
    if ← eat entries (.symbol .closeParen) then return .tuple []
    else
      let first ← expression calls
      if ← eat entries (.symbol .closeParen) then return first
      else
        expect entries .comma
        let others ← sequence calls .closeParen
        return .tuple (first :: others)

/-- Expressions with commas between them, up to a closing symbol. -/
def sequence : Nat → Symbol → Walk (List Tree)
  | 0, _ => unfinished
  | calls + 1, close => do
    if ← eat entries (.symbol close) then return []
    else
      let first ← expression calls
      if ← eat entries (.symbol .comma) then
        return first :: (← sequence calls close)
      else
        expect entries close
        return [first]

end

/-- The whole walk over the entries of a text. -/
def whole (calls : Nat) : Walk Tree := do
  if (← peek entries) = none then throw (.refused (.malformed 0 .empty))
  else
    let tree ← expression entries calls
    match ← peek entries with
    | none => return tree
    | some _ => unexpected entries

end

/-- The tree of a text, by a walk that begins at its first token with nothing nested. -/
def parse (calls : Nat) (text : String) : ExceptT Halt Option Tree := do
  match tokensOf text with
  | .error failure => throw (.refused failure)
  | .ok tokens => (whole (entriesOf tokens text.utf8ByteSize) calls).run' ⟨0, 0⟩

end GestureCalculator.Expression.Descent
