/-!
The sixteen keys of the keypad.
-/
namespace GestureCalculator.Keypad

/-- What a key stands for. -/
inductive Label where
  | zero | one | two | three | four | five | six | seven | eight | nine
  | add | sub | mul | div
  /-- Clears the expression and the result. -/
  | clear
  /-- Evaluates the expression. -/
  | equals
deriving DecidableEq, Repr

namespace Label

/-- The labels in the order of the keypad, row by row. -/
def keypadOrder : List Label :=
  [one, two, three, add, four, five, six, sub, seven, eight, nine, mul, clear, zero, equals, div]

/-- The character printed on a key. -/
def char : Label → Char
  | zero => '0' | one => '1' | two => '2' | three => '3' | four => '4'
  | five => '5' | six => '6' | seven => '7' | eight => '8' | nine => '9'
  | add => '+' | sub => '-' | mul => '*' | div => '/' | clear => 'C' | equals => '='

/-- The text printed on a key. -/
def text (label : Label) : String := String.singleton label.char

/-- The key with the given text; clearing may be written in lower case too. -/
def ofText? (text : String) : Option Label :=
  match text.toList with
  | [c] => if c = 'c' then some clear else keypadOrder.find? (·.char == c)
  | _ => none

/-- The key adds its text to the expression. -/
def isInput (label : Label) : Bool := label != clear && label != equals

end Label
end GestureCalculator.Keypad
