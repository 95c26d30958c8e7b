/-!
Classes of characters given as ranges of code points. The ranges of a class ascend and do not touch,
so a look-up may stop at the first range that begins beyond the character.
-/
namespace GestureCalculator.Text

/-- The code point lies between the ends of one of the ascending ranges, ends included. -/
def inRanges (point : Nat) : List (Nat × Nat) → Bool
  | [] => false
  | (first, last) :: rest =>
    if point < first then false else if point ≤ last then true else inRanges point rest

end GestureCalculator.Text
