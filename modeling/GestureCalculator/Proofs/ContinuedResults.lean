import GestureCalculator.Proofs.Formulas

/-!
Calculations that go on from a result. What is typed behind a result is read together with its digits, so an
operator is applied to the result itself, with one exception: the sign of a negative result stands before the
power of its digits, and is not part of the base.
-/
namespace GestureCalculator.Keypad

/-- The keys that type a text. Characters that are on no key are passed over. -/
def keysFor (text : String) : List Label := text.toList.filterMap fun c => Label.ofText? (String.singleton c)

/-- A key adds the character to the expression. -/
def OnKey (c : Char) : Prop := ∃ label : Label, label.isInput ∧ label.char = c

theorem onKey_of_isDigit {c : Char} (digit : c.isDigit) : OnKey c := by
  obtain ⟨least, greatest⟩ := Expression.toNat_of_isDigit digit
  rw [← Char.ofNat_toNat c]
  generalize c.toNat = code at least greatest
  interval_cases code
  exacts [⟨.zero, rfl, rfl⟩, ⟨.one, rfl, rfl⟩, ⟨.two, rfl, rfl⟩, ⟨.three, rfl, rfl⟩, ⟨.four, rfl, rfl⟩,
    ⟨.five, rfl, rfl⟩, ⟨.six, rfl, rfl⟩, ⟨.seven, rfl, rfl⟩, ⟨.eight, rfl, rfl⟩, ⟨.nine, rfl, rfl⟩]

theorem ofText?_text (label : Label) : Label.ofText? label.text = some label := by
  cases label <;> rfl

theorem foldl_press_of_isInput {labels : List Label} (inputs : ∀ label ∈ labels, label.isInput) (session : Session) :
    labels.foldl Session.press session =
      { session with expression := session.expression ++ String.ofList (labels.map Label.char) } := by
  induction labels generalizing session with
  | nil => simp
  | cons label labels ih =>
    obtain ⟨input, others⟩ := List.forall_mem_cons.mp inputs
    rw [List.foldl_cons, Expression.press_of_isInput input, ih others]
    simp [← String.toList_inj, Label.text]

theorem keysFor_chars {cs : List Char} (onKeys : ∀ c ∈ cs, OnKey c) :
    (∀ label ∈ keysFor (String.ofList cs), label.isInput) ∧ (keysFor (String.ofList cs)).map Label.char = cs := by
  induction cs with
  | nil => simp [keysFor]
  | cons c cs ih =>
    obtain ⟨⟨label, input, rfl⟩, others⟩ := List.forall_mem_cons.mp onKeys
    have first : keysFor (String.ofList (label.char :: cs)) = label :: keysFor (String.ofList cs) := by
      simp only [keysFor, String.toList_ofList, List.filterMap_cons]
      rw [show String.singleton label.char = label.text from rfl, ofText?_text]
    obtain ⟨inputs, chars⟩ := ih others
    rw [first, List.map_cons, chars]
    exact ⟨List.forall_mem_cons.mpr ⟨input, inputs⟩, rfl⟩

/-- Typing a text adds it to the expression. -/
theorem foldl_press_keysFor {text : String} (onKeys : ∀ c ∈ text.toList, OnKey c) (session : Session) :
    (keysFor text).foldl Session.press session = { session with expression := session.expression ++ text } := by
  obtain ⟨inputs, chars⟩ := keysFor_chars onKeys
  rw [String.ofList_toList] at inputs chars
  rw [foldl_press_of_isInput inputs, chars, String.ofList_toList]

end GestureCalculator.Keypad

namespace GestureCalculator.Expression
open Keypad

theorem onKey_of_mem_symbol {op : ArithmeticOp} (typable : op ≠ .mod) : ∀ c ∈ op.symbol.text.toList, OnKey c := by
  have add : OnKey '+' := ⟨.add, rfl, rfl⟩
  have sub : OnKey '-' := ⟨.sub, rfl, rfl⟩
  have mul : OnKey '*' := ⟨.mul, rfl, rfl⟩
  have div : OnKey '/' := ⟨.div, rfl, rfl⟩
  cases op <;> first | exact absurd rfl typable | simpa [ArithmeticOp.symbol, Symbol.text]

/-- The formula that is typed with an operator and a number behind a whole number. -/
def continued (op : ArithmeticOp) (v : Int) (n : Nat) (fits : v.natAbs < 2 ^ 127) (fits' : n < 2 ^ 127) : Formula :=
  if 0 ≤ v then .operation op (.number v.natAbs fits) (.number n fits')
  else if op = .pow then .signed .minus (.operation .pow (.number v.natAbs fits) (.number n fits'))
  else .operation op (.signed .minus (.number v.natAbs fits)) (.number n fits')

section

variable {op : ArithmeticOp} {v : Int} {n : Nat} (fits : v.natAbs < 2 ^ 127) (fits' : n < 2 ^ 127)

theorem words_continued : (continued op v n fits fits').words =
    (if 0 ≤ v then [] else [.symbol .minus]) ++ [.number (String.ofList (Nat.toDigits 10 v.natAbs)), .symbol op.symbol,
      .number (String.ofList (Nat.toDigits 10 n))] := by
  unfold continued
  split_ifs with nonneg power
  · cases op <;> rfl
  · subst power
    rfl
  · cases op <;> first | rfl | exact absurd rfl power

theorem text_continued : (continued op v n fits fits').text =
    toString v ++ op.symbol.text ++ String.ofList (Nat.toDigits 10 n) := by
  rw [Formula.text, words_continued, toString_eq, ← String.toList_inj]
  by_cases nonneg : 0 ≤ v
  · rw [if_pos nonneg, if_neg (Int.not_lt.mpr nonneg)]
    simp [written, Lexeme.characters]
  · rw [if_neg nonneg, if_pos (Int.not_le.mp nonneg)]
    simp [written, Lexeme.characters, Symbol.text]

theorem nesting_continued : (continued op v n fits fits').nesting ≤ maxDepth := by
  unfold continued
  split_ifs <;> cases op <;> exact Nat.le_of_ble_eq_true rfl

theorem value_continued : (continued op v n fits fits').tree.value =
    if op = .pow ∧ v < 0 then apply .pow (.integer (-v)) (.integer n) >>= opposite
    else apply op (.integer v) (.integer n) := by
  have known : op.operator.arithmetic? = some op := by cases op <;> rfl
  have literal (m : Nat) : (Tree.literal (.number (.integer m))).value = .ok (.integer m) := rfl
  unfold continued
  by_cases nonneg : 0 ≤ v
  · have digits : (v.natAbs : Int) = v := Int.natAbs_of_nonneg nonneg
    rw [if_pos nonneg, if_neg (by omega)]
    simp only [Formula.tree, Tree.value, known]
    rw [digits]
    rfl
  · have digits : (v.natAbs : Int) = -v := Int.ofNat_natAbs_of_nonpos (by omega)
    rw [if_neg nonneg]
    by_cases power : op = .pow
    · rw [if_pos power, if_pos ⟨power, by omega⟩]
      simp only [Formula.tree, Tree.value, Sign.operator, digits]
      rfl
    · have opposed : opposite (.integer (-v)) = .ok (.integer v) := by
        rw [opposite, neg_neg, exactly_of_inRange (Number.inRange_iff.mpr (by omega))]
      rw [if_neg power, if_neg fun both => power both.1]
      simp only [Formula.tree, Tree.value, known, Sign.operator, digits]
      change (opposite (.integer (-v)) >>= fun x => apply op x (.integer n)) = _
      rw [opposed]
      rfl

include fits in
/-- An operator and a number behind the digits of a whole number are applied to it, but its sign stays outside of a
    power. -/
theorem evaluate_continued (fits' : n < 2 ^ 127) :
    evaluate (toString v ++ op.symbol.text ++ String.ofList (Nat.toDigits 10 n)) =
      if op = .pow ∧ v < 0 then apply .pow (.integer (-v)) (.integer n) >>= opposite
      else apply op (.integer v) (.integer n) := by
  let formula := continued op v n fits fits'
  obtain ⟨arithmetic, apart, _, _⟩ := legible_words formula
  have short : formula.words.length ≤ maxTokens := by
    rw [words_continued]
    split <;> simp [maxTokens]
  have shallow : formula.nesting ≤ maxDepth := nesting_continued fits fits'
  have parsed : parse formula.text = .ok formula.tree :=
    parse_written apart arithmetic short ((derives_words formula shallow).loosen (by cases formula.phrase <;> decide))
  rw [← text_continued fits fits', evaluate, parsed, ← value_continued fits fits']
  rfl

end

theorem apply_power (a : Int) (n : Nat) : apply .pow (.integer a) (.integer n) = exactly (a ^ n) := by
  rw [apply, applyIntegers, if_pos (Int.natCast_nonneg n), Int.toNat_natCast, integerPower_eq]

theorem showing_ok_ne_error (a : Int) (failure : Failure) : showing (.ok (.integer a)) ≠ showing (.error failure) := by
  intro same
  have empty : toString a = "" := congrArg Session.expression same
  rw [toString_eq, ← String.toList_inj] at empty
  split at empty <;> simp [Nat.toDigits_ne_nil] at empty

/-- The sign before a power makes no difference to a power of the negative number itself if the exponent is odd, but
    for the greatest power that only has room with the sign. If the exponent is even, it makes one unless neither has
    room. -/
theorem showing_opposite_power {v : Int} (n : Nat) (negative : v < 0) :
    showing (apply .pow (.integer (-v)) (.integer n) >>= opposite) = showing (apply .pow (.integer v) (.integer n)) ↔
      if Even n then 2 ^ 127 ≤ (-v) ^ n else (-v) ^ n ≠ 2 ^ 127 := by
  have positive : 0 < (-v) ^ n := pow_pos (by omega) n
  have opposed : exactly ((-v) ^ n) >>= opposite =
      if (-v) ^ n < 2 ^ 127 then .ok (.integer (-(-v) ^ n)) else .error .integerOverflow := by
    split_ifs with room
    · rw [exactly_of_inRange (Number.inRange_iff.mpr (by omega))]
      exact exactly_of_inRange (Number.inRange_iff.mpr (by omega))
    · rw [exactly_of_not_inRange (mt Number.inRange_iff.mp (by omega))]
      rfl
  rw [apply_power, apply_power, opposed]
  by_cases even : Even n
  · rw [if_pos even, ← even.neg_pow v]
    split_ifs with room
    · rw [exactly_of_inRange (Number.inRange_iff.mpr (by omega))]
      refine iff_of_false (fun same => ?_) (by omega)
      have := Int.repr_injective (congrArg Session.expression same)
      omega
    · rw [exactly_of_not_inRange (mt Number.inRange_iff.mp (by omega))]
      exact iff_of_true rfl (by omega)
  · have odd : v ^ n = -(-v) ^ n := by rw [(Nat.not_even_iff_odd.mp even).neg_pow, neg_neg]
    rw [if_neg even, odd]
    split_ifs with room
    · rw [exactly_of_inRange (Number.inRange_iff.mpr (by omega))]
      exact iff_of_true rfl (by omega)
    · by_cases greatest : (-v) ^ n = 2 ^ 127
      · rw [exactly_of_inRange (Number.inRange_iff.mpr (by omega))]
        exact iff_of_false (showing_ok_ne_error _ _).symm (fun other => other greatest)
      · rw [exactly_of_not_inRange (mt Number.inRange_iff.mp (by omega))]
        exact iff_of_true rfl greatest

/-- What is typed behind a result and evaluated shows the outcome of the result's text with it. -/
theorem foldl_press_behind {keys : List Label} {v : Number} {text : String}
    (value : evaluate (keys.foldl Session.press {}).expression = .ok v) (onKeys : ∀ c ∈ text.toList, OnKey c)
    (inked : ∃ c ∈ text.toList, Text.isBlank c = false) :
    (keys ++ [Label.equals] ++ keysFor text ++ [Label.equals]).foldl Session.press {} =
      showing (evaluate (v.text ++ text)) := by
  simp only [List.foldl_append, List.foldl_cons, List.foldl_nil, press_equals_of_ok value, foldl_press_keysFor onKeys]
  refine press_equals fun blank => ?_
  obtain ⟨c, inside, inked⟩ := inked
  have blank := List.all_eq_true.mp blank c (by simp [inside])
  rw [inked] at blank
  cases blank

/-- An operator and a number that are typed behind a result and evaluated show what the operator makes of the result
    and the number. Only behind a negative result, a power is made of its digits and gets the sign afterwards, which
    shows something else for all exponents that are even and for one that is odd. -/
theorem typing_continues_result {keys : List Label} {op : ArithmeticOp} {v : Int} {n : Nat}
    (value : evaluate (keys.foldl Session.press {}).expression = .ok (.integer v))
    (readable : v ≠ Number.leastInteger) (typable : op ≠ .mod) (fits : n < 2 ^ 127) :
    let shown := (keys ++ [Label.equals] ++ keysFor (op.symbol.text ++ toString n) ++ [Label.equals]).foldl Session.press {}
    (op ≠ .pow ∨ 0 ≤ v → shown = showing (apply op (.integer v) (.integer n))) ∧
      (op = .pow → v < 0 →
        shown = showing (apply .pow (.integer (-v)) (.integer n) >>= opposite) ∧
          (shown = showing (apply .pow (.integer v) (.integer n)) ↔
            if Even n then 2 ^ 127 ≤ (-v) ^ n else (-v) ^ n ≠ 2 ^ 127)) := by
  intro shown
  have bounds := Number.inRange_iff.mp (valid_of_evaluate value)
  have fitsResult : v.natAbs < 2 ^ 127 := by
    rw [Number.leastInteger] at readable
    omega
  have digits : toString n = String.ofList (Nat.toDigits 10 n) := Nat.repr_eq_ofList_toDigits
  have typed : (op.symbol.text ++ toString n).toList = op.symbol.text.toList ++ Nat.toDigits 10 n := by
    rw [digits, String.toList_append, String.toList_ofList]
  have isDigit : ∀ c ∈ Nat.toDigits 10 n, c.isDigit := fun c => Nat.isDigit_of_mem_toDigits (by decide) (by decide)
  have onKeys : ∀ c ∈ (op.symbol.text ++ toString n).toList, OnKey c := by
    rw [typed]
    exact List.forall_mem_append.mpr ⟨onKey_of_mem_symbol typable, fun c inside => onKey_of_isDigit (isDigit c inside)⟩
  have inked : ∃ c ∈ (op.symbol.text ++ toString n).toList, Text.isBlank c = false := by
    obtain ⟨c, inside⟩ := List.exists_mem_of_ne_nil _ (Nat.toDigits_ne_nil : Nat.toDigits 10 n ≠ [])
    refine ⟨c, ?_, isBlank_of_isDigit (isDigit c inside)⟩
    rw [typed]
    exact List.mem_append_right _ inside
  have calculated : shown = _ := foldl_press_behind value onKeys inked
  rw [show (Number.integer v).text = toString v from rfl, ← String.append_assoc, digits, evaluate_continued fitsResult fits] at calculated
  constructor
  · intro regular
    rwa [if_neg fun both => regular.elim (absurd both.1) (Int.not_le.mpr both.2)] at calculated
  · rintro rfl negative
    rw [if_pos ⟨rfl, negative⟩] at calculated
    exact ⟨calculated, calculated ▸ showing_opposite_power n negative⟩

/-- The square of minus four is shown as minus sixteen. -/
theorem typing_continues_result_negative_square :
    let keys := [Label.zero, Label.sub, Label.four]
    let shown := (keys ++ [Label.equals] ++ [Label.mul, Label.mul, Label.two] ++ [Label.equals]).foldl Session.press {}
    evaluate (keys.foldl Session.press {}).expression = .ok (.integer (-4)) ∧ shown = ⟨"-16", "-16"⟩ ∧
      showing (apply .pow (.integer (-4)) (.integer 2)) = ⟨"16", "16"⟩ ∧
      shown ≠ showing (apply .pow (.integer (-4)) (.integer 2)) := by
  intro keys shown
  have value : evaluate (keys.foldl Session.press {}).expression = .ok (.integer (-4)) :=
    toOption_eq_some_iff.mp (by decide +kernel)
  have typed : keysFor (ArithmeticOp.pow.symbol.text ++ toString 2) = [.mul, .mul, .two] := by decide
  have typable : ArithmeticOp.pow ≠ .mod := by decide
  have continues := typing_continues_result (n := 2) value (by decide) typable (by decide)
  rw [typed] at continues
  obtain ⟨shows, differs⟩ := continues.2 rfl (by decide)
  exact ⟨value, shows.trans rfl, rfl, fun same => absurd (differs.mp same) (by decide)⟩

end GestureCalculator.Expression
