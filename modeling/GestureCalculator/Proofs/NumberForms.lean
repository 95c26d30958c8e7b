import GestureCalculator.Expression.Scan
import Mathlib.Tactic

/-!
Numbers at the head of a text, said without saying how they are looked for: digits with a point or without one, and an exponent
if it is complete. What the scanner takes is the longest text of this form.
-/
namespace GestureCalculator.Expression
open Text

/-! ### Longest parts -/

/-- The text is the longest of a form where another one stands behind it. -/
structure Longest (form : List Char → Prop) (spelled behind : List Char) : Prop where
  fits : form spelled
  longest : ∀ other, other <+: spelled ++ behind → form other → other.length ≤ spelled.length

def Absent (form : List Char → Prop) (cs : List Char) : Prop := ∀ part, part <+: cs → ¬ form part

theorem Longest.not_snoc {form : List Char → Prop} {spelled behind : List Char} {c : Char}
    (longest : Longest form spelled behind) (first : behind.head? = some c) : ¬ form (spelled ++ [c]) := by
  intro fits
  obtain ⟨rest, rfl⟩ := List.head?_eq_some_iff.mp first
  have short := longest.longest (spelled ++ [c]) ⟨rest, by simp⟩ fits
  simp at short

/-- A function takes the longest text of a form from the head of another, or nothing if there is none. -/
structure TakesLongest (form : List Char → Prop) (part : List Char → List Char) : Prop where
  begins : ∀ cs, part cs <+: cs
  fits : ∀ cs, part cs ≠ [] → form (part cs)
  longest : ∀ other behind, form other → other.length ≤ (part (other ++ behind)).length

section
variable {form : List Char → Prop} {part : List Char → List Char} (takes : TakesLongest form part)
include takes

theorem TakesLongest.eq_of_longest {spelled behind : List Char} (longest : Longest form spelled behind) :
    part (spelled ++ behind) = spelled := by
  have least := takes.longest spelled behind longest.fits
  have short : (part (spelled ++ behind)).length ≤ spelled.length := by
    by_cases empty : part (spelled ++ behind) = []
    · simp [empty]
    · exact longest.longest _ (takes.begins _) (takes.fits _ empty)
  have inside := List.prefix_of_prefix_length_le (takes.begins _) (List.prefix_append spelled behind) short
  exact inside.eq_of_length_le least

theorem TakesLongest.longest_of_ne_nil {cs : List Char} (found : part cs ≠ []) :
    Longest form (part cs) (cs.drop (part cs).length) where
  fits := takes.fits cs found
  longest := by
    intro other begins fits
    rw [List.prefix_iff_eq_append.mp (takes.begins cs)] at begins
    obtain ⟨behind, rfl⟩ := begins
    exact takes.longest other behind fits

theorem TakesLongest.longest_of_eq {spelled behind : List Char} (filled : spelled ≠ [])
    (cut : part (spelled ++ behind) = spelled) : Longest form spelled behind := by
  have longest := @TakesLongest.longest_of_ne_nil _ _ takes (spelled ++ behind) (by rwa [cut])
  rwa [cut, List.drop_left] at longest

theorem TakesLongest.eq_nil_iff (filled : ¬ form []) {cs : List Char} : part cs = [] ↔ Absent form cs := by
  constructor
  · rintro empty other ⟨behind, rfl⟩ fits
    have least := takes.longest other behind fits
    rw [empty, List.length_nil, Nat.le_zero, List.length_eq_zero_iff] at least
    exact filled (least ▸ fits)
  · intro absent
    by_contra found
    exact absent _ (takes.begins cs) (takes.fits cs found)

end

/-! ### Forms of numbers -/

def Digits (cs : List Char) : Prop := ∀ c ∈ cs, isDecimalDigit c

/-- Digits, with a point among them, behind them or before them. -/
inductive Mantissa : List Char → Prop
  | whole {digits : List Char} : digits ≠ [] → Digits digits → Mantissa digits
  | pointed {whole fraction : List Char} : whole ≠ [] → Digits whole → Digits fraction →
      Mantissa (whole ++ '.' :: fraction)
  | bare {fraction : List Char} : fraction ≠ [] → Digits fraction → Mantissa ('.' :: fraction)

inductive Exponent : List Char → Prop
  | intro {mark : Char} {sign digits : List Char} : mark ∈ ['e', 'E'] → sign ∈ [[], ['+'], ['-']] → digits ≠ [] →
      Digits digits → Exponent (mark :: (sign ++ digits))

inductive Numeral : List Char → Prop
  | plain {mantissa : List Char} : Mantissa mantissa → Numeral mantissa
  | scaled {mantissa exponent : List Char} : Mantissa mantissa → Exponent exponent → Numeral (mantissa ++ exponent)

/-! ### Numbers -/

/-- No digit stands at the head. -/
def EndsDigits (rest : List Char) : Prop := ∀ c ∈ rest.head?, isDecimalDigit c = false

theorem digits_nil : Digits [] := by simp [Digits]

theorem takeWhile_digits {digits rest : List Char} (all : Digits digits) (ends : EndsDigits rest) :
    (digits ++ rest).takeWhile isDecimalDigit = digits := by
  rw [List.takeWhile_append_of_pos all]
  cases rest with
  | nil => simp
  | cons c rest => simp [ends c rfl]

theorem exists_digits (cs : List Char) : ∃ digits rest, cs = digits ++ rest ∧ Digits digits ∧ EndsDigits rest := by
  refine ⟨cs.takeWhile isDecimalDigit, cs.dropWhile isDecimalDigit, ?_, ?_, ?_⟩
  · exact List.takeWhile_append_dropWhile.symm
  · exact List.all_eq_true.mp List.all_takeWhile
  · intro c first
    have stopped := List.head?_dropWhile_not isDecimalDigit cs
    rw [Option.mem_def.mp first] at stopped
    exact stopped

theorem endsDigits_point (rest : List Char) : EndsDigits ('.' :: rest) := by
  rintro _ ⟨⟩
  decide

theorem mantissaPart_whole {digits rest : List Char} (all : Digits digits) (ends : EndsDigits rest)
    (plain : rest.head? ≠ some '.') : mantissaPart (digits ++ rest) = digits := by
  simp only [mantissaPart, takeWhile_digits all ends, List.drop_left]
  split
  · exact absurd rfl plain
  · rfl

theorem mantissaPart_point {whole fraction rest : List Char} (all : Digits whole) (all' : Digits fraction)
    (ends : EndsDigits rest) : mantissaPart (whole ++ '.' :: (fraction ++ rest)) =
      if whole = [] ∧ fraction = [] then [] else whole ++ '.' :: fraction := by
  simp only [mantissaPart, takeWhile_digits all (endsDigits_point _), List.drop_left, takeWhile_digits all' ends]

/-- What stands at the head of a text, as far as numbers look. -/
theorem mantissa_cases (cs : List Char) :
    (∃ digits rest, cs = digits ++ rest ∧ Digits digits ∧ EndsDigits rest ∧ rest.head? ≠ some '.') ∨
    ∃ whole fraction rest, cs = whole ++ '.' :: (fraction ++ rest) ∧ Digits whole ∧ Digits fraction ∧
      EndsDigits rest := by
  obtain ⟨whole, behind, rfl, all, ends⟩ := exists_digits cs
  by_cases point : behind.head? = some '.'
  · obtain ⟨behind, rfl⟩ := List.head?_eq_some_iff.mp point
    obtain ⟨fraction, rest, rfl, all', ends'⟩ := exists_digits behind
    exact .inr ⟨whole, fraction, rest, rfl, all, all', ends'⟩
  · exact .inl ⟨whole, behind, rfl, all, ends, point⟩

theorem mantissaPart_begins (cs : List Char) : mantissaPart cs <+: cs := by
  obtain ⟨digits, rest, rfl, all, ends, plain⟩ | ⟨whole, fraction, rest, rfl, all, all', ends⟩ := mantissa_cases cs
  · rw [mantissaPart_whole all ends plain]
    exact List.prefix_append digits rest
  · rw [mantissaPart_point all all' ends]
    split_ifs
    · exact List.nil_prefix
    · exact ⟨rest, by simp⟩

theorem mantissa_mantissaPart {cs : List Char} (found : mantissaPart cs ≠ []) : Mantissa (mantissaPart cs) := by
  obtain ⟨digits, rest, rfl, all, ends, plain⟩ | ⟨whole, fraction, rest, rfl, all, all', ends⟩ := mantissa_cases cs
  · rw [mantissaPart_whole all ends plain] at found ⊢
    exact .whole found all
  · rw [mantissaPart_point all all' ends] at found ⊢
    split_ifs at found ⊢ with none
    · exact absurd rfl found
    · by_cases empty : whole = []
      · subst empty
        exact .bare (fun empty => none ⟨rfl, empty⟩) all'
      · exact .pointed empty all all'

/-- Nothing goes on with a mantissa behind it: no digit, and no point unless it has one. -/
theorem mantissaPart_append {mantissa rest : List Char} (fits : Mantissa mantissa) (ends : EndsDigits rest)
    (point : rest.head? = some '.' → ¬ Digits mantissa) : mantissaPart (mantissa ++ rest) = mantissa := by
  cases fits with
  | whole filled all => exact mantissaPart_whole all ends fun found => point found all
  | @pointed whole fraction filled all all' =>
    rw [List.append_assoc, List.cons_append, mantissaPart_point all all' ends, if_neg (fun none => filled none.1)]
  | @bare fraction filled all =>
    have cut := mantissaPart_point digits_nil all ends
    rwa [if_neg (fun none => filled none.2)] at cut

theorem length_le_mantissaPart {mantissa : List Char} (fits : Mantissa mantissa) (behind : List Char) :
    mantissa.length ≤ (mantissaPart (mantissa ++ behind)).length := by
  obtain ⟨more, rest, rfl, moreDigits, ends⟩ := exists_digits behind
  have joined {digits : List Char} (all : Digits digits) : Digits (digits ++ more) := by
    intro c inside
    exact (List.mem_append.mp inside).elim (all c) (moreDigits c)
  cases fits with
  | whole filled all =>
    by_cases point : rest.head? = some '.'
    · obtain ⟨behind, rfl⟩ := List.head?_eq_some_iff.mp point
      obtain ⟨fraction, rest, rfl, all', ends'⟩ := exists_digits behind
      rw [← List.append_assoc, mantissaPart_point (joined all) all' ends', if_neg (by simp [filled])]
      simp
    · rw [← List.append_assoc, mantissaPart_whole (joined all) ends point]
      simp
  | @pointed whole fraction filled all all' =>
    rw [List.append_assoc, List.cons_append, ← List.append_assoc fraction,
      mantissaPart_point all (joined all') ends, if_neg (by simp [filled])]
    simp
  | @bare fraction filled all =>
    have cut := mantissaPart_point digits_nil (joined all) ends
    rw [if_neg (by simp [filled])] at cut
    simp only [List.nil_append, List.append_assoc] at cut
    simp [cut]

theorem exponentPart_of_plain {rest : List Char} (plain : ∀ c ∈ rest.head?, c ∉ ['e', 'E']) : exponentPart rest = [] := by
  cases rest with
  | nil => rfl
  | cons c rest =>
    have other := plain c rfl
    simp only [List.mem_cons, List.not_mem_nil, or_false] at other
    simp [exponentPart, other]

theorem leadingSign_append {sign digits rest : List Char} (spelled : sign ∈ [[], ['+'], ['-']]) (all : Digits digits)
    (filled : digits ≠ []) : leadingSign (sign ++ (digits ++ rest)) = sign := by
  simp only [List.mem_cons, List.not_mem_nil, or_false] at spelled
  rcases spelled with rfl | rfl | rfl
  · obtain ⟨c, digits, rfl⟩ := List.exists_cons_of_ne_nil filled
    have digit := all c List.mem_cons_self
    unfold leadingSign
    split
    · next same =>
      obtain rfl : c = '+' := (List.cons.inj same).1
      exact absurd digit (by decide)
    · next same =>
      obtain rfl : c = '-' := (List.cons.inj same).1
      exact absurd digit (by decide)
    · rfl
  · rfl
  · rfl

theorem exponentPart_append {exponent rest : List Char} (fits : Exponent exponent) (ends : EndsDigits rest) :
    exponentPart (exponent ++ rest) = exponent := by
  obtain ⟨marks, spelled, filled, all⟩ := fits
  next mark sign digits =>
  simp only [List.mem_cons, List.not_mem_nil, or_false] at marks
  have signed : leadingSign (sign ++ (digits ++ rest)) = sign := leadingSign_append spelled all filled
  simp only [List.cons_append, List.append_assoc, exponentPart, if_pos marks, signed, List.drop_left,
    takeWhile_digits all ends, if_neg filled]

theorem exists_sign (cs : List Char) :
    ∃ sign rest, cs = sign ++ rest ∧ sign ∈ [[], ['+'], ['-']] ∧ leadingSign cs = sign := by
  unfold leadingSign
  split
  · next rest => exact ⟨['+'], rest, rfl, by simp, rfl⟩
  · next rest => exact ⟨['-'], rest, rfl, by simp, rfl⟩
  · exact ⟨[], _, rfl, by simp, rfl⟩

theorem exponent_cases (cs : List Char) :
    exponentPart cs = [] ∨ ∃ exponent rest, cs = exponent ++ rest ∧ Exponent exponent ∧ EndsDigits rest := by
  cases cs with
  | nil => exact .inl rfl
  | cons mark rest =>
    by_cases marks : mark = 'e' ∨ mark = 'E'
    · obtain ⟨sign, behind, rfl, spelled, signed⟩ := exists_sign rest
      obtain ⟨digits, rest, rfl, all, ends⟩ := exists_digits behind
      by_cases empty : digits = []
      · left
        simp only [exponentPart, if_pos marks, signed, List.drop_left, takeWhile_digits all ends, if_pos empty]
      · exact .inr ⟨mark :: (sign ++ digits), rest, by simp, .intro (by simpa using marks) spelled empty all, ends⟩
    · exact .inl (if_neg marks)

theorem exponentPart_begins (cs : List Char) : exponentPart cs <+: cs := by
  obtain none | ⟨exponent, rest, rfl, fits, ends⟩ := exponent_cases cs
  · rw [none]
    exact List.nil_prefix
  · rw [exponentPart_append fits ends]
    exact List.prefix_append exponent rest

theorem exponent_exponentPart {cs : List Char} (found : exponentPart cs ≠ []) : Exponent (exponentPart cs) := by
  obtain none | ⟨exponent, rest, rfl, fits, ends⟩ := exponent_cases cs
  · exact absurd none found
  · rwa [exponentPart_append fits ends]

theorem Mantissa.ne_nil {mantissa : List Char} (fits : Mantissa mantissa) : mantissa ≠ [] := by
  cases fits with
  | whole filled _ => exact filled
  | pointed => simp
  | bare => simp

theorem Numeral.ne_nil {numeral : List Char} (fits : Numeral numeral) : numeral ≠ [] := by
  cases fits with
  | plain fits => exact fits.ne_nil
  | scaled fits _ => simp [fits.ne_nil]

theorem Numeral.begins {numeral : List Char} (fits : Numeral numeral) :
    ∃ c rest, numeral = c :: rest ∧ (isDecimalDigit c ∨ c = '.') := by
  have begins {mantissa : List Char} (fits : Mantissa mantissa) :
      ∃ c rest, mantissa = c :: rest ∧ (isDecimalDigit c ∨ c = '.') := by
    cases fits with
    | whole filled all =>
      obtain ⟨c, rest, rfl⟩ := List.exists_cons_of_ne_nil filled
      exact ⟨c, rest, rfl, .inl (all c List.mem_cons_self)⟩
    | pointed filled all _ =>
      obtain ⟨c, rest, rfl⟩ := List.exists_cons_of_ne_nil filled
      exact ⟨c, _, rfl, .inl (all c List.mem_cons_self)⟩
    | bare => exact ⟨'.', _, rfl, .inr rfl⟩
  cases fits with
  | plain fits => exact begins fits
  | scaled fits _ =>
    obtain ⟨c, rest, rfl, first⟩ := begins fits
    exact ⟨c, _, rfl, first⟩

theorem numberPart_eq (cs : List Char) : numberPart cs =
    if mantissaPart cs = [] then [] else mantissaPart cs ++ exponentPart (cs.drop (mantissaPart cs).length) := rfl

theorem numberPart_append {mantissa behind : List Char} (fits : Mantissa mantissa)
    (cut : mantissaPart (mantissa ++ behind) = mantissa) :
    numberPart (mantissa ++ behind) = mantissa ++ exponentPart behind := by
  rw [numberPart_eq, cut, if_neg fits.ne_nil, List.drop_left]

/-- A mark of an exponent goes on with no mantissa. -/
theorem Exponent.ends {exponent : List Char} (fits : Exponent exponent) (behind : List Char) :
    EndsDigits (exponent ++ behind) ∧ (exponent ++ behind).head? ≠ some '.' := by
  obtain ⟨marks, _, _, _⟩ := fits
  simp only [List.mem_cons, List.not_mem_nil, or_false] at marks
  rcases marks with rfl | rfl
  · exact ⟨by rintro _ ⟨⟩; decide, by simp⟩
  · exact ⟨by rintro _ ⟨⟩; decide, by simp⟩

theorem numberPart_scaled {mantissa exponent : List Char} (fits : Mantissa mantissa) (fits' : Exponent exponent)
    (behind : List Char) :
    numberPart (mantissa ++ exponent ++ behind) = mantissa ++ exponentPart (exponent ++ behind) := by
  obtain ⟨ends, plain⟩ := fits'.ends behind
  rw [List.append_assoc]
  exact numberPart_append fits (mantissaPart_append fits ends fun point => absurd point plain)

theorem length_le_exponentPart {exponent : List Char} (fits : Exponent exponent) (behind : List Char) :
    exponent.length ≤ (exponentPart (exponent ++ behind)).length := by
  obtain ⟨more, rest, rfl, moreDigits, ends⟩ := exists_digits behind
  obtain ⟨marks, spelled, filled, all⟩ := fits
  next mark sign digits =>
  have longer : Exponent (mark :: (sign ++ (digits ++ more))) := by
    refine .intro marks spelled (by simp [filled]) fun c inside => ?_
    exact (List.mem_append.mp inside).elim (all c) (moreDigits c)
  have cut := exponentPart_append longer ends
  simp only [List.cons_append, List.append_assoc] at cut ⊢
  rw [cut]
  simp

theorem takesLongest_numberPart : TakesLongest Numeral numberPart where
  begins := by
    intro cs
    rw [numberPart_eq]
    split_ifs
    · exact List.nil_prefix
    · obtain ⟨behind, split⟩ := mantissaPart_begins cs
      generalize mantissaPart cs = mantissa at *
      rw [← split, List.drop_left]
      exact (List.prefix_append_right_inj mantissa).mpr (exponentPart_begins behind)
  fits := by
    intro cs found
    rw [numberPart_eq] at found ⊢
    split_ifs at found ⊢ with none
    · exact absurd rfl found
    · have fits := mantissa_mantissaPart none
      by_cases plain : exponentPart (cs.drop (mantissaPart cs).length) = []
      · rw [plain, List.append_nil]
        exact .plain fits
      · exact .scaled fits (exponent_exponentPart plain)
  longest := by
    intro other behind fits
    cases fits with
    | plain fits =>
      have least := length_le_mantissaPart fits behind
      rw [numberPart_eq]
      split_ifs with none
      · simpa [none] using least
      · simp; omega
    | scaled fits fits' =>
      have least := length_le_exponentPart fits' behind
      rw [numberPart_scaled fits fits']
      simpa using least

theorem Digits.snoc {digits : List Char} {c : Char} (all : Digits digits) (digit : isDecimalDigit c) :
    Digits (digits ++ [c]) := by
  intro d inside
  rcases List.mem_append.mp inside with inside | inside
  · exact all d inside
  · obtain rfl := List.mem_singleton.mp inside
    exact digit

theorem Mantissa.snoc {mantissa : List Char} {c : Char} (fits : Mantissa mantissa) (digit : isDecimalDigit c) :
    Mantissa (mantissa ++ [c]) := by
  cases fits with
  | whole filled all => exact .whole (by simp) (all.snoc digit)
  | pointed filled all all' =>
    rw [List.append_assoc]
    exact .pointed filled all (all'.snoc digit)
  | bare filled all => exact .bare (by simp) (all.snoc digit)

theorem Numeral.snoc {numeral : List Char} {c : Char} (fits : Numeral numeral) (digit : isDecimalDigit c) :
    Numeral (numeral ++ [c]) := by
  cases fits with
  | plain fits => exact .plain (fits.snoc digit)
  | scaled fits fits' =>
    obtain ⟨marks, signs, filled, all⟩ := fits'
    rw [List.append_assoc, List.cons_append, List.append_assoc]
    exact .scaled fits (.intro marks signs (by simp) (all.snoc digit))

theorem numeral_of_digit {c : Char} (digit : isDecimalDigit c) : Numeral [c] :=
  .plain (.whole (by simp) (by simpa [Digits] using digit))

theorem absent_numeral {c : Char} (digit : isDecimalDigit c = false) (point : c ≠ '.') (rest : List Char) :
    Absent Numeral (c :: rest) := by
  intro part begins fits
  obtain ⟨d, more, rfl, first⟩ := fits.begins
  obtain rfl : d = c := (List.cons_prefix_cons.mp begins).1
  rcases first with first | first
  · rw [digit] at first
    cases first
  · exact point first

theorem longest_numeral {spelled behind : List Char} (fits : Numeral spelled) (ends : EndsDigits behind)
    (point : behind.head? = some '.' → ¬ Digits spelled) (mark : ∀ c ∈ behind.head?, c ∉ ['e', 'E']) :
    Longest Numeral spelled behind := by
  refine takesLongest_numberPart.longest_of_eq fits.ne_nil ?_
  cases fits with
  | plain fits =>
    rw [numberPart_append fits (mantissaPart_append fits ends point), exponentPart_of_plain mark, List.append_nil]
  | scaled fits fits' => rw [numberPart_scaled fits fits', exponentPart_append fits' ends]

end GestureCalculator.Expression
