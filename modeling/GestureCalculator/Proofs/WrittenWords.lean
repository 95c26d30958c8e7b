import GestureCalculator.Proofs.ShownResults

/-!
Words written one directly behind the other. Numbers and the symbols of arithmetic are found again in what is
written, as long as no two of them that stand side by side make a longer word.
-/
namespace GestureCalculator.Expression
open Text

/-- The characters of a word; those of a string stand between its quotes. -/
def Lexeme.characters : Lexeme → List Char
  | .number text | .quoted text | .name text => text.toList
  | .symbol found => found.text.toList

def written (words : List Lexeme) : List Char := words.flatMap Lexeme.characters

/-- The symbols of arithmetic: operators, signs and parentheses. -/
def arithmeticSymbols : List Symbol :=
  [.power, .floorDivide, .plus, .minus, .times, .divide, .modulo, .openParen, .closeParen]

/-- The words of arithmetic. -/
inductive Arithmetic : Lexeme → Prop
  | number {text : String} : Shown text.toList → Arithmetic (.number text)
  | symbol {symbol : Symbol} : symbol ∈ arithmeticSymbols → Arithmetic (.symbol symbol)

/-- The second word can stand directly behind the first, which does not become longer by that. -/
def Apart : Lexeme → Lexeme → Prop
  | .number _, next => ∃ symbol, next = .symbol symbol
  | .symbol .times, next => next ∉ [.symbol .times, .symbol .power]
  | .symbol .divide, next => next ∉ [.symbol .divide, .symbol .floorDivide]
  | _, _ => True

/-! ### One word -/

/-- The characters that the symbols of arithmetic begin with. -/
def symbolChars : List Char := ['+', '-', '*', '/', '%', '(', ')']

theorem symbol_begins {symbol : Symbol} (member : symbol ∈ arithmeticSymbols) :
    ∃ c rest, symbol.text.toList = c :: rest ∧ c ∈ symbolChars := by
  simp only [arithmeticSymbols, List.mem_cons, List.not_mem_nil, or_false] at member
  rcases member with rfl | rfl | rfl | rfl | rfl | rfl | rfl | rfl | rfl <;> exact ⟨_, _, rfl, by decide⟩

/-- The characters of symbols begin no other words and go on with none. -/
theorem plain_of_mem_symbolChars {c : Char} (member : c ∈ symbolChars) : c.toNat < 0x30 ∧ isBlank c = false ∧
    beginsName c = false ∧ c ∉ ['.', 'e', 'E', '_'] ∧ c ∉ ['\'', '"'] := by
  simp only [symbolChars, List.mem_cons, List.not_mem_nil, or_false] at member
  rcases member with rfl | rfl | rfl | rfl | rfl | rfl | rfl <;> decide

theorem isAlphanumeric_of_lt {c : Char} (below : c.toNat < 0x30) : isAlphanumeric c = false := by
  rw [isAlphanumeric, alphanumericRanges, inRanges, if_pos below]

theorem isDecimalDigit_of_lt {c : Char} (below : c.toNat < 0x30) : isDecimalDigit c = false := by
  rw [isDecimalDigit, decimalDigitRanges, inRanges, if_pos below]

theorem endsNumber_of_symbol {symbol : Symbol} (member : symbol ∈ arithmeticSymbols) (rest : List Char) :
    EndsNumber (symbol.text.toList ++ rest) := by
  obtain ⟨c, tail, spelled, among⟩ := symbol_begins member
  obtain ⟨below, _, _, other, _⟩ := plain_of_mem_symbolChars among
  rw [spelled]
  rintro _ ⟨⟩
  exact ⟨isDecimalDigit_of_lt below, isAlphanumeric_of_lt below, other⟩

theorem symbolPart?_of_apart {symbol : Symbol} (member : symbol ∈ arithmeticSymbols) {rest : List Char}
    (times : symbol = .times → rest.head? ≠ some '*') (divide : symbol = .divide → rest.head? ≠ some '/') :
    symbolPart? (symbol.text.toList ++ rest) = some symbol := by
  simp only [arithmeticSymbols, List.mem_cons, List.not_mem_nil, or_false] at member
  rcases member with rfl | rfl | rfl | rfl | rfl | rfl | rfl | rfl | rfl
  case inr.inr.inr.inr.inl =>
    cases rest with
    | nil => rfl
    | cons c rest =>
      have other : '*' ≠ c := fun same => times rfl (by rw [← same]; rfl)
      simp [symbolPart?, Symbol.all, Symbol.text, other]
  case inr.inr.inr.inr.inr.inl =>
    cases rest with
    | nil => rfl
    | cons c rest =>
      have other : '/' ≠ c := fun same => divide rfl (by rw [← same]; rfl)
      simp [symbolPart?, Symbol.all, Symbol.text, other]
  all_goals rfl

theorem wordAt_symbolChar {c : Char} (member : c ∈ symbolChars) {rest : List Char} {symbol : Symbol}
    (found : symbolPart? (c :: rest) = some symbol) : wordAt c rest = .ok (.symbol symbol, symbol.text.length) := by
  obtain ⟨below, _, letter, point, quote⟩ := plain_of_mem_symbolChars member
  simp only [List.mem_cons, List.not_mem_nil, or_false, not_or] at point quote
  have number : numberPart (c :: rest) = [] := by
    simp [numberPart, mantissaPart, isDecimalDigit_of_lt below, point]
  have name : namePart (c :: rest) = [] := by
    simp [namePart, letter]
  simp [wordAt, number, name, quote, found]

/-- Only these words begin with an asterisk, and only these with a slash. -/
theorem Arithmetic.eq_of_begins {word : Lexeme} (arithmetic : Arithmetic word) :
    (word.characters.head? = some '*' → word ∈ [.symbol .times, .symbol .power]) ∧
      (word.characters.head? = some '/' → word ∈ [.symbol .divide, .symbol .floorDivide]) := by
  cases arithmetic with
  | @number text shown =>
    obtain ⟨c, rest, spelled, digit⟩ := shown.begins
    simp only [Lexeme.characters, spelled, List.head?_cons, Option.some.injEq]
    constructor <;> rintro rfl <;> cases digit
  | symbol member =>
    simp only [arithmeticSymbols, List.mem_cons, List.not_mem_nil, or_false] at member
    rcases member with rfl | rfl | rfl | rfl | rfl | rfl | rfl | rfl | rfl <;> decide

theorem Arithmetic.characters_ne_nil {word : Lexeme} (arithmetic : Arithmetic word) : word.characters ≠ [] := by
  cases arithmetic with
  | number shown =>
    obtain ⟨c, rest, spelled, _⟩ := shown.begins
    simp [Lexeme.characters, spelled]
  | symbol member =>
    obtain ⟨c, rest, spelled, _⟩ := symbol_begins member
    simp [Lexeme.characters, spelled]

theorem head?_written {words : List Lexeme} (all : ∀ word ∈ words, Arithmetic word) :
    (written words).head? = words.head?.bind fun word => word.characters.head? := by
  cases words with
  | nil => rfl
  | cons word words => exact List.head?_append_of_ne_nil _ (all word List.mem_cons_self).characters_ne_nil

/-- A word of arithmetic is found again where words stand behind it that are apart from it. -/
theorem wordAt_written {word : Lexeme} {words : List Lexeme} (chain : (word :: words).IsChain Apart)
    (all : ∀ other ∈ word :: words, Arithmetic other) :
    ∃ c rest, written (word :: words) = c :: rest ∧ isBlank c = false ∧
      wordAt c rest = .ok (word, word.characters.length) := by
  obtain ⟨arithmetic, behind⟩ := List.forall_mem_cons.mp all
  have apart : ∀ next ∈ words.head?, Apart word next := (List.isChain_cons.mp chain).1
  cases arithmetic with
  | @number text shown =>
    obtain ⟨c, rest, spelled, digit⟩ := shown.begins
    have ends : EndsNumber (written words) := by
      cases words with
      | nil => exact endsNumber_nil
      | cons next words =>
        obtain ⟨symbol, rfl⟩ := apart next rfl
        cases behind _ List.mem_cons_self with
        | symbol member => exact endsNumber_of_symbol member (written words)
    refine ⟨c, rest ++ written words, by simp [written, Lexeme.characters, spelled], isBlank_of_isDigit digit, ?_⟩
    rw [spelled] at shown
    rw [wordAt_of_shown shown ends, ← spelled, String.ofList_toList]
    rfl
  | @symbol symbol member =>
    obtain ⟨c, rest, spelled, among⟩ := symbol_begins member
    refine ⟨c, rest ++ written words, by simp [written, Lexeme.characters, spelled],
      (plain_of_mem_symbolChars among).2.1, ?_⟩
    have found : symbolPart? (symbol.text.toList ++ written words) = some symbol := by
      refine symbolPart?_of_apart member ?_ ?_ <;> rintro rfl begins <;> rw [head?_written behind] at begins <;>
        obtain ⟨next, first, begins⟩ := Option.bind_eq_some_iff.mp begins
      · exact apart next first ((behind next (List.mem_of_head? first)).eq_of_begins.1 begins)
      · exact apart next first ((behind next (List.mem_of_head? first)).eq_of_begins.2 begins)
    rw [spelled, List.cons_append] at found
    rw [wordAt_symbolChar among found]
    rfl

/-! ### All words -/

/-- Words of arithmetic that are apart from each other are the words of what is written, if there are no more than
    allowed. -/
theorem tokensFrom_written {words : List Lexeme} (chain : words.IsChain Apart)
    (all : ∀ word ∈ words, Arithmetic word) :
    ∀ {allowed offset : Nat}, words.length ≤ allowed →
      ∃ tokens, tokensFrom allowed offset (written words) = .ok tokens ∧ tokens.map Token.lexeme = words := by
  induction words with
  | nil =>
    intro allowed offset _
    exact ⟨[], tokensFrom_nil allowed offset, rfl⟩
  | cons word words ih =>
    rintro (_ | allowed) offset short
    · simp at short
    · obtain ⟨c, rest, spelled, inked, found⟩ := wordAt_written chain all
      have left : (c :: rest).drop word.characters.length = written words := by
        rw [← spelled]
        exact List.drop_left' rfl
      obtain ⟨tokens, behind, lexemes⟩ := ih (List.isChain_cons.mp chain).2 (List.forall_mem_cons.mp all).2
        (Nat.le_of_succ_le_succ short)
      rw [spelled]
      refine ⟨_, tokensFrom_cons inked found (left ▸ behind), ?_⟩
      simp [lexemes]

/-- What the grammar makes of words of arithmetic that are apart from each other is the tree of what is written. -/
theorem parse_written {words : List Lexeme} {tree : Tree} (chain : words.IsChain Apart)
    (all : ∀ word ∈ words, Arithmetic word) (short : words.length ≤ maxTokens)
    (derives : Derives maxDepth .disjunction words tree) : parse (String.ofList (written words)) = .ok tree := by
  obtain ⟨tokens, scanned, lexemes⟩ := tokensFrom_written chain all short
  rw [← String.toList_ofList (l := written words)] at scanned
  exact parse_ok_iff.mpr ⟨tokens, scanned, lexemes ▸ derives⟩

end GestureCalculator.Expression
