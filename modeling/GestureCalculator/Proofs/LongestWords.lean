import GestureCalculator.Proofs.NumberForms

/-!
The words that a text may begin with, said without saying how they are looked for. A number, a name and a symbol are the
longest of their forms at their place, a string ends at its first quote that is not escaped; what the scanner finds at a
place is exactly that.
-/
namespace GestureCalculator.Expression
open Text

/-! ### Forms of words -/

inductive Identifier : List Char → Prop
  | intro {c : Char} {rest : List Char} : beginsName c → (∀ d ∈ rest, continuesName d) → Identifier (c :: rest)

/-- What is written between two quotes, and what it stands for. -/
inductive Quotation (quote : Char) : List Char → List Char → Prop
  | none : Quotation quote [] []
  | plain {c : Char} {inside content : List Char} : c ∉ [quote, '\\', '\n'] → Quotation quote inside content →
      Quotation quote (c :: inside) (c :: content)
  | escaped {c : Char} {inside content : List Char} : Quotation quote inside content →
      Quotation quote ('\\' :: c :: inside) (c :: content)

/-- How a symbol is written. -/
def Spelling (cs : List Char) : Prop := ∃ symbol : Symbol, symbol.text.toList = cs

/-- Digits from 0 to 9 that begin with a zero and are not all zeros. -/
def LeadingZeros (cs : List Char) : Prop := (∀ c ∈ cs, c.isDigit) ∧ cs.head? = some '0' ∧ ∃ c ∈ cs, c ≠ '0'

/-- The word is spelled so where another text stands behind it. A text that begins with a number begins with no other word, not
    even if the number may not end there; of the other words no two begin with the same character. -/
inductive Found : Lexeme → List Char → List Char → Prop
  | number {spelled behind : List Char} : Longest Numeral spelled behind → ¬ LeadingZeros spelled →
      (∀ c ∈ behind.head?, isAlphanumeric c = false ∧ c ≠ '_') → Found (.number (String.ofList spelled)) spelled behind
  | name {spelled behind : List Char} : Absent Numeral (spelled ++ behind) → Longest Identifier spelled behind →
      Found (.name (String.ofList spelled)) spelled behind
  | quoted {quote : Char} {inside content behind : List Char} : quote ∈ ['\'', '"'] → Quotation quote inside content →
      Found (.quoted (String.ofList content)) (quote :: (inside ++ [quote])) behind
  | symbol {symbol : Symbol} {behind : List Char} : Absent Numeral (symbol.text.toList ++ behind) →
      Longest Spelling symbol.text.toList behind → Found (.symbol symbol) symbol.text.toList behind

/-! ### Names, strings and symbols -/

theorem namePart_cons (c : Char) (rest : List Char) :
    namePart (c :: rest) = if beginsName c then c :: rest.takeWhile continuesName else [] := rfl

theorem takesLongest_namePart : TakesLongest Identifier namePart where
  begins := by
    intro cs
    cases cs with
    | nil => exact List.nil_prefix
    | cons c rest =>
      rw [namePart_cons]
      split_ifs
      · exact (List.prefix_cons_inj c).mpr (List.takeWhile_prefix continuesName)
      · exact List.nil_prefix
  fits := by
    intro cs found
    cases cs with
    | nil => exact absurd rfl found
    | cons c rest =>
      rw [namePart_cons] at found ⊢
      split_ifs at found ⊢ with begins
      · exact .intro begins (List.all_eq_true.mp List.all_takeWhile)
      · exact absurd rfl found
  longest := by
    rintro _ behind ⟨begins, all⟩
    simp only [List.cons_append, namePart_cons, if_pos begins, List.takeWhile_append_of_pos all, List.length_cons,
      List.length_append]
    omega

theorem quotedPart_sound {quote : Char} {cs content : List Char} {size : Nat}
    (found : quotedPart quote cs = some (content, size)) :
    ∃ inside behind, cs = inside ++ quote :: behind ∧ Quotation quote inside content ∧ size = inside.length + 1 := by
  fun_induction quotedPart quote cs generalizing content size with
  | case1 => cases found
  | case2 c rest ih =>
    obtain ⟨⟨content, size⟩, read, same⟩ := Option.map_eq_some_iff.mp found
    obtain ⟨inside, behind, rfl, quotation, rfl⟩ := ih read
    cases same
    exact ⟨'\\' :: c :: inside, behind, rfl, .escaped quotation, rfl⟩
  | case3 rest _ =>
    cases found
    exact ⟨[], rest, rfl, .none, rfl⟩
  | case4 => cases found
  | case5 c rest _ other plain ih =>
    obtain ⟨⟨content, size⟩, read, same⟩ := Option.map_eq_some_iff.mp found
    obtain ⟨inside, behind, rfl, quotation, rfl⟩ := ih read
    cases same
    exact ⟨c :: inside, behind, rfl, .plain (by simp_all) quotation, rfl⟩

theorem quotedPart_complete {quote : Char} {inside content : List Char} (quotation : Quotation quote inside content)
    (plain : quote ≠ '\\') (behind : List Char) :
    quotedPart quote (inside ++ quote :: behind) = some (content, inside.length + 1) := by
  induction quotation with
  | none =>
    rw [List.nil_append, quotedPart.eq_3 _ _ _ (fun _ _ same => absurd same plain), if_pos rfl]
    rfl
  | @plain c inside content other _ ih =>
    simp only [List.mem_cons, List.not_mem_nil, or_false, not_or] at other
    rw [List.cons_append, quotedPart.eq_3 _ _ _ (fun _ _ same => absurd same other.2.1), if_neg other.1,
      if_neg (by simp [other]), ih]
    rfl
  | escaped _ ih =>
    rw [List.cons_append, List.cons_append, quotedPart, ih]
    rfl

theorem symbol_text_injective {symbol other : Symbol} (same : symbol.text.toList = other.text.toList) :
    symbol = other := by
  cases symbol <;> cases other <;> first | rfl | exact absurd same (by decide)

/-- The symbols stand in an order in which none is longer than one before it. -/
theorem symbols_descend : Symbol.all.Pairwise fun symbol other => other.text.toList.length ≤ symbol.text.toList.length := by
  decide

theorem mem_symbols (symbol : Symbol) : symbol ∈ Symbol.all := by
  cases symbol <;> decide

theorem longest_of_symbolPart? {cs : List Char} {symbol : Symbol} (found : symbolPart? cs = some symbol) :
    ∃ behind, cs = symbol.text.toList ++ behind ∧ Longest Spelling symbol.text.toList behind := by
  obtain ⟨begins, before, others, order, missed⟩ := List.find?_eq_some_iff_append.mp found
  obtain ⟨behind, rfl⟩ := List.isPrefixOf_iff_prefix.mp begins
  refine ⟨behind, rfl, ⟨symbol, rfl⟩, ?_⟩
  rintro _ begins' ⟨other, rfl⟩
  have descend := symbols_descend
  rw [order, List.pairwise_append] at descend
  have member := mem_symbols other
  rw [order] at member
  rcases List.mem_append.mp member with early | late
  · have absent := missed other early
    rw [List.isPrefixOf_iff_prefix.mpr begins'] at absent
    cases absent
  · rcases List.mem_cons.mp late with rfl | late
    · exact le_rfl
    · exact (List.pairwise_cons.mp descend.2.1).1 other late

theorem symbolPart?_of_longest {symbol : Symbol} {behind : List Char}
    (longest : Longest Spelling symbol.text.toList behind) :
    symbolPart? (symbol.text.toList ++ behind) = some symbol := by
  obtain none | ⟨other, found⟩ := Option.eq_none_or_eq_some (symbolPart? (symbol.text.toList ++ behind))
  · have absent := List.find?_eq_none.mp none symbol (mem_symbols symbol)
    simp at absent
  · obtain ⟨behind', same, longest'⟩ := longest_of_symbolPart? found
    have begins : other.text.toList <+: symbol.text.toList ++ behind := ⟨behind', same.symm⟩
    have le := longest.longest _ begins ⟨other, rfl⟩
    have ge := longest'.longest symbol.text.toList (same ▸ List.prefix_append _ _) ⟨symbol, rfl⟩
    have inside := List.prefix_of_prefix_length_le begins (List.prefix_append _ behind) le
    rw [found, symbol_text_injective (inside.eq_of_length_le ge)]

theorem symbols_short (symbol : Symbol) : symbol.text.toList.length ≤ 2 := by
  cases symbol <;> decide

theorem longest_identifier {spelled behind : List Char} (fits : Identifier spelled)
    (ends : ∀ c ∈ behind.head?, continuesName c = false) : Longest Identifier spelled behind := by
  obtain ⟨begins, all⟩ := fits
  refine takesLongest_namePart.longest_of_eq (by simp) ?_
  rw [List.cons_append, namePart_cons, if_pos begins, List.takeWhile_append_of_pos all]
  cases behind with
  | nil => simp
  | cons c behind => simp [ends c rfl]

theorem longest_spelling {symbol : Symbol} {behind : List Char} (ends : ∀ c ∈ behind.head?, ∀ other : Symbol,
    other.text.toList <+: symbol.text.toList ++ [c] → other.text.toList.length ≤ symbol.text.toList.length) :
    Longest Spelling symbol.text.toList behind := by
  refine ⟨⟨symbol, rfl⟩, ?_⟩
  rintro _ begins ⟨other, rfl⟩
  cases behind with
  | nil => simpa using begins.length_le
  | cons c behind =>
    -- No symbol has more than two characters, so a longer one goes on with one character only.
    by_contra longer
    have short := symbols_short other
    have filled : 0 < symbol.text.toList.length := by cases symbol <;> decide
    refine longer (ends c rfl other ?_)
    refine List.prefix_of_prefix_length_le begins ⟨behind, by simp⟩ ?_
    rw [List.length_append, List.length_singleton]
    omega

/-! ### The word at a place -/

theorem hasLeadingZero_iff (cs : List Char) : hasLeadingZero cs = true ↔ LeadingZeros cs := by
  simp [hasLeadingZero, LeadingZeros, and_assoc]

theorem not_numeral_nil : ¬ Numeral [] := fun fits => fits.ne_nil rfl

theorem not_identifier_nil : ¬ Identifier [] := nofun

theorem absent_numeral_symbol {symbol : Symbol} {behind : List Char} (ends : symbol = .dot → EndsDigits behind) :
    Absent Numeral (symbol.text.toList ++ behind) := by
  by_cases dot : symbol = .dot
  · have none : mantissaPart ('.' :: behind) = [] := mantissaPart_point digits_nil digits_nil (ends dot)
    rw [dot]
    refine (takesLongest_numberPart.eq_nil_iff not_numeral_nil).mp ?_
    exact if_pos none
  · obtain ⟨c, rest, spelling, digit, point⟩ :
        ∃ c rest, symbol.text.toList = c :: rest ∧ isDecimalDigit c = false ∧ c ≠ '.' := by
      cases symbol <;> first | exact absurd rfl dot | exact ⟨_, _, rfl, by decide⟩
    rw [spelling]
    exact absent_numeral digit point (rest ++ behind)

theorem Found.ne_nil {lexeme : Lexeme} {spelled behind : List Char} (found : Found lexeme spelled behind) :
    spelled ≠ [] := by
  cases found with
  | number longest _ _ => exact longest.fits.ne_nil
  | name _ longest =>
    rintro rfl
    exact not_identifier_nil longest.fits
  | quoted => simp
  | @symbol symbol _ _ => cases symbol <;> decide

/-- Numbers and names do not begin with a quote. -/
theorem absent_of_quote {quote : Char} (quotes : quote ∈ ['\'', '"']) (rest : List Char) :
    numberPart (quote :: rest) = [] ∧ namePart (quote :: rest) = [] := by
  simp only [List.mem_cons, List.not_mem_nil, or_false] at quotes
  rcases quotes with rfl | rfl
  · exact ⟨by simp [numberPart, mantissaPart, show isDecimalDigit '\'' = false by decide], rfl⟩
  · exact ⟨by simp [numberPart, mantissaPart, show isDecimalDigit '"' = false by decide], rfl⟩

theorem wordAt_sound {c : Char} {rest : List Char} {lexeme : Lexeme} {size : Nat}
    (word : wordAt c rest = .ok (lexeme, size)) :
    ∃ spelled behind, c :: rest = spelled ++ behind ∧ size = spelled.length ∧ Found lexeme spelled behind := by
  unfold wordAt at word
  dsimp only at word
  by_cases number : numberPart (c :: rest) = []
  · have absent := (takesLongest_numberPart.eq_nil_iff not_numeral_nil).mp number
    rw [if_neg (by simp [number])] at word
    by_cases name : namePart (c :: rest) = []
    · rw [if_neg (by simp [name])] at word
      split at word
      · next quotes =>
        split at word
        · next content size read =>
          obtain ⟨inside, behind, rfl, quotation, rfl⟩ := quotedPart_sound read
          cases word
          exact ⟨c :: (inside ++ [c]), behind, by simp, by simp, .quoted (by simpa using quotes) quotation⟩
        · cases word
      · split at word
        · next symbol read =>
          obtain ⟨behind, split, longest⟩ := longest_of_symbolPart? read
          cases word
          rw [split] at absent
          exact ⟨symbol.text.toList, behind, split, String.length_toList.symm, .symbol absent longest⟩
        · cases word
    · have split := List.prefix_iff_eq_append.mp (takesLongest_namePart.begins (c :: rest))
      have longest := takesLongest_namePart.longest_of_ne_nil name
      rw [if_pos name] at word
      cases word
      rw [← split] at absent
      exact ⟨_, _, split.symm, rfl, .name absent longest⟩
  · have split := List.prefix_iff_eq_append.mp (takesLongest_numberPart.begins (c :: rest))
    have longest := takesLongest_numberPart.longest_of_ne_nil number
    rw [if_pos number] at word
    split_ifs at word with zeros runsOn
    cases word
    refine ⟨_, _, split.symm, rfl, .number longest (fun leading => zeros ((hasLeadingZero_iff _).mpr leading)) ?_⟩
    intro next first
    simpa [Option.mem_def.mp first] using runsOn

/-- Symbols begin with characters that begin no names and no strings. -/
theorem symbol_text_begins (symbol : Symbol) : ∃ c rest, symbol.text.toList = c :: rest ∧ beginsName c = false ∧
    c ∉ ['\'', '"'] ∧ isBlank c = false := by
  cases symbol <;> exact ⟨_, _, rfl, by decide⟩

theorem wordAt_complete {c : Char} {rest spelled behind : List Char} {lexeme : Lexeme}
    (found : Found lexeme spelled behind) (split : c :: rest = spelled ++ behind) :
    wordAt c rest = .ok (lexeme, spelled.length) := by
  unfold wordAt
  dsimp only
  cases found with
  | number longest plain ends =>
    have cut := takesLongest_numberPart.eq_of_longest longest
    have runsOn : (behind.head?.any fun next => isAlphanumeric next || next == '_') = false := by
      cases behind with
      | nil => rfl
      | cons next behind => simpa using ends next rfl
    rw [split, cut, if_pos longest.fits.ne_nil, if_neg (fun zeros => plain ((hasLeadingZero_iff _).mp zeros)),
      List.drop_left, runsOn]
    rfl
  | name absent longest =>
    have number := (takesLongest_numberPart.eq_nil_iff not_numeral_nil).mpr absent
    have cut := takesLongest_namePart.eq_of_longest longest
    have filled : spelled ≠ [] := by
      rintro rfl
      exact not_identifier_nil longest.fits
    rw [split, number, if_neg (by simp), cut, if_pos filled]
  | @quoted quote inside content _ quotes quotation =>
    obtain ⟨rfl, rfl⟩ : c = quote ∧ rest = inside ++ quote :: behind := by simpa using split
    obtain ⟨number, name⟩ := absent_of_quote quotes (inside ++ c :: behind)
    have plain : c ≠ '\\' := by
      rintro rfl
      exact absurd quotes (by decide)
    rw [number, name, if_neg (by simp), if_neg (by simp), if_pos (by simpa using quotes),
      quotedPart_complete quotation plain]
    simp
  | @symbol symbol _ absent longest =>
    obtain ⟨first, others, spelling, letter, quote, _⟩ := symbol_text_begins symbol
    have number := (takesLongest_numberPart.eq_nil_iff not_numeral_nil).mpr absent
    have read := symbolPart?_of_longest longest
    rw [← split] at number read
    obtain rfl : c = first := by
      rw [spelling] at split
      exact (List.cons.inj split).1
    have name : namePart (c :: rest) = [] := by
      rw [namePart_cons, if_neg (by simp [letter])]
    rw [number, name, if_neg (by simp), if_neg (by simp), if_neg (by simpa using quote), read,
      String.length_toList]

theorem wordAt_ok_iff {c : Char} {rest spelled behind : List Char} {lexeme : Lexeme} (split : c :: rest = spelled ++ behind) :
    wordAt c rest = .ok (lexeme, spelled.length) ↔ Found lexeme spelled behind := by
  constructor
  · intro word
    obtain ⟨spelled', behind', split', size, found⟩ := wordAt_sound word
    obtain ⟨rfl, rfl⟩ := List.append_inj (split'.symm.trans split) size.symm
    exact found
  · exact fun found => wordAt_complete found split

end GestureCalculator.Expression
