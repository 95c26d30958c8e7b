import GestureCalculator.Calculator.Overlay
import GestureCalculator.Proofs.Refusals

/-!
The texts of a session, after any presses. The expression is made of digits, operators and points, whether they were
typed or come from a result, so that nothing in it is refused: it is malformed, or it fails in its arithmetic, or it
has a value. An error is shown as long as the evaluation that failed was the last one and nothing was cleared since.
-/
namespace GestureCalculator.Expression
open Binary64 Text Keypad

/-- The characters of calculations: digits from 0 to 9, the operators on the keypad, and the point. -/
def InCalculation (c : Char) : Prop := c.isDigit ∨ c ∈ ['+', '-', '*', '/', '.']

instance (c : Char) : Decidable (InCalculation c) := inferInstanceAs (Decidable (_ ∨ _))

/-- The symbols that are made of such characters. -/
def calculationSymbols : List Symbol := [.power, .floorDivide, .plus, .minus, .times, .divide, .dot]

/-- The words that are made of such characters. -/
def Lexeme.Calculates : Lexeme → Prop
  | .number _ => True
  | .symbol found => found ∈ calculationSymbols
  | _ => False

/-! ### What can be made of such characters -/

theorem InCalculation.toNat {c : Char} (inside : InCalculation c) : 42 ≤ c.toNat ∧ c.toNat ≤ 57 := by
  rcases inside with digit | other
  · obtain ⟨least, greatest⟩ := toNat_of_isDigit digit
    omega
  · simp only [List.mem_cons, List.not_mem_nil, or_false] at other
    rcases other with rfl | rfl | rfl | rfl | rfl <;> decide

/-- They are no white space, and neither names nor strings begin with them. -/
theorem InCalculation.plain {c : Char} (inside : InCalculation c) :
    isBlank c = false ∧ beginsName c = false ∧ c ∉ ['\'', '"'] := by
  obtain ⟨least, greatest⟩ := inside.toNat
  rw [← Char.ofNat_toNat c]
  generalize c.toNat = code at least greatest
  interval_cases code <;> decide

theorem calculates_of_symbolPart? {c : Char} {rest : List Char} {symbol : Symbol} (inside : InCalculation c)
    (found : symbolPart? (c :: rest) = some symbol) : symbol ∈ calculationSymbols := by
  have begins := List.find?_some found
  cases symbol <;> first
    | decide
    | (obtain ⟨same, _⟩ := List.cons_prefix_cons.mp (List.isPrefixOf_iff_prefix.mp begins)
       exact absurd (same ▸ inside) (by decide))

theorem calculates_of_wordAt {c : Char} {rest : List Char} {word : Lexeme} {size : Nat} (inside : InCalculation c)
    (found : wordAt c rest = .ok (word, size)) : word.Calculates := by
  obtain ⟨_, letter, unquoted⟩ := inside.plain
  have unnamed : namePart (c :: rest) = [] := by simp [namePart, letter]
  simp only [List.mem_cons, List.not_mem_nil, or_false] at unquoted
  simp only [wordAt, unnamed, ne_eq, not_true_eq_false, if_false, if_neg unquoted] at found
  split at found
  · split at found
    · cases found
    · split at found <;> cases found
      trivial
  · split at found
    next symbol begins =>
      cases found
      exact calculates_of_symbolPart? inside begins
    next => cases found

theorem calculates_of_tokensFrom {allowed offset : Nat} {cs : List Char} {tokens : List Token}
    (inside : ∀ c ∈ cs, InCalculation c) (scanned : tokensFrom allowed offset cs = .ok tokens) :
    ∀ word ∈ tokens.map Token.lexeme, word.Calculates := by
  fun_induction tokensFrom allowed offset cs generalizing tokens with
  | case1 =>
    cases scanned
    simp
  | case2 | case3 | case5 => cases scanned
  | case4 _ cs _ c rest allowed left word size found others scanned' =>
    rename_i ih
    cases scanned
    have inside : ∀ other ∈ c :: rest, InCalculation other := fun other member =>
      inside other ((List.dropWhile_suffix isBlank).subset (left ▸ member))
    refine List.forall_mem_cons.mpr ⟨calculates_of_wordAt (inside c List.mem_cons_self) found, ?_⟩
    exact ih (fun other member => inside other (List.mem_of_mem_drop member)) scanned'

theorem arithmetic_of_calculates {phrase : Phrase} {symbol : Symbol} {op : BinaryOp}
    (member : (symbol, op) ∈ phrase.operators) (calculation : symbol ∈ calculationSymbols) :
    op ∈ arithmeticOperators := by
  have all : ∀ pair ∈ phrase.operators, pair.1 ∈ calculationSymbols → pair.2 ∈ arithmeticOperators := by
    cases phrase <;> decide
  exact all _ member calculation

theorem sign_of_calculates {symbol : Symbol} {op : UnaryOp} (member : (symbol, op) ∈ signs)
    (calculation : symbol ∈ calculationSymbols) : op ∈ [UnaryOp.plus, UnaryOp.minus] := by
  have all : ∀ pair ∈ signs, pair.1 ∈ calculationSymbols → pair.2 ∈ [UnaryOp.plus, UnaryOp.minus] := by decide
  exact all _ member calculation

/-- The grammar makes nothing but numbers, signs and arithmetic of such words. -/
theorem Derives.allowed {depth : Nat} {phrase : Phrase} {words : List Lexeme} {tree : Tree}
    (derives : Derives depth phrase words tree) (calculates : ∀ word ∈ words, word.Calculates) :
    ∀ part, Part part tree → Allowed part := by
  induction derives with
  | alone _ _ ih => exact ih calculates
  | @binary _ phrase symbol op _ _ left right member _ _ ihLeft ihRight =>
    obtain ⟨before, behind⟩ := List.forall_mem_append.mp calculates
    obtain ⟨calculation, behind⟩ := List.forall_mem_cons.mp behind
    refine allowed_parts (.arithmetic left right (arithmetic_of_calculates member calculation)) fun operand inside => ?_
    rcases mem_operands_binary.mp inside with rfl | rfl
    · exact ihLeft before
    · exact ihRight behind
  | @sign _ symbol op _ operand member _ ih =>
    obtain ⟨calculation, behind⟩ := List.forall_mem_cons.mp calculates
    refine allowed_parts (.sign operand (sign_of_calculates member calculation)) fun other inside => ?_
    exact mem_operands_unary.mp inside ▸ ih behind
  | @power _ _ _ base exponent _ _ ihLeft ihRight =>
    obtain ⟨before, behind⟩ := List.forall_mem_append.mp calculates
    refine allowed_parts (.arithmetic base exponent (by decide)) fun operand inside => ?_
    rcases mem_operands_binary.mp inside with rfl | rfl
    · exact ihLeft before
    · exact ihRight (List.forall_mem_cons.mp behind).2
  | number literal => cases literal <;> exact allowed_parts (.number _) (by simp [Tree.operands])
  -- All other phrases have a word that no calculation has; those of an operator name or of a comparison have at
  -- least one other part, with such a word before it.
  | disjunction _ nonempty | conjunction _ nonempty =>
    obtain ⟨part, others, rfl⟩ := List.exists_cons_of_ne_nil nonempty
    cases calculates _ (List.mem_append_right _ List.mem_cons_self)
  | comparison _ nonempty =>
    obtain ⟨⟨op, part⟩, others, rfl⟩ := List.exists_cons_of_ne_nil nonempty
    have calculation : op.symbol ∈ calculationSymbols := calculates _ (List.mem_append_right _ List.mem_cons_self)
    exact absurd calculation (by cases op <;> decide)
  | _ => simp [Lexeme.Calculates, calculationSymbols, or_imp, forall_and] at calculates

theorem failure_of_tokensFrom {allowed offset : Nat} {cs : List Char} {failure : Failure}
    (fails : tokensFrom allowed offset cs = .error failure) : ∃ offset cause, failure = .malformed offset cause := by
  fun_induction tokensFrom allowed offset cs with
  | case1 | case4 => cases fails
  | case2 | case3 =>
    cases fails
    exact ⟨_, _, rfl⟩
  | case5 _ _ _ _ _ _ _ _ _ _ _ fails' =>
    rename_i ih
    cases fails
    exact ih fails'

theorem failure_of_parse {text : String} {failure : Failure} (fails : parse text = .error failure) :
    (∃ offset cause, failure = .malformed offset cause) ∨ failure = .integerOverflow := by
  unfold parse at fails
  split at fails
  next unscanned =>
    cases fails
    exact .inl (failure_of_tokensFrom unscanned)
  next =>
    cases fails
    exact .inl ⟨_, _, rfl⟩
  next tokens _ _ =>
    cases stopped : treeOf (tokens.map Token.lexeme) with
    | ok tree =>
      rw [stopped] at fails
      cases fails
    | error stop =>
      rw [stopped] at fails
      cases fails
      cases stop with
      | malformed cause left => exact .inl ⟨_, _, rfl⟩
      | integerOverflow => exact .inr rfl

/-- What is made of such characters is never refused. -/
theorem failure_of_calculation {text : String} (inside : ∀ c ∈ text.toList, InCalculation c) {failure : Failure}
    (fails : evaluate text = .error failure) :
    (∃ offset cause, failure = .malformed offset cause) ∨ failure ∈ arithmeticFailures := by
  rcases bind_error_iff.mp fails with fails | ⟨tree, parsed, fails⟩
  · exact (failure_of_parse fails).imp_right (by rintro rfl; decide)
  · obtain ⟨tokens, scanned, derives⟩ := parse_ok_iff.mp parsed
    exact .inr (failure_of_allowed (derives.allowed (calculates_of_tokensFrom inside scanned)) fails)

/-! ### What results are made of -/

theorem Shown.inCalculation {cs : List Char} (shown : Shown cs) : ∀ c ∈ cs, InCalculation c := by
  cases shown with
  | whole _ digits _ => exact fun c member => .inl (digits c member)
  | fraction _ whole fraction =>
    intro c member
    rcases List.mem_append.mp member with member | member
    · exact .inl (whole c member)
    · rcases List.mem_cons.mp member with rfl | member
      · exact .inr (by decide)
      · exact .inl (fraction c member)

/-- The text of a result is a shown number, with a minus before it or without. -/
theorem shown_of_valid {v : Number} (valid : Valid v) :
    ∃ cs, Shown cs ∧ (v.text = String.ofList cs ∨ v.text = String.ofList ('-' :: cs)) := by
  have integer (n : Int) : ∃ cs, Shown cs ∧ (toString n = String.ofList cs ∨ toString n = String.ofList ('-' :: cs)) := by
    refine ⟨_, shown_toDigits n.natAbs, ?_⟩
    rw [toString_eq]
    split
    · exact .inr rfl
    · exact .inl rfl
  cases v with
  | integer n => exact integer n
  | decimal x =>
    cases whole : isWhole x with
    | true =>
      obtain ⟨cs, shown, text⟩ := integer (wholePart x)
      have same : (Number.decimal x).text = toString (wholePart x) := if_pos whole
      exact ⟨cs, shown, same ▸ text⟩
    | false =>
      obtain ⟨before, behind, places, text⟩ := plainText_of_fraction valid whole
      refine ⟨_, .fraction places.whole_ne_nil places.whole_digits places.fraction_digits, ?_⟩
      rw [Number.text, text]
      split
      · exact .inr rfl
      · exact .inl rfl

theorem inCalculation_of_valid {v : Number} (valid : Valid v) : ∀ c ∈ v.text.toList, InCalculation c := by
  obtain ⟨cs, shown, text | text⟩ := shown_of_valid valid <;> rw [text, String.toList_ofList]
  · exact shown.inCalculation
  · exact List.forall_mem_cons.mpr ⟨.inr (by decide), shown.inCalculation⟩

/-! ### Sessions -/

/-- The texts of a session: an expression of such characters, and no result, an error or a number. -/
structure Calculating (session : Session) : Prop where
  expression : ∀ c ∈ session.expression.toList, InCalculation c
  lastResult : session.lastResult = "" ∨ session.lastResult = Session.errorResult ∨
    ∃ v, Valid v ∧ session.lastResult = v.text

def Fails (session : Session) : Prop :=
  session.expression ≠ "" ∧ ∃ failure, evaluate session.expression = .error failure

/-- The last of the presses that evaluated or cleared evaluated an expression, and failed. -/
def FailedLast (keys : List Label) : Prop :=
  ∃ before behind, keys = before ++ .equals :: behind ∧ (∀ label ∈ behind, label.isInput) ∧
    Fails (before.foldl Session.press {})

theorem eq_of_not_isInput {label : Label} (other : ¬ label.isInput) : label = .clear ∨ label = .equals := by
  revert other
  cases label <;> decide

theorem calculating_press {session : Session} (calculating : Calculating session) (label : Label) :
    Calculating (session.press label) := by
  obtain ⟨expression, lastResult⟩ := calculating
  by_cases input : label.isInput
  · have char : InCalculation label.char := by
      revert input
      cases label <;> decide
    rw [press_of_isInput input]
    exact ⟨by simpa [Label.text, or_imp, forall_and] using ⟨expression, char⟩, lastResult⟩
  · obtain rfl | rfl := eq_of_not_isInput input
    · exact ⟨by simp [Session.press], .inl rfl⟩
    · rw [Session.press, Session.evaluate]
      split
      · exact ⟨expression, .inl rfl⟩
      · cases value : evaluate session.expression with
        | ok v =>
          have valid := valid_of_evaluate value
          exact ⟨inCalculation_of_valid valid, .inr (.inr ⟨v, valid, rfl⟩)⟩
        | error failure => exact ⟨by simp, .inr (.inl rfl)⟩

theorem calculating_presses (keys : List Label) : Calculating (keys.foldl Session.press {}) := by
  induction keys using List.reverseRecOn with
  | nil => exact ⟨by simp, .inl rfl⟩
  | append_singleton keys label ih =>
    rw [List.foldl_append]
    exact calculating_press ih label

/-- An expression of such characters is blank only if it is empty. -/
theorem Calculating.blank_iff {session : Session} (calculating : Calculating session) :
    isBlankText session.expression ↔ session.expression = "" := by
  constructor
  · intro blank
    by_contra nonempty
    obtain ⟨c, inside⟩ := List.exists_mem_of_ne_nil _ (mt String.toList_eq_nil_iff.mp nonempty)
    have inked := (calculating.expression c inside).plain.1
    rw [List.all_eq_true.mp blank c inside] at inked
    cases inked
  · rintro empty
    rw [empty]
    rfl

theorem text_ne_errorResult {v : Number} (valid : Valid v) : v.text ≠ Session.errorResult := by
  intro same
  have inside := inCalculation_of_valid valid
  rw [same] at inside
  exact absurd (inside 'E' (by decide)) (by decide)

/-- A press leaves an error if it is an evaluation that fails, or if it adds to an expression and an error was left
    before. -/
theorem lastResult_press {session : Session} (calculating : Calculating session) (label : Label) :
    (session.press label).lastResult = Session.errorResult ↔
      label = .equals ∧ Fails session ∨ label.isInput ∧ session.lastResult = Session.errorResult := by
  by_cases input : label.isInput
  · have other : label ≠ .equals := by
      rintro rfl
      cases input
    rw [press_of_isInput input]
    simp [input, other]
  · obtain rfl | rfl := eq_of_not_isInput input
    · simp [Session.press, Session.errorResult, Label.isInput]
    · by_cases empty : session.expression = ""
      · rw [Session.press, Session.evaluate, if_pos (calculating.blank_iff.mpr empty)]
        simp [Fails, empty, Session.errorResult, Label.isInput]
      · rw [press_equals (mt calculating.blank_iff.mp empty)]
        cases value : evaluate session.expression with
        | ok v => simp [showing, Fails, value, text_ne_errorResult (valid_of_evaluate value), Label.isInput]
        | error failure => simp [showing, Fails, value, empty]

theorem failedLast_append (keys : List Label) (label : Label) : FailedLast (keys ++ [label]) ↔
    label = .equals ∧ Fails (keys.foldl Session.press {}) ∨ label.isInput ∧ FailedLast keys := by
  constructor
  · rintro ⟨before, behind, split, inputs, fails⟩
    rcases List.eq_nil_or_concat' behind with rfl | ⟨behind, last, rfl⟩
    · obtain ⟨rfl, rfl⟩ := List.append_singleton_inj.mp split
      exact .inl ⟨rfl, fails⟩
    · rw [← List.cons_append, ← List.append_assoc] at split
      obtain ⟨rfl, rfl⟩ := List.append_singleton_inj.mp split
      obtain ⟨inputs, input⟩ := List.forall_mem_append.mp inputs
      exact .inr ⟨input _ List.mem_cons_self, before, behind, rfl, inputs, fails⟩
  · rintro (⟨rfl, fails⟩ | ⟨input, before, behind, rfl, inputs, fails⟩)
    · exact ⟨keys, [], rfl, by simp, fails⟩
    · refine ⟨before, behind ++ [label], by simp, ?_, fails⟩
      exact List.forall_mem_append.mpr ⟨inputs, by simpa using input⟩

theorem lastResult_eq_error_iff (keys : List Label) :
    (keys.foldl Session.press {}).lastResult = Session.errorResult ↔ FailedLast keys := by
  induction keys using List.reverseRecOn with
  | nil => simp [FailedLast, Session.errorResult]
  | append_singleton keys label ih =>
    rw [List.foldl_append, List.foldl_cons, List.foldl_nil, lastResult_press (calculating_presses keys), ih,
      failedLast_append]

/-- After any presses, the expression is made of digits, operators and points, and evaluating it refuses nothing. The
    last result is empty, an error or a number, and it is an error exactly if the last evaluation failed and nothing
    was cleared since, which is what an overlay shows. -/
theorem session_texts (keys : List Label) :
    let session := keys.foldl Session.press {}
    (∀ c ∈ session.expression.toList, InCalculation c) ∧
      (∀ failure, evaluate session.expression = .error failure →
        (∃ offset cause, failure = .malformed offset cause) ∨ failure ∈ arithmeticFailures) ∧
      (session.lastResult = "" ∨ session.lastResult = Session.errorResult ∨
        ∃ v, Valid v ∧ session.lastResult = v.text) ∧
      (session.lastResult = Session.errorResult ↔ FailedLast keys) ∧
      ∀ frame shown, (Overlay.of frame shown session).isError = true ↔ FailedLast keys := by
  obtain ⟨expression, lastResult⟩ := calculating_presses keys
  have failed := lastResult_eq_error_iff keys
  refine ⟨expression, fun failure => failure_of_calculation expression, lastResult, failed, fun frame shown => ?_⟩
  rw [← failed]
  exact beq_iff_eq

end GestureCalculator.Expression
