import GestureCalculator.Proofs.Recognition
import GestureCalculator.Proofs.Segmentation

/-!
Texts with the same words and other white space between them. What a word needs of the text behind it is said of the first
character of that text alone, and white space satisfies every word; so the words stay what they are, and with them the tree,
while their offsets move.
-/
namespace GestureCalculator.Expression
open Text

/-! ### Characters that end a word -/

/-- The word spelled so cannot go on with the character. -/
def EndsBefore (spelled : List Char) (c : Char) : Lexeme → Prop
  | .number _ => isAlphanumeric c = false ∧ c ≠ '_' ∧ isDecimalDigit c = false ∧ (Digits spelled → c ≠ '.')
  | .name _ => continuesName c = false
  | .quoted _ => True
  | .symbol symbol => (symbol = .dot → isDecimalDigit c = false) ∧
      ∀ other : Symbol, other.text.toList <+: spelled ++ [c] → other.text.toList.length ≤ spelled.length

theorem Found.endsBefore {lexeme : Lexeme} {spelled behind : List Char} (found : Found lexeme spelled behind) {c : Char}
    (first : behind.head? = some c) : EndsBefore spelled c lexeme := by
  cases found with
  | number longest _ ends =>
    have plain := ends c first
    refine ⟨plain.1, plain.2, ?_, ?_⟩
    · by_contra digit
      exact longest.not_snoc first (longest.fits.snoc (Bool.not_eq_false _ ▸ digit))
    · rintro all rfl
      exact longest.not_snoc first (.plain (.pointed longest.fits.ne_nil all digits_nil))
  | name _ longest =>
    by_contra continues
    obtain ⟨begins, all⟩ := longest.fits
    refine longest.not_snoc first (.intro begins fun d inside => ?_)
    rcases List.mem_append.mp inside with inside | inside
    · exact all d inside
    · obtain rfl := List.mem_singleton.mp inside
      exact Bool.not_eq_false _ ▸ continues
  | quoted => trivial
  | symbol absent longest =>
    obtain ⟨rest, rfl⟩ := List.head?_eq_some_iff.mp first
    constructor
    · rintro rfl
      by_contra digit
      refine absent ['.', c] ⟨rest, rfl⟩ (.plain (.bare (by simp) ?_))
      simpa [Digits] using digit
    · intro other begins
      exact longest.longest _ (begins.trans ⟨rest, by simp⟩) ⟨other, rfl⟩

/-- A word stays a word where another text stands behind it with which it cannot go on either. -/
theorem Found.transfer {lexeme : Lexeme} {spelled behind behind' : List Char} (found : Found lexeme spelled behind)
    (ends : ∀ c ∈ behind'.head?, EndsBefore spelled c lexeme) : Found lexeme spelled behind' := by
  cases found with
  | number longest plain _ =>
    -- A digit, a point behind digits alone and the mark of an exponent are all that could make it longer.
    refine .number (longest_numeral longest.fits (fun c first => (ends c first).2.2.1) ?_ ?_) plain ?_
    · exact fun first all => (ends '.' first).2.2.2 all rfl
    · intro c first mark
      have letter := (ends c first).1
      simp only [List.mem_cons, List.not_mem_nil, or_false] at mark
      rcases mark with rfl | rfl <;> exact absurd letter (by decide)
    · exact fun c first => ⟨(ends c first).1, (ends c first).2.1⟩
  | name absent longest =>
    refine .name ?_ (longest_identifier longest.fits ends)
    obtain @⟨c, rest, begins, _⟩ := longest.fits
    refine absent_numeral ?_ ?_ _
    · by_contra digit
      exact absent [c] ⟨rest ++ behind, rfl⟩ (numeral_of_digit (Bool.not_eq_false _ ▸ digit))
    · rintro rfl
      exact absurd begins (by decide)
  | quoted quotes quotation => exact .quoted quotes quotation
  | symbol absent longest =>
    refine .symbol (absent_numeral_symbol fun dot c first => (ends c first).1 dot) (longest_spelling ?_)
    exact fun c first => (ends c first).2

theorem endsBefore_of_isBlank {lexeme : Lexeme} {spelled behind : List Char} (found : Found lexeme spelled behind)
    {c : Char} (blank : isBlank c) : EndsBefore spelled c lexeme := by
  obtain ⟨digit, letter, continues, other, unused⟩ := plain_of_isBlank blank
  simp only [List.mem_cons, List.not_mem_nil, or_false, not_or] at other
  cases found with
  | number => exact ⟨letter, other.2.2.2.1, digit, fun _ => other.1⟩
  | name => exact continues
  | quoted => trivial
  | symbol =>
    refine ⟨fun _ => digit, fun longer begins => ?_⟩
    rcases List.prefix_concat_iff.mp begins with whole | inside
    · refine absurd ?_ (unused longer (mem_symbols longer))
      rw [whole]
      simp
    · exact inside.length_le

/-- White space in a place where there was some, or where a word may stand as well, changes no word. -/
theorem Found.respaced {lexeme : Lexeme} {spelled behind behind' : List Char} (found : Found lexeme spelled behind)
    (boundary : behind'.head? = behind.head? ∨ ∀ c ∈ behind'.head?, isBlank c) : Found lexeme spelled behind' := by
  refine found.transfer fun c first => ?_
  rcases boundary with same | blank
  · exact found.endsBefore (same ▸ first)
  · exact endsBefore_of_isBlank found (blank c first)

/-! ### Words -/

/-- Every gap before, between and behind the words of a text is replaced by white space, by at least one character if it had
    any. -/
inductive Respaced : List Char → List Char → Prop
  | last {gap gap' : List Char} : (∀ c ∈ gap, isBlank c) → (∀ c ∈ gap', isBlank c) → (gap ≠ [] → gap' ≠ []) →
      Respaced gap gap'
  | word {gap gap' spelled rest rest' : List Char} {lexeme : Lexeme} : (∀ c ∈ gap, isBlank c) → (∀ c ∈ gap', isBlank c) →
      (gap ≠ [] → gap' ≠ []) → Found lexeme spelled rest → Respaced rest rest' →
      Respaced (gap ++ (spelled ++ rest)) (gap' ++ (spelled ++ rest'))

/-- A word before the texts cannot tell them apart. -/
theorem Respaced.boundary {text other : List Char} (respaced : Respaced text other) :
    other.head? = text.head? ∨ ∀ c ∈ other.head?, isBlank c := by
  have begun {gap gap' rest rest' : List Char} (blank : ∀ c ∈ gap', isBlank c) (kept : gap ≠ [] → gap' ≠ [])
      (same : rest'.head? = rest.head?) :
      (gap' ++ rest').head? = (gap ++ rest).head? ∨ ∀ c ∈ (gap' ++ rest').head?, isBlank c := by
    cases gap' with
    | nil =>
      obtain rfl : gap = [] := by_contra fun filled => kept filled rfl
      exact .inl same
    | cons c gap' =>
      right
      rintro _ ⟨⟩
      exact blank c List.mem_cons_self
  cases respaced with
  | last _ blank kept => simpa using @begun text other [] [] blank kept rfl
  | @word _ _ spelled _ _ _ _ blank kept found _ =>
    refine begun blank kept ?_
    obtain ⟨c, rest, rfl, _⟩ := found.inked
    rfl

theorem tokensFrom_respaced {text other : List Char} (respaced : Respaced text other) :
    ∀ {allowed offset : Nat} {tokens : List Token} (offset' : Nat), tokensFrom allowed offset text = .ok tokens →
      ∃ tokens', tokensFrom allowed offset' other = .ok tokens' ∧ tokens'.map Token.lexeme = tokens.map Token.lexeme := by
  induction respaced with
  | last blank blank' _ =>
    intro allowed offset tokens offset' scanned
    rw [tokensFrom_blank blank] at scanned
    cases scanned
    exact ⟨[], tokensFrom_blank blank', rfl⟩
  | word blank blank' _ found respaced ih =>
    intro allowed offset tokens offset' scanned
    rw [tokensFrom_skip blank] at scanned
    rw [tokensFrom_skip blank']
    cases allowed with
    | zero =>
      obtain ⟨c, rest, rfl, inked⟩ := found.inked
      rw [List.cons_append, tokensFrom_tooLong inked] at scanned
      cases scanned
    | succ allowed =>
      rw [tokensFrom_found found] at scanned
      obtain ⟨others, behind, rfl⟩ := map_ok_iff.mp scanned
      obtain ⟨others', behind', same⟩ := ih _ behind
      rw [tokensFrom_found (found.respaced respaced.boundary)]
      exact ⟨_, map_ok_iff.mpr ⟨others', behind', rfl⟩, by simp [same]⟩

/-! ### Trees -/

/-- The same tree, or the same failure at the same place, where the places are those of another text. -/
inductive Moved (places places' : List Nat) : Except Failure Tree → Except Failure Tree → Prop
  | tree {tree : Tree} : Moved places places' (.ok tree) (.ok tree)
  | place {k offset offset' : Nat} {cause : Malformed} : places[k]? = some offset → places'[k]? = some offset' →
      Moved places places' (.error (.malformed offset cause)) (.error (.malformed offset' cause))
  | nowhere {failure : Failure} : (∀ offset cause, failure ≠ .malformed offset cause) →
      Moved places places' (.error failure) (.error failure)

theorem moved_treeOfTokens {tokens tokens' : List Token} (same : tokens'.map Token.lexeme = tokens.map Token.lexeme)
    (filled : tokens ≠ []) (size size' : Nat) :
    Moved (places size tokens) (places size' tokens') (treeOfTokens size tokens) (treeOfTokens size' tokens') := by
  have length : tokens'.length = tokens.length := by simpa using congrArg List.length same
  have filled' : tokens' ≠ [] := by
    rintro rfl
    exact filled (List.length_eq_zero_iff.mp length.symm)
  rw [treeOfTokens_of_ne_nil filled, treeOfTokens_of_ne_nil filled', same]
  cases treeOf (tokens.map Token.lexeme) with
  | ok tree => exact .tree
  | error stop =>
    cases stop with
    | malformed cause left => exact .place getElem?_places (length ▸ getElem?_places)
    | integerOverflow => exact .nowhere nofun

/-- White space between words can be replaced by other white space: the text has the same words, and the same tree or the same
    failure, at the new place of the same word; without words both are empty. -/
theorem parse_respaced {text other : String} {tokens : List Token} (scanned : tokensOf text = .ok tokens)
    (respaced : Respaced text.toList other.toList) :
    ∃ tokens', tokensOf other = .ok tokens' ∧ tokens'.map Token.lexeme = tokens.map Token.lexeme ∧
      (tokens = [] → parse text = .error (.malformed 0 .empty) ∧ parse other = .error (.malformed 0 .empty)) ∧
      (tokens ≠ [] → Moved (places text.utf8ByteSize tokens) (places other.utf8ByteSize tokens') (parse text) (parse other)) := by
  obtain ⟨tokens', scanned', same⟩ := tokensFrom_respaced respaced 0 scanned
  replace scanned' : tokensOf other = .ok tokens' := scanned'
  refine ⟨tokens', scanned', same, ?_, ?_⟩
  · rintro rfl
    obtain rfl : tokens' = [] := List.map_eq_nil_iff.mp same
    rw [parse_eq, parse_eq, scanned, scanned']
    exact ⟨rfl, rfl⟩
  · intro filled
    rw [parse_eq, parse_eq, scanned, scanned']
    exact moved_treeOfTokens same filled _ _

theorem parse_respaced_two_numbers :
    ∃ tokens', tokensOf "\t1  2 " = .ok tokens' ∧ tokens'.map Token.lexeme = [.number "1", .number "2"] ∧
      Moved (places 3 [⟨.number "1", 0⟩, ⟨.number "2", 2⟩]) (places 6 tokens') (parse "1 2") (parse "\t1  2 ") := by
  have scanned : tokensOf "1 2" = .ok [⟨.number "1", 0⟩, ⟨.number "2", 2⟩] := by cbv
  have one : Found (.number "1") ['1'] [' ', '2'] := (wordAt_ok_iff rfl).mp (by cbv)
  have two : Found (.number "2") ['2'] [] := (wordAt_ok_iff rfl).mp (by cbv)
  have last : Respaced [] [' '] := .last (List.all_eq_true.mp rfl) (List.all_eq_true.mp rfl) (by decide)
  have second : Respaced ([' '] ++ (['2'] ++ [])) ([' ', ' '] ++ (['2'] ++ [' '])) :=
    .word (List.all_eq_true.mp rfl) (List.all_eq_true.mp rfl) (by decide) two last
  have first : Respaced ([] ++ (['1'] ++ [' ', '2'])) (['\t'] ++ (['1'] ++ [' ', ' ', '2', ' '])) :=
    .word (List.all_eq_true.mp rfl) (List.all_eq_true.mp rfl) (by decide) one second
  have respaced : Respaced "1 2".toList "\t1  2 ".toList := first
  obtain ⟨tokens', scanned', same, _, moved⟩ := parse_respaced scanned respaced
  exact ⟨tokens', scanned', same, moved (by simp)⟩

end GestureCalculator.Expression
