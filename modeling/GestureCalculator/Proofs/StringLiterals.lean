import GestureCalculator.Proofs.Segmentation

/-!
String literals. At a quote the scanner reads up to the first quote of the same kind that is not escaped, on the same line, and
gives what stands between the two without its backslashes. So every text can be written as a literal, and the text behind the
literal is scanned from the byte where the literal ends.
-/
namespace GestureCalculator.Expression
open Text

/-- At the quote the scanner finds a string with the content, and takes so many bytes for it. -/
def ReadsString (quote : Char) (rest : List Char) (content : String) (size : Nat) : Prop :=
  ∃ count, wordAt quote rest = .ok (.quoted content, count) ∧ byteLength ((quote :: rest).take count) = size

/-- The text begins with something between two quotes that stands for the content. -/
def Quoted (quote : Char) (text : List Char) (content : String) (size : Nat) : Prop :=
  ∃ inside behind, text = quote :: (inside ++ quote :: behind) ∧ Quotation quote inside content.toList ∧
    size = byteLength (quote :: (inside ++ [quote]))

/-- How a character is written between two quotes. -/
def escapedChar (quote c : Char) : List Char := if c ∈ [quote, '\\', '\n'] then ['\\', c] else [c]

/-- How a text is written as a literal. -/
def literalOf (quote : Char) (content : String) : List Char :=
  quote :: (content.toList.flatMap (escapedChar quote) ++ [quote])

theorem quotation_escaped (quote : Char) (content : List Char) :
    Quotation quote (content.flatMap (escapedChar quote)) content := by
  induction content with
  | nil => exact .none
  | cons c content ih =>
    rw [List.flatMap_cons, escapedChar]
    by_cases special : c ∈ [quote, '\\', '\n']
    · rw [if_pos special]
      exact .escaped ih
    · rw [if_neg special]
      exact .plain special ih

theorem quoted_literalOf (quote : Char) (content : String) (behind : List Char) :
    Quoted quote (literalOf quote content ++ behind) content (byteLength (literalOf quote content)) :=
  ⟨_, behind, by simp [literalOf], quotation_escaped quote content.toList, rfl⟩

section
variable {quote : Char} (quotes : quote ∈ ['\'', '"'])
include quotes

/-- At a quote the scanner does nothing but look for the end of the string. -/
theorem wordAt_quote (rest : List Char) : wordAt quote rest =
    match quotedPart quote rest with
    | some (content, size) => .ok (.quoted (String.ofList content), size + 1)
    | none => .error .unterminatedString := by
  obtain ⟨number, name⟩ := absent_of_quote quotes rest
  have quotes' : quote = '\'' ∨ quote = '"' := by simpa using quotes
  unfold wordAt
  dsimp only
  rw [number, name, if_neg (by simp), if_neg (by simp)]
  cases quotedPart quote rest <;> exact if_pos quotes'

theorem isBlank_of_quote : isBlank quote = false := by
  simp only [List.mem_cons, List.not_mem_nil, or_false] at quotes
  rcases quotes with rfl | rfl <;> decide

theorem readsString_iff {rest : List Char} {content : String} {size : Nat} :
    ReadsString quote rest content size ↔ Quoted quote (quote :: rest) content size := by
  constructor
  · rintro ⟨count, word, rfl⟩
    rw [wordAt_quote quotes] at word
    cases read : quotedPart quote rest with
    | none =>
      rw [read] at word
      cases word
    | some found =>
      obtain ⟨characters, length⟩ := found
      obtain ⟨inside, behind, rfl, quotation, rfl⟩ := quotedPart_sound read
      rw [read] at word
      cases word
      refine ⟨inside, behind, rfl, by rwa [String.toList_ofList], ?_⟩
      rw [List.take_succ_cons, List.append_cons, List.take_left' (by simp)]
  · rintro ⟨inside, behind, split, quotation, rfl⟩
    obtain rfl := (List.cons.inj split).2
    have found : Found (.quoted (String.ofList content.toList)) (quote :: (inside ++ [quote])) behind := .quoted quotes quotation
    rw [String.ofList_toList] at found
    have word : wordAt quote (inside ++ quote :: behind) = .ok (.quoted content, _) := wordAt_complete found (by simp)
    refine ⟨_, word, ?_⟩
    rw [show quote :: (inside ++ quote :: behind) = quote :: (inside ++ [quote]) ++ behind by simp, List.take_left]

theorem wordAt_unterminated {rest : List Char} (none : ∀ content size, ¬ ReadsString quote rest content size) :
    wordAt quote rest = .error .unterminatedString := by
  have word := wordAt_quote quotes rest
  cases read : quotedPart quote rest with
  | none => rwa [read] at word
  | some found =>
    rw [read] at word
    exact absurd ⟨_, word, rfl⟩ (none _ _)

theorem found_literalOf (content : String) (behind : List Char) :
    Found (.quoted content) (literalOf quote content) behind := by
  have found : Found (.quoted (String.ofList content.toList)) (literalOf quote content) behind :=
    .quoted quotes (quotation_escaped quote content.toList)
  rwa [String.ofList_toList] at found

end

/-- At a quote the scanner reads a string exactly if one begins there: it gives what the string stands for, and takes as many
    bytes as the string has. If none begins there, the string is not terminated. Every text that is written as a literal is
    read back whatever stands behind the literal, and the scanner goes on with the byte behind it. -/
theorem string_literal_exact {quote : Char} (quotes : quote ∈ ['\'', '"']) :
    (∀ rest content size, ReadsString quote rest content size ↔ Quoted quote (quote :: rest) content size) ∧
    (∀ rest, (¬ ∃ content size, Quoted quote (quote :: rest) content size) →
      wordAt quote rest = .error .unterminatedString ∧ ∀ allowed offset,
        tokensFrom (allowed + 1) offset (quote :: rest) = .error (.malformed offset .unterminatedString)) ∧
    ∀ content behind,
      ReadsString quote ((literalOf quote content).tail ++ behind) content (byteLength (literalOf quote content)) ∧
      ∀ allowed offset, tokensFrom (allowed + 1) offset (literalOf quote content ++ behind) =
        (tokensFrom allowed (offset + byteLength (literalOf quote content)) behind).map (⟨.quoted content, offset⟩ :: ·) := by
  refine ⟨fun rest content size => readsString_iff quotes, ?_, ?_⟩
  · intro rest none
    have word := wordAt_unterminated quotes fun content size reads => none ⟨content, size, (readsString_iff quotes).mp reads⟩
    exact ⟨word, fun allowed offset => tokensFrom_refused (isBlank_of_quote quotes) word⟩
  · intro content behind
    refine ⟨(readsString_iff quotes).mpr (quoted_literalOf quote content behind), fun allowed offset => ?_⟩
    exact tokensFrom_found (found_literalOf quotes content behind)

/-- A letter of two bytes, a quote, a line break and a backslash, each of them behind a backslash. -/
theorem string_literal_exact_escapes :
    ReadsString '"' ['\\', 'é', '\\', '"', '\\', '\n', '\\', '\\', '"', 'x'] "é\"\n\\" 11 :=
  have quotes : '"' ∈ ['\'', '"'] := by decide
  ((string_literal_exact quotes).1 _ _ _).mpr
    ⟨['\\', 'é', '\\', '"', '\\', '\n', '\\', '\\'], ['x'], rfl, .escaped (.escaped (.escaped (.escaped .none))), rfl⟩

end GestureCalculator.Expression
