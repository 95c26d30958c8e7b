import GestureCalculator.Proofs.LongestWords
import Mathlib.Data.List.TakeWhile
import Mathlib.Tactic

/-!
Texts as gaps of white space and words. The scanner cuts a text in this one way as far as it can be cut: it gives all words
with the bytes before them if the text comes to an end, and otherwise stops at the byte where no word begins or where there
are too many of them.
-/
namespace GestureCalculator.Expression
open Text

/-- A text that begins at an offset is made of gaps of white space and words, where another text is left behind it. -/
inductive Segmented (left : List Char) : Nat → List Char → List Token → Prop
  | gap {offset : Nat} {gap : List Char} : (∀ c ∈ gap, isBlank c) → Segmented left offset gap []
  | word {offset : Nat} {gap spelled behind : List Char} {lexeme : Lexeme} {tokens : List Token} :
      (∀ c ∈ gap, isBlank c) → Found lexeme spelled (behind ++ left) →
      Segmented left (offset + byteLength gap + byteLength spelled) behind tokens →
      Segmented left offset (gap ++ (spelled ++ behind)) (⟨lexeme, offset + byteLength gap⟩ :: tokens)

/-- After so many words a text cannot be cut any further: it goes on without white space, and there may be no more words or no
    word begins here. -/
structure Stuck (allowed count : Nat) (left : List Char) : Prop where
  inked : ∃ c ∈ left.head?, isBlank c = false
  refused : count = allowed ∨
    count < allowed ∧ ∀ lexeme spelled behind, left = spelled ++ behind → ¬ Found lexeme spelled behind

/-! ### White space -/

theorem exists_range_of_inRanges {n : Nat} {ranges : List (Nat × Nat)} (inside : inRanges n ranges) :
    ∃ range ∈ ranges, range.1 ≤ n ∧ n ≤ range.2 := by
  induction ranges with
  | nil => cases inside
  | cons range ranges ih =>
    rw [inRanges] at inside
    split_ifs at inside with below within
    · exact ⟨range, List.mem_cons_self, by omega, within⟩
    · obtain ⟨other, member, within⟩ := ih inside
      exact ⟨other, List.mem_cons_of_mem range member, within⟩

def blankChars : List Char :=
  blankRanges.flatMap fun range => (List.range' range.1 (range.2 + 1 - range.1)).map Char.ofNat

theorem mem_blankChars {c : Char} (blank : isBlank c) : c ∈ blankChars := by
  obtain ⟨range, member, least, greatest⟩ := exists_range_of_inRanges blank
  refine List.mem_flatMap.mpr ⟨range, member, List.mem_map.mpr ⟨c.toNat, ?_, Char.ofNat_toNat c⟩⟩
  exact List.mem_range'_1.mpr ⟨least, by omega⟩

/-- The character stands in no number, in no name and in no symbol. -/
def isForeign (c : Char) : Bool :=
  !isDecimalDigit c && !isAlphanumeric c && !continuesName c && !List.contains ['.', 'e', 'E', '_', '\'', '"'] c &&
    Symbol.all.all fun symbol => !symbol.text.toList.contains c

theorem plain_of_isBlank {c : Char} (blank : isBlank c) : isDecimalDigit c = false ∧ isAlphanumeric c = false ∧
    continuesName c = false ∧ c ∉ ['.', 'e', 'E', '_', '\'', '"'] ∧ ∀ symbol ∈ Symbol.all, c ∉ symbol.text.toList := by
  have all : blankChars.all isForeign = true := by decide +kernel
  have foreign := List.all_eq_true.mp all c (mem_blankChars blank)
  simpa only [isForeign, Bool.and_eq_true, Bool.not_eq_true', List.all_eq_true, ← Bool.not_eq_true, List.contains_iff_mem,
    and_assoc] using foreign

/-! ### One step of the scanner -/

theorem byteLength_append (cs ds : List Char) : byteLength (cs ++ ds) = byteLength cs + byteLength ds := by
  induction cs with
  | nil => simp [byteLength]
  | cons c cs ih => simp only [List.cons_append, byteLength, ih, Nat.add_assoc]

theorem byteLength_pos {cs : List Char} (filled : cs ≠ []) : 0 < byteLength cs := by
  obtain ⟨c, rest, rfl⟩ := List.exists_cons_of_ne_nil filled
  have := c.utf8Size_pos
  simp only [byteLength]
  omega

theorem byteLength_toList (text : String) : byteLength text.toList = text.utf8ByteSize := by
  have joined (cs : List Char) : byteLength cs = (String.ofList cs).utf8ByteSize := by
    induction cs with
    | nil => rfl
    | cons c cs ih => rw [String.ofList_cons, String.utf8ByteSize_append, String.utf8ByteSize_singleton, byteLength, ih]
  rw [joined, String.ofList_toList]

theorem exists_gap (cs : List Char) :
    ∃ gap rest, cs = gap ++ rest ∧ (∀ c ∈ gap, isBlank c) ∧ ∀ c ∈ rest.head?, isBlank c = false := by
  refine ⟨cs.takeWhile isBlank, cs.dropWhile isBlank, List.takeWhile_append_dropWhile.symm, ?_, ?_⟩
  · exact List.all_eq_true.mp List.all_takeWhile
  · intro c first
    have stopped := List.head?_dropWhile_not isBlank cs
    rw [Option.mem_def.mp first] at stopped
    exact stopped

theorem tokensFrom_skip {allowed offset : Nat} {gap rest : List Char} (blank : ∀ c ∈ gap, isBlank c) :
    tokensFrom allowed offset (gap ++ rest) = tokensFrom allowed (offset + byteLength gap) rest := by
  rw [tokensFrom.eq_def, tokensFrom.eq_def allowed (offset + byteLength gap)]
  simp only [List.takeWhile_append_of_pos blank, List.dropWhile_append_of_pos blank, byteLength_append, Nat.add_assoc]

theorem tokensFrom_nil (allowed offset : Nat) : tokensFrom allowed offset [] = .ok [] := by
  cases allowed <;> rfl

theorem tokensFrom_blank {allowed offset : Nat} {gap : List Char} (blank : ∀ c ∈ gap, isBlank c) :
    tokensFrom allowed offset gap = .ok [] := by
  rw [← List.append_nil gap, tokensFrom_skip blank, tokensFrom_nil]

section
variable {allowed offset : Nat} {c : Char} {rest : List Char} (inked : isBlank c = false)
include inked

theorem tokensFrom_tooLong : tokensFrom 0 offset (c :: rest) = .error (.malformed offset .tooLong) := by
  rw [tokensFrom.eq_def]
  simp [inked, byteLength]

theorem tokensFrom_refused {cause : Malformed} (refused : wordAt c rest = .error cause) :
    tokensFrom (allowed + 1) offset (c :: rest) = .error (.malformed offset cause) := by
  rw [tokensFrom.eq_def]
  simp [inked, byteLength, refused]

theorem tokensFrom_step {lexeme : Lexeme} {size : Nat} (word : wordAt c rest = .ok (lexeme, size)) :
    tokensFrom (allowed + 1) offset (c :: rest) =
      (tokensFrom allowed (offset + byteLength ((c :: rest).take size)) ((c :: rest).drop size)).map
        (⟨lexeme, offset⟩ :: ·) := by
  rw [tokensFrom.eq_def]
  simp only [List.takeWhile_cons, List.dropWhile_cons, inked, Bool.false_eq_true, if_false, byteLength, Nat.add_zero, word]
  cases tokensFrom allowed (offset + byteLength ((c :: rest).take size)) ((c :: rest).drop size) <;> rfl

end

/-- No word begins with white space. -/
theorem Found.inked {lexeme : Lexeme} {spelled behind : List Char} (found : Found lexeme spelled behind) :
    ∃ c rest, spelled = c :: rest ∧ isBlank c = false := by
  cases found with
  | number longest _ _ =>
    obtain ⟨c, rest, rfl, first⟩ := longest.fits.begins
    refine ⟨c, rest, rfl, ?_⟩
    by_contra blank
    obtain ⟨digit, _, _, other, _⟩ := plain_of_isBlank (Bool.not_eq_false _ ▸ blank)
    rcases first with first | rfl
    · rw [first] at digit
      cases digit
    · exact other (by simp)
  | name _ longest =>
    obtain ⟨begins, all⟩ := longest.fits
    refine ⟨_, _, rfl, ?_⟩
    by_contra blank
    obtain ⟨_, _, letter, _⟩ := plain_of_isBlank (Bool.not_eq_false _ ▸ blank)
    rw [continuesName, begins] at letter
    cases letter
  | quoted quotes _ =>
    refine ⟨_, _, rfl, ?_⟩
    simp only [List.mem_cons, List.not_mem_nil, or_false] at quotes
    rcases quotes with rfl | rfl <;> decide
  | @symbol symbol _ _ =>
    obtain ⟨c, rest, spelling, _, _, inked⟩ := symbol_text_begins symbol
    exact ⟨c, rest, spelling, inked⟩

theorem tokensFrom_found {allowed offset : Nat} {spelled behind : List Char} {lexeme : Lexeme}
    (found : Found lexeme spelled behind) :
    tokensFrom (allowed + 1) offset (spelled ++ behind) =
      (tokensFrom allowed (offset + byteLength spelled) behind).map (⟨lexeme, offset⟩ :: ·) := by
  obtain ⟨c, rest, rfl, inked⟩ := found.inked
  have word : wordAt c (rest ++ behind) = .ok (lexeme, (c :: rest).length) := wordAt_complete found rfl
  rw [List.cons_append, tokensFrom_step inked word, ← List.cons_append, List.take_left, List.drop_left]

/-! ### All words -/

/-- The words of a text that is segmented come before those of the text left behind it. -/
theorem tokensFrom_segmented {left before : List Char} {offset : Nat} {tokens : List Token}
    (segmented : Segmented left offset before tokens) (allowed : Nat) :
    tokensFrom (allowed + tokens.length) offset (before ++ left) =
      (tokensFrom allowed (offset + byteLength before) left).map (tokens ++ ·) := by
  induction segmented with
  | gap blank =>
    rw [List.length_nil, Nat.add_zero, tokensFrom_skip blank]
    cases tokensFrom allowed _ left <;> rfl
  | @word offset gap spelled behind lexeme tokens blank found _ ih =>
    have ends : offset + byteLength (gap ++ (spelled ++ behind)) =
        offset + byteLength gap + byteLength spelled + byteLength behind := by
      simp only [byteLength_append]
      omega
    rw [List.append_assoc, tokensFrom_skip blank, List.append_assoc, List.length_cons, ← Nat.add_assoc,
      tokensFrom_found found, ih, ends]
    cases tokensFrom allowed _ left <;> rfl

/-- The scanner comes to the end of a text or gets stuck, and has found the words before that. -/
theorem exists_segmented (allowed offset : Nat) (cs : List Char) :
    ∃ before left tokens, cs = before ++ left ∧ tokens.length ≤ allowed ∧ Segmented left offset before tokens ∧
      (left = [] ∨ Stuck allowed tokens.length left) := by
  -- The scanner counts down the words that it may still take, so the induction is on that number.
  induction allowed generalizing offset cs with
  | zero =>
    obtain ⟨gap, rest, rfl, blank, inked⟩ := exists_gap cs
    refine ⟨gap, rest, [], rfl, le_rfl, .gap blank, ?_⟩
    cases rest with
    | nil => exact .inl rfl
    | cons c rest => exact .inr ⟨⟨c, rfl, inked c rfl⟩, .inl rfl⟩
  | succ allowed ih =>
    obtain ⟨gap, rest, rfl, blank, inked⟩ := exists_gap cs
    cases rest with
    | nil => exact ⟨gap, [], [], rfl, Nat.zero_le _, .gap blank, .inl rfl⟩
    | cons c rest =>
      by_cases word : ∃ lexeme spelled behind, c :: rest = spelled ++ behind ∧ Found lexeme spelled behind
      · obtain ⟨lexeme, spelled, behind, split, found⟩ := word
        obtain ⟨before, left, tokens, rfl, few, segmented, ends⟩ :=
          ih (offset + byteLength gap + byteLength spelled) behind
        refine ⟨gap ++ (spelled ++ before), left, ⟨lexeme, offset + byteLength gap⟩ :: tokens, by simp [split],
          Nat.succ_le_succ few, .word blank found segmented, ?_⟩
        refine ends.imp_right fun stuck => ⟨stuck.inked, ?_⟩
        exact stuck.refused.imp (congrArg Nat.succ) (And.imp_left Nat.succ_lt_succ)
      · refine ⟨gap, c :: rest, [], rfl, Nat.zero_le _, .gap blank, .inr ⟨⟨c, rfl, inked c rfl⟩, .inr ?_⟩⟩
        exact ⟨Nat.succ_pos allowed, fun lexeme spelled behind split found => word ⟨lexeme, spelled, behind, split, found⟩⟩

theorem tokensFrom_stuck {allowed count : Nat} {left : List Char} (stuck : Stuck allowed count left) (offset : Nat) :
    ∃ cause, tokensFrom (allowed - count) offset left = .error (.malformed offset cause) := by
  obtain ⟨⟨c, first, inked⟩, refused⟩ := stuck
  obtain ⟨rest, rfl⟩ := List.head?_eq_some_iff.mp first
  rcases refused with rfl | ⟨fewer, absent⟩
  · rw [Nat.sub_self]
    exact ⟨.tooLong, tokensFrom_tooLong inked⟩
  · obtain ⟨more, budget⟩ := Nat.exists_eq_add_of_lt fewer
    rw [show allowed - count = more + 1 by omega]
    cases word : wordAt c rest with
    | error cause => exact ⟨cause, tokensFrom_refused inked word⟩
    | ok found =>
      obtain ⟨spelled, behind, split, _, found⟩ := wordAt_sound word
      exact absurd found (absent _ spelled behind split)

theorem Segmented.offset_le {left before : List Char} {offset : Nat} {tokens : List Token}
    (segmented : Segmented left offset before tokens) : ∀ token ∈ tokens, offset ≤ token.offset := by
  induction segmented with
  | gap => simp
  | word _ _ _ ih =>
    intro token member
    rcases List.mem_cons.mp member with rfl | member
    · exact Nat.le_add_right _ _
    · exact le_trans (by omega) (ih token member)

theorem Segmented.ascending {left before : List Char} {offset : Nat} {tokens : List Token}
    (segmented : Segmented left offset before tokens) : tokens.Pairwise (·.offset < ·.offset) := by
  induction segmented with
  | gap => exact .nil
  | word _ found segmented ih =>
    refine .cons (fun token member => ?_) ih
    have behind := segmented.offset_le token member
    have filled := byteLength_pos found.ne_nil
    dsimp only
    omega

section
variable {text : String} {before left : List Char} {tokens : List Token}

theorem tokensOf_segmented (few : tokens.length ≤ maxTokens) (split : text.toList = before ++ left)
    (segmented : Segmented left 0 before tokens) : tokensOf text =
      (tokensFrom (maxTokens - tokens.length) (byteLength before) left).map (tokens ++ ·) := by
  have scanned := tokensFrom_segmented segmented (maxTokens - tokens.length)
  rwa [Nat.sub_add_cancel few, ← split, Nat.zero_add] at scanned

theorem tokensOf_whole (few : tokens.length ≤ maxTokens) (segmented : Segmented [] 0 text.toList tokens) :
    tokensOf text = .ok tokens := by
  rw [tokensOf_segmented few (List.append_nil _).symm segmented, tokensFrom_nil]
  exact congrArg Except.ok (List.append_nil tokens)

theorem Stuck.count_le {allowed count : Nat} (stuck : Stuck allowed count left) : count ≤ allowed :=
  stuck.refused.elim Nat.le_of_eq fun fewer => fewer.1.le

theorem tokensOf_stuck (split : text.toList = before ++ left) (segmented : Segmented left 0 before tokens)
    (stuck : Stuck maxTokens tokens.length left) :
    ∃ cause, tokensOf text = .error (.malformed (byteLength before) cause) := by
  obtain ⟨cause, stops⟩ := tokensFrom_stuck stuck (byteLength before)
  exact ⟨cause, by rw [tokensOf_segmented stuck.count_le split segmented, stops]; rfl⟩

end

theorem tokensOf_cases (text : String) :
    (∃ tokens, tokens.length ≤ maxTokens ∧ Segmented [] 0 text.toList tokens ∧ tokensOf text = .ok tokens) ∨
    ∃ before left tokens, text.toList = before ++ left ∧ Segmented left 0 before tokens ∧
      Stuck maxTokens tokens.length left ∧
      ∃ cause, tokensOf text = .error (.malformed (byteLength before) cause) := by
  obtain ⟨before, left, tokens, split, few, segmented, rfl | stuck⟩ := exists_segmented maxTokens 0 text.toList
  · obtain rfl : text.toList = before := split.trans (List.append_nil before)
    exact .inl ⟨tokens, few, segmented, tokensOf_whole few segmented⟩
  · exact .inr ⟨before, left, tokens, split, segmented, stuck, tokensOf_stuck split segmented stuck⟩

theorem Stuck.byteLength_lt {allowed count : Nat} {before left : List Char} {text : String}
    (stuck : Stuck allowed count left) (split : text.toList = before ++ left) : byteLength before < text.utf8ByteSize := by
  obtain ⟨c, first, _⟩ := stuck.inked
  have filled : 0 < byteLength left := byteLength_pos (by rintro rfl; cases first)
  rw [← byteLength_toList, split, byteLength_append]
  omega

/-- The scanner gives all words, the longest at every place, if a text is made of no more than allowed and of white space;
    their offsets ascend. Otherwise it fails at the byte, within the text, where this comes to an end. -/
theorem tokensOf_exact (text : String) :
    (∀ tokens, tokensOf text = .ok tokens ↔ tokens.length ≤ maxTokens ∧ Segmented [] 0 text.toList tokens) ∧
    (∀ tokens, tokensOf text = .ok tokens → tokens.Pairwise (·.offset < ·.offset)) ∧
    (∀ offset, (∃ cause, tokensOf text = .error (.malformed offset cause)) ↔
      ∃ before left tokens, text.toList = before ++ left ∧ offset = byteLength before ∧ Segmented left 0 before tokens ∧
        Stuck maxTokens tokens.length left) ∧
    ∀ failure, tokensOf text = .error failure → ∃ offset cause, failure = .malformed offset cause ∧
      offset < text.utf8ByteSize := by
  have whole : ∀ tokens, tokensOf text = .ok tokens → tokens.length ≤ maxTokens ∧ Segmented [] 0 text.toList tokens := by
    intro tokens scanned
    obtain ⟨tokens', few, segmented, scanned'⟩ | ⟨_, _, _, _, _, _, cause, stops⟩ := tokensOf_cases text
    · obtain rfl : tokens' = tokens := Except.ok.inj (scanned'.symm.trans scanned)
      exact ⟨few, segmented⟩
    · cases stops.symm.trans scanned
  have stops : ∀ failure, tokensOf text = .error failure → ∃ before left tokens cause,
      text.toList = before ++ left ∧ Segmented left 0 before tokens ∧ Stuck maxTokens tokens.length left ∧
        failure = .malformed (byteLength before) cause := by
    intro failure fails
    obtain ⟨_, _, _, scanned⟩ | ⟨before, left, tokens, split, segmented, stuck, cause, fails'⟩ := tokensOf_cases text
    · cases scanned.symm.trans fails
    · exact ⟨before, left, tokens, cause, split, segmented, stuck, Except.error.inj (fails.symm.trans fails')⟩
  refine ⟨fun tokens => ⟨whole tokens, fun made => tokensOf_whole made.1 made.2⟩, ?_, fun offset => ⟨?_, ?_⟩, ?_⟩
  · intro tokens scanned
    exact (whole tokens scanned).2.ascending
  · rintro ⟨cause, fails⟩
    obtain ⟨before, left, tokens, _, split, segmented, stuck, same⟩ := stops _ fails
    cases same
    exact ⟨before, left, tokens, split, rfl, segmented, stuck⟩
  · rintro ⟨before, left, tokens, split, rfl, segmented, stuck⟩
    exact tokensOf_stuck split segmented stuck
  · intro failure fails
    obtain ⟨before, _, _, cause, split, _, stuck, same⟩ := stops failure fails
    exact ⟨byteLength before, cause, same, stuck.byteLength_lt split⟩

end GestureCalculator.Expression
