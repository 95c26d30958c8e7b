import GestureCalculator.Calculator.Replay
import GestureCalculator.Proofs.SessionTexts
import GestureCalculator.Proofs.SharedSession

/-!
Texts without control characters. JSON is written without any, whatever stands in its strings, and neither the
expression nor the result that an overlay shows has any, so each overlay makes one line.
-/
namespace GestureCalculator

/-- No character of the text is a control character. -/
def Printable (text : String) : Prop := ∀ c ∈ text.toList, 0x20 ≤ c.toNat

instance (text : String) : Decidable (Printable text) :=
  decidable_of_iff (text.toList.all fun c => decide (0x20 ≤ c.toNat)) (by simp [Printable])

theorem printable_ofList {cs : List Char} : Printable (String.ofList cs) ↔ ∀ c ∈ cs, 0x20 ≤ c.toNat := by
  rw [Printable, String.toList_ofList]

theorem Printable.append {text more : String} (first : Printable text) (second : Printable more) :
    Printable (text ++ more) := by
  rw [Printable, String.toList_append]
  exact List.forall_mem_append.mpr ⟨first, second⟩

theorem printable_intercalate {separator : String} {texts : List String} (between : Printable separator)
    (all : ∀ text ∈ texts, Printable text) : Printable (separator.intercalate texts) := by
  rw [Printable, String.toList_intercalate]
  induction texts with
  | nil => simp
  | cons text texts ih =>
    obtain ⟨first, others⟩ := List.forall_mem_cons.mp all
    by_cases last : texts = []
    · rw [last, List.map_singleton, List.intercalate_singleton]
      exact first
    · rw [List.map_cons, List.intercalate_cons_of_ne_nil (mt List.map_eq_nil_iff.mp last)]
      refine List.forall_mem_append.mpr ⟨?_, ih others⟩
      exact List.forall_mem_append.mpr ⟨first, between⟩

theorem printable_of_isDigit {c : Char} (digit : c.isDigit) : 0x20 ≤ c.toNat :=
  Nat.le_trans (by omega) (Expression.toNat_of_isDigit digit).1

theorem printable_toString (n : Int) : Printable (toString n) := by
  have digits : ∀ c ∈ Nat.toDigits 10 n.natAbs, 0x20 ≤ c.toNat := fun c inside =>
    printable_of_isDigit (Nat.isDigit_of_mem_toDigits (by decide) (by decide) inside)
  rw [Expression.toString_eq]
  split
  · exact printable_ofList.mpr (List.forall_mem_cons.mpr ⟨by decide, digits⟩)
  · exact printable_ofList.mpr digits

theorem printable_positional (decimal : Binary64.Decimal) : ∀ c ∈ decimal.positional, 0x20 ≤ c.toNat := by
  intro c inside
  rw [Binary64.Decimal.positional] at inside
  split_ifs at inside with whole
  · rcases List.mem_append.mp inside with digit | zero
    · exact printable_of_isDigit (Nat.isDigit_of_mem_toDigits (by decide) (by decide) digit)
    · rw [List.eq_of_mem_replicate zero]
      decide
  · rcases List.mem_append.mp inside with before | behind
    · exact printable_of_isDigit (Binary64.isDigit_of_mem_padded (List.mem_of_mem_take before))
    · rcases List.mem_cons.mp behind with rfl | behind
      · decide
      · exact printable_of_isDigit (Binary64.isDigit_of_mem_padded (List.mem_of_mem_drop behind))

theorem printable_shortestText (x : Float) : Printable (Binary64.shortestText x) := by
  have infinite : ∀ c ∈ ['i', 'n', 'f'], 0x20 ≤ c.toNat := by simp
  have zero : ∀ c ∈ ['0'], 0x20 ≤ c.toNat := by simp
  rw [Binary64.shortestText]
  split
  · decide
  · have size : ∀ c ∈ (if x.isInf then ['i', 'n', 'f'] else if Binary64.steps x = 0 then ['0']
        else (Binary64.shortestDecimal (Binary64.steps x)).positional), 0x20 ≤ c.toNat := by
      split_ifs
      · exact infinite
      · exact zero
      · exact printable_positional _
    refine printable_ofList.mpr ?_
    split
    · exact List.forall_mem_cons.mpr ⟨by decide, size⟩
    · exact size

namespace Json

theorem printable_realText (x : Float) : Printable (realText x) := by
  rw [realText]
  split
  · exact (printable_shortestText x).append (by decide)
  · exact printable_shortestText x

theorem printable_escapedChar (c : Char) : ∀ d ∈ escapedChar c, 0x20 ≤ d.toNat := by
  unfold escapedChar
  split
  case h_8 =>
    split_ifs with control
    · have digits : ∀ code < 0x20, (fourHexDigits code).all fun d => decide (0x20 ≤ d.toNat) := by decide
      have digits : ∀ d ∈ fourHexDigits c.toNat, 0x20 ≤ d.toNat := by simpa using digits c.toNat control
      exact List.forall_mem_cons.mpr ⟨by decide, List.forall_mem_cons.mpr ⟨by decide, digits⟩⟩
    · simpa using control
  all_goals simp

theorem printable_quotedText (text : String) : Printable (quotedText text) := by
  refine printable_ofList.mpr (List.forall_mem_cons.mpr ⟨by decide, List.forall_mem_append.mpr ⟨?_, by simp⟩⟩)
  intro d inside
  obtain ⟨c, _, inside⟩ := List.mem_flatMap.mp inside
  exact printable_escapedChar c d inside

theorem printable_comma : Printable "," := by decide

theorem printable_colon : Printable ":" := by decide

mutual

/-- A value is written without control characters. -/
theorem printable_compact : ∀ json : Json, Printable json.compact
  | null => by decide
  | truth value => by cases value <;> decide
  | integer value => printable_toString value
  | real value => printable_realText value
  | text value => printable_quotedText value
  | array items => by
    have inside := printable_intercalate printable_comma (printable_compactItems items)
    rw [compact]
    exact (Printable.append (by decide) inside).append (by decide)
  | object fields => by
    have inside := printable_intercalate printable_comma (printable_compactFields fields)
    rw [compact]
    exact (Printable.append (by decide) inside).append (by decide)

theorem printable_compactItems : ∀ items, ∀ text ∈ compactItems items, Printable text
  | [] => by simp [compactItems]
  | item :: rest => List.forall_mem_cons.mpr ⟨printable_compact item, printable_compactItems rest⟩

theorem printable_compactFields : ∀ fields, ∀ text ∈ compactFields fields, Printable text
  | [] => by simp [compactFields]
  | (name, value) :: rest => by
    have first := ((printable_quotedText name).append printable_colon).append (printable_compact value)
    exact List.forall_mem_cons.mpr ⟨first, printable_compactFields rest⟩

end

end Json

/-! ### Overlays -/

open Expression

end GestureCalculator
