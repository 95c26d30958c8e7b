import GestureCalculator.Proofs.TomlNumbers

/-!
TOML documents line by line. A text of lines leads from a document and the table that is open in it to others, whatever follows
the text, and what a text and another behind it lead to is found one after the other. So a table of numbers is read as it is
written, and it is added to the document behind the tables before it.
-/
namespace GestureCalculator.Toml
open Binary64 Text

/-! ### Keys and values -/

/-- A key that needs no quotes. -/
def IsBare (name : String) : Prop := name.toList ≠ [] ∧ ∀ c ∈ name.toList, isBareChar c

/-- The text is that of a number, and is read as the value. -/
structure Written (text : String) (value : Value) : Prop where
  numeral : ∃ negative size, Size size ∧ text = String.ofList (withSign negative size)
  reads : scalar? text.toList = some value

theorem written_toString {n : Int} (small : n.natAbs < 2 ^ 127) : Written (toString n) (.integer n) :=
  ⟨⟨_, _, (plainDigits_toDigits n.natAbs).size, toString_eq_withSign n⟩, scalar?_toString small⟩

theorem written_pointedText {x : Float} (number : x.isFinite) : Written (Settings.pointedText x) (.real x) := by
  obtain ⟨whole, fraction, pointed, text⟩ := pointedText_eq number
  exact ⟨⟨_, _, pointed.size, text⟩, scalar?_pointedText number⟩

theorem Written.mem {text : String} {value : Value} (written : Written text value) {c : Char} (inside : c ∈ text.toList) :
    c.isDigit ∨ c = '-' ∨ c = '.' := by
  obtain ⟨negative, size, sound, rfl⟩ := written.numeral
  rw [String.toList_ofList] at inside
  exact mem_withSign sound inside

theorem Written.ne_nil {text : String} {value : Value} (written : Written text value) : text.toList ≠ [] := by
  intro none
  have reads := written.reads
  rw [none] at reads
  cases reads

theorem isScalarChar_of_numeral {c : Char} (numeral : c.isDigit ∨ c = '-' ∨ c = '.') : isScalarChar c := by
  rcases numeral with digit | rfl | rfl
  · simp [isScalarChar, Char.isAlphanum, digit]
  · rfl
  · rfl

theorem scalar_of_written {text : String} {value : Value} (written : Written text value) (rest : List Char) :
    scalar (text.toList ++ '\n' :: rest) = some (value, '\n' :: rest) := by
  have all : ∀ c ∈ text.toList, isScalarChar c := fun c inside => isScalarChar_of_numeral (written.mem inside)
  have ends : ∀ c ∈ ('\n' :: rest).head?, isScalarChar c = false := by
    simp
    decide
  have taken := takeWhile_append all ends
  have left := dropWhile_append all ends
  simp [scalar, taken, left, written.reads]

/-- The value of a number does not begin as a string, an array or a table does. -/
theorem valueWithin_of_written {text : String} {value : Value} (written : Written text value) (depth : Nat) (rest : List Char) :
    valueWithin depth (text.toList ++ '\n' :: rest) = some (value, '\n' :: rest) := by
  have plain : ∀ inner, valueOver inner (text.toList ++ '\n' :: rest) = scalar (text.toList ++ '\n' :: rest) := by
    intro inner
    obtain ⟨c, tail, same⟩ := List.exists_cons_of_ne_nil written.ne_nil
    have numeral := written.mem (same ▸ List.mem_cons_self : c ∈ text.toList)
    rw [same, List.cons_append]
    unfold valueOver
    split
    next begins => exact absurd ((List.cons.inj begins).1 ▸ numeral) (by decide)
    next begins => exact absurd ((List.cons.inj begins).1 ▸ numeral) (by decide)
    next begins => exact absurd ((List.cons.inj begins).1 ▸ numeral) (by decide)
    next begins => exact absurd ((List.cons.inj begins).1 ▸ numeral) (by decide)
    next => rfl
  cases depth <;> rw [valueWithin, plain, scalar_of_written written]

theorem isGap_iff {c : Char} : isGap c ↔ c = ' ' ∨ c = '\t' := by
  rw [isGap, Bool.or_eq_true, beq_iff_eq, beq_iff_eq]

theorem trimStart_of_bare {c : Char} (bare : isBareChar c) (rest : List Char) : trimStart (c :: rest) = c :: rest := by
  refine List.dropWhile_cons_of_neg fun gap => ?_
  rcases isGap_iff.mp gap with rfl | rfl <;> exact absurd bare (by decide)

theorem simpleKey_of_bare {name : String} (bare : IsBare name) {behind : List Char}
    (apart : ∀ c ∈ behind.head?, isBareChar c = false) :
    simpleKey (trimStart (name.toList ++ behind)) = some (name, behind) := by
  obtain ⟨nonempty, all⟩ := bare
  have taken := takeWhile_append all apart
  have left := dropWhile_append all apart
  obtain ⟨c, tail, same⟩ := List.exists_cons_of_ne_nil nonempty
  have first := all c (same ▸ List.mem_cons_self)
  have trimmed : trimStart (name.toList ++ behind) = name.toList ++ behind := by
    rw [same, List.cons_append, trimStart_of_bare first]
  rw [trimmed]
  unfold simpleKey
  split
  next quote => exact absurd ((List.cons.inj (same ▸ quote)).1 ▸ first) (by decide)
  next quote => exact absurd ((List.cons.inj (same ▸ quote)).1 ▸ first) (by decide)
  next => simp [taken, left, nonempty]

/-- A bare key is read up to the mark behind it and behind the gap before that mark. -/
theorem key_of_bare {name : String} (bare : IsBare name) {behind rest : List Char} {mark : Char}
    (apart : ∀ c ∈ behind.head?, isBareChar c = false) (next : trimStart behind = mark :: rest) (last : mark ≠ '.') :
    key (name.toList ++ behind) = some (([], name), mark :: rest) := by
  have trimmed : trimStart (mark :: rest) = mark :: rest := by
    rw [← next]
    exact List.dropWhile_idempotent _ _
  have alone : keyRest behind.length behind = some ([], mark :: rest) := by
    cases behind with
    | nil => cases next
    | cons c behind =>
      rw [List.length_cons, keyRest, next]
      split
      next dot => exact absurd (List.cons.inj dot).1 last
      next => rfl
  simp [key, simpleKey_of_bare bare apart, alone, trimmed]

theorem keyValue_of_written {name text : String} {value : Value} (bare : IsBare name) (written : Written text value)
    (depth : Nat) (rest : List Char) :
    keyValue (valueWithin depth) (name.toList ++ ' ' :: '=' :: ' ' :: (text.toList ++ '\n' :: rest)) =
      some (([], name, value), '\n' :: rest) := by
  have found : key (name.toList ++ ' ' :: '=' :: ' ' :: (text.toList ++ '\n' :: rest)) =
      some (([], name), '=' :: ' ' :: (text.toList ++ '\n' :: rest)) :=
    key_of_bare bare (by simp; decide) rfl (by decide)
  obtain ⟨c, tail, same⟩ := List.exists_cons_of_ne_nil written.ne_nil
  have numeral := written.mem (same ▸ List.mem_cons_self : c ∈ text.toList)
  have trimmed : trimStart (' ' :: (text.toList ++ '\n' :: rest)) = text.toList ++ '\n' :: rest := by
    have noGap : ¬ isGap c := by
      intro gap
      rcases isGap_iff.mp gap with rfl | rfl <;> exact absurd numeral (by decide)
    rw [same, List.cons_append, trimStart, List.dropWhile_cons_of_pos (by decide), List.dropWhile_cons_of_neg noGap]
  simp [keyValue, found, trimmed, valueWithin_of_written written]

/-! ### Lines -/

/-- The text leads from a document and the table that is open to others, whatever follows it. -/
def Leads (text : List Char) (current : List String) (document : Value) (current' : List String) (document' : Value) : Prop :=
  ∀ rest allowed, (text ++ rest).length < allowed → ∃ allowed', rest.length < allowed' ∧
    readLines allowed current document (text ++ rest) = readLines allowed' current' document' rest

theorem Leads.refl (current : List String) (document : Value) : Leads [] current document current document :=
  fun _ allowed enough => ⟨allowed, enough, rfl⟩

theorem Leads.trans {text text' : List Char} {current current' current'' : List String} {document document' document'' : Value}
    (first : Leads text current document current' document') (second : Leads text' current' document' current'' document'') :
    Leads (text ++ text') current document current'' document'' := by
  intro rest allowed enough
  rw [List.append_assoc] at enough ⊢
  obtain ⟨allowed', enough', same⟩ := first (text' ++ rest) allowed enough
  obtain ⟨allowed'', enough'', same'⟩ := second rest allowed' enough'
  exact ⟨allowed'', enough'', same.trans same'⟩

/-- A line that is read in one step leads to what is found behind it. -/
theorem Leads.of_step {line : List Char} {current current' : List String} {document document' : Value} (nonempty : line ≠ [])
    (step : ∀ rest more, readLines (more + 1) current document (line ++ rest) = readLines more current' document' rest) :
    Leads line current document current' document' := by
  intro rest allowed enough
  have some := List.length_pos_of_ne_nil nonempty
  rw [List.length_append] at enough
  obtain ⟨more, rfl⟩ : ∃ more, allowed = more + 1 := ⟨allowed - 1, by omega⟩
  exact ⟨more, by omega, step rest more⟩

theorem leads_blank (current : List String) (document : Value) : Leads ['\n'] current document current document := by
  refine .of_step (by simp) fun rest more => ?_
  rw [List.singleton_append, readLines]
  rfl

/-- A line of a key and a number puts the number in the table that is open. -/
theorem leads_line {name text : String} {value document document' : Value} {current : List String} (bare : IsBare name)
    (written : Written text value) (inserted : document.insertIn current [] name value = some document') :
    Leads (Settings.line name text).toList current document current document' := by
  have chars : (Settings.line name text).toList = name.toList ++ ' ' :: '=' :: ' ' :: (text.toList ++ ['\n']) := by
    simp [Settings.line]
  rw [chars]
  refine .of_step (by simp) fun rest more => ?_
  obtain ⟨c, tail, same⟩ := List.exists_cons_of_ne_nil bare.1
  have first := bare.2 c (same ▸ List.mem_cons_self)
  have found := keyValue_of_written bare written maxDepth rest
  simp only [same, List.cons_append, List.append_assoc, List.nil_append] at found ⊢
  rw [readLines, trimStart_of_bare first]
  split
  next none => cases none
  next mark => exact absurd ((List.cons.inj mark).1 ▸ first) (by decide)
  next mark => exact absurd ((List.cons.inj mark).1 ▸ first) (by decide)
  next mark => exact absurd ((List.cons.inj mark).1 ▸ first) (by decide)
  next mark => exact absurd ((List.cons.inj mark).1 ▸ first) (by decide)
  next => simp [found, inserted, afterLine, trimStart, isGap]

/-- A header opens a table. -/
theorem leads_header {name : String} {document document' : Value} (current : List String) (bare : IsBare name)
    (opened : document.openTable [] name = some document') :
    Leads ('[' :: (name.toList ++ [']', '\n'])) current document [name] document' := by
  refine .of_step (by simp) fun rest more => ?_
  obtain ⟨c, tail, same⟩ := List.exists_cons_of_ne_nil bare.1
  have first := bare.2 c (same ▸ List.mem_cons_self)
  have found : key (name.toList ++ ']' :: '\n' :: rest) = some (([], name), ']' :: '\n' :: rest) :=
    key_of_bare bare (by simp; decide) rfl (by decide)
  simp only [same, List.cons_append, List.append_assoc, List.nil_append] at found ⊢
  rw [readLines, trimStart, List.dropWhile_cons_of_neg (by decide)]
  split
  next none => cases none
  next mark => cases mark
  next mark => cases mark
  next mark => exact absurd ((List.cons.inj (List.cons.inj mark).2).1 ▸ first) (by decide)
  next mark =>
    cases mark
    simp [found, opened, afterLine, trimStart, isGap]
  next _ other => exact absurd rfl (other _)

/-! ### Tables -/

theorem find?_of_fresh {key : String} {entries : List (String × Value)} (fresh : key ∉ entries.map Prod.fst) :
    find? key entries = none := by
  rw [find?, Option.map_eq_none_iff, List.find?_eq_none]
  intro entry inside same
  exact fresh (List.mem_map.mpr ⟨entry, inside, beq_iff_eq.mp same⟩)

theorem find?_last {key : String} {entries : List (String × Value)} (fresh : key ∉ entries.map Prod.fst) (value : Value) :
    find? key (entries ++ [(key, value)]) = some value := by
  have none : entries.find? (fun entry => entry.1 == key) = none := Option.map_eq_none_iff.mp (find?_of_fresh fresh)
  simp [find?, List.find?_append, none]

/-- A value for a new key goes to the end. -/
theorem put_of_fresh {key : String} {entries : List (String × Value)} (fresh : key ∉ entries.map Prod.fst) (value : Value) :
    put key value entries = entries ++ [(key, value)] := by
  induction entries with
  | nil => rfl
  | cons entry rest ih =>
    rw [List.map_cons, List.mem_cons, not_or] at fresh
    rw [put, if_neg (Ne.symm fresh.1), ih fresh.2]
    rfl

/-- A value for a key that is there takes its place. -/
theorem put_last {key : String} {entries : List (String × Value)} (fresh : key ∉ entries.map Prod.fst) (old value : Value) :
    put key value (entries ++ [(key, old)]) = entries ++ [(key, value)] := by
  induction entries with
  | nil => exact if_pos rfl
  | cons entry rest ih =>
    rw [List.map_cons, List.mem_cons, not_or] at fresh
    rw [List.cons_append, put, if_neg (Ne.symm fresh.1), ih fresh.2]
    rfl

theorem openTable_of_fresh {name : String} {before : List (String × Value)} (fresh : name ∉ before.map Prod.fst) :
    (Value.table .header before).openTable [] name = some (.table .header (before ++ [(name, .table .header [])])) := by
  simp [Value.openTable, Value.changeAt, find?_of_fresh fresh, put_of_fresh fresh]

theorem insertIn_of_fresh {name key : String} {before entries : List (String × Value)} (fresh : name ∉ before.map Prod.fst)
    (fresh' : key ∉ entries.map Prod.fst) (value : Value) :
    (Value.table .header (before ++ [(name, .table .header entries)])).insertIn [name] [] key value =
      some (.table .header (before ++ [(name, .table .header (entries ++ [(key, value)]))])) := by
  simp [Value.insertIn, Value.insert, Value.changeAt, find?_last fresh, find?_of_fresh fresh', put_of_fresh fresh',
    put_last fresh]

/-- A key with the text of a number, and the value that it is read as. -/
structure Entry where
  key : String
  text : String
  value : Value

/-- The lines of entries. -/
def entryLines (entries : List Entry) : List Char := entries.flatMap fun entry => (Settings.line entry.key entry.text).toList

def Entry.pair (entry : Entry) : String × Value := (entry.key, entry.value)

/-- Lines with new keys put their numbers behind the ones of the open table. -/
theorem leads_entries {name : String} {before : List (String × Value)} (fresh : name ∉ before.map Prod.fst) {entries : List Entry}
    (bare : ∀ key ∈ entries.map Entry.key, IsBare key) (written : ∀ entry ∈ entries, Written entry.text entry.value)
    {found : List (String × Value)}
    (distinct : (found.map Prod.fst ++ entries.map Entry.key).Nodup) :
    Leads (entryLines entries) [name] (.table .header (before ++ [(name, .table .header found)])) [name]
      (.table .header (before ++ [(name, .table .header (found ++ entries.map Entry.pair))])) := by
  induction entries generalizing found with
  | nil =>
    rw [List.map_nil, List.append_nil]
    exact Leads.refl _ _
  | cons entry entries ih =>
    rw [List.map_cons, List.forall_mem_cons] at bare
    rw [List.forall_mem_cons] at written
    have new : entry.key ∉ found.map Prod.fst := by
      intro old
      exact (List.nodup_append.mp distinct).2.2 _ old _ List.mem_cons_self rfl
    have first := leads_line bare.1 written.1 (insertIn_of_fresh fresh new entry.value)
    have behind := @ih bare.2 written.2 (found ++ [entry.pair]) (by simpa [Entry.pair] using distinct)
    rw [List.append_assoc] at behind
    exact first.trans behind

/-- A table of numbers goes behind the tables before it. -/
theorem leads_table {name : String} {before : List (String × Value)} (current : List String) (bare : IsBare name)
    (fresh : name ∉ before.map Prod.fst) {entries : List Entry} (bare' : ∀ key ∈ entries.map Entry.key, IsBare key)
    (distinct : (entries.map Entry.key).Nodup) (written : ∀ entry ∈ entries, Written entry.text entry.value) :
    Leads ('[' :: (name.toList ++ [']', '\n']) ++ entryLines entries) current (.table .header before) [name]
      (.table .header (before ++ [(name, .table .header (entries.map Entry.pair))])) :=
  (leads_header current bare (openTable_of_fresh fresh)).trans (leads_entries fresh bare' written distinct)

/-! ### Documents -/

theorem return_not_mem_entryLines {entries : List Entry} (bare : ∀ key ∈ entries.map Entry.key, IsBare key)
    (written : ∀ entry ∈ entries, Written entry.text entry.value) : '\r' ∉ entryLines entries := by
  intro inside
  obtain ⟨entry, member, inside⟩ := List.mem_flatMap.mp inside
  simp only [Settings.line, String.toList_append, List.mem_append] at inside
  rcases inside with ((inside | inside) | inside) | inside
  · exact absurd ((bare _ (List.mem_map_of_mem member)).2 _ inside) (by decide)
  · simp at inside
  · exact absurd ((written entry member).mem inside) (by decide)
  · simp at inside

theorem unifyLineBreaks_of_plain {cs : List Char} (plain : '\r' ∉ cs) : unifyLineBreaks cs = cs := by
  fun_induction unifyLineBreaks cs with
  | case1 rest ih => exact absurd List.mem_cons_self plain
  | case2 c rest _ ih => rw [ih fun inside => plain (List.mem_cons_of_mem c inside)]
  | case3 => rfl

/-- A text of lines is the document that it leads to. -/
theorem ofText?_of_leads {text : String} {current : List String} {document : Value}
    (leads : Leads text.toList [] (.table .header []) current document) (noReturn : '\r' ∉ text.toList)
    (noMark : text.toList.head? ≠ some '\ufeff') : ofText? text = some document := by
  have plain : unifyLineBreaks (dropMark text.toList) = text.toList := by
    have unmarked : dropMark text.toList = text.toList := by
      unfold dropMark
      split
      next same => simp [same] at noMark
      next => rfl
    rw [unmarked, unifyLineBreaks_of_plain noReturn]
  obtain ⟨allowed, enough, same⟩ := leads [] (text.toList.length + 1) (by simp)
  obtain ⟨more, rfl⟩ : ∃ more, allowed = more + 1 := ⟨allowed - 1, by simp at enough; omega⟩
  rw [List.append_nil] at same
  simp only [ofText?, plain, same]
  rfl

end GestureCalculator.Toml
