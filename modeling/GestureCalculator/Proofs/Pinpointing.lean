import GestureCalculator.Proofs.Recognition

/-!
Where readers stop. A reader that refuses a word has taken words that begin a phrase of its kind, so the word is the first one
that cannot be right, and what stands behind that word makes no difference (`Pinpoints`). Each way to build a reader from others
keeps this, and so do the loops over chains and lists, which never run out of rounds. What a loop does is shown by induction on
the number of its rounds, for texts of no more words than that; hence the bound on the words.
-/
namespace GestureCalculator.Expression

/-- On at most so many words: a reader that refuses a word has taken words with which a phrase begins, and refuses the same word
    whatever stands behind it. -/
def Pinpoints {α : Type} (size : Nat) (reader : Reader α) (phrase : List Lexeme → α → Prop) : Prop :=
  ∀ ts found left, ts.length ≤ size → reader ts = .error (.malformed (.unexpected found) left) →
    ∃ us, ts = us ++ left ∧ found = left.head? ∧
      (∀ left', (us ++ left').length ≤ size → left'.head? = left.head? → reader (us ++ left') = unexpected left') ∧
      ∃ vs value, phrase (us ++ vs) value

/-- A reader takes exactly the phrases that do not go on behind what it took, and pinpoints the words that it refuses. -/
structure Discerns {α : Type} (reader : Reader α) (place : Nat) (phrase : List Lexeme → α → Prop) : Prop where
  reads : Reads reader place phrase
  pins : ∀ size, Pinpoints size reader phrase

section
variable {α β : Type} {size : Nat} {reader other : Reader α} {phrase : List Lexeme → α → Prop}

theorem Pinpoints.mono {less : Nat} (pin : Pinpoints size reader phrase) (le : less ≤ size) :
    Pinpoints less reader phrase := by
  intro ts found left short fails
  obtain ⟨us, split, first, stays, viable⟩ := pin ts found left (short.trans le) fails
  exact ⟨us, split, first, fun left' short' => stays left' (short'.trans le), viable⟩

theorem Pinpoints.congr (pin : Pinpoints size reader phrase) (same : ∀ ts, ts.length ≤ size → other ts = reader ts) :
    Pinpoints size other phrase := by
  intro ts found left short fails
  rw [same ts short] at fails
  obtain ⟨us, split, first, stays, viable⟩ := pin ts found left short fails
  refine ⟨us, split, first, fun left' short' head => ?_, viable⟩
  rw [same _ short']
  exact stays left' short' head

theorem Pinpoints.imp {phrase' : List Lexeme → α → Prop} (pin : Pinpoints size reader phrase)
    (imp : ∀ us value, phrase us value → phrase' us value) : Pinpoints size reader phrase' := by
  intro ts found left short fails
  obtain ⟨us, split, first, stays, vs, value, holds⟩ := pin ts found left short fails
  exact ⟨us, split, first, stays, vs, value, imp _ _ holds⟩

theorem Pinpoints.of_ok {result : List Lexeme → α × List Lexeme} (done : ∀ ts, reader ts = .ok (result ts)) :
    Pinpoints size reader phrase := by
  intro ts found left _ fails
  rw [done] at fails
  cases fails

theorem Pinpoints.refusing (viable : ∃ vs value, phrase vs value) : Pinpoints size unexpected phrase := by
  intro ts found left _ fails
  cases fails
  exact ⟨[], rfl, rfl, fun _ _ _ => rfl, viable⟩

theorem head?_append_congr {us vs ws : List Lexeme} (same : vs.head? = ws.head?) : (us ++ vs).head? = (us ++ ws).head? := by
  cases us with
  | nil => exact same
  | cons u us => rfl

theorem Stops.congr {place : Nat} {ts us : List Lexeme} (stops : Stops place ts) (same : us.head? = ts.head?) :
    Stops place us := by
  rwa [Stops, same]

/-- A reader and then another, which depends on what the first one took. -/
theorem Pinpoints.bind {place : Nat} (next : α → Reader β) (behind : α → List Lexeme → β → Prop)
    {whole : List Lexeme → β → Prop} (discerns : Discerns reader place phrase)
    (pinNext : ∀ value, Pinpoints size (next value) (behind value))
    (exists_behind : ∀ value, ∃ vs result, behind value vs result)
    (joins : ∀ us value vs result, phrase us value → behind value vs result → whole (us ++ vs) result) :
    Pinpoints size (fun ts => reader ts >>= fun taken => next taken.1 taken.2) whole := by
  intro ts found left short fails
  rcases bind_error_iff.mp fails with stopped | ⟨⟨value, rest⟩, taken, stopped⟩
  · obtain ⟨us, split, first, stays, vs, value, holds⟩ := discerns.pins size ts found left short stopped
    obtain ⟨ws, result, more⟩ := exists_behind value
    refine ⟨us, split, first, fun left' short' head => ?_, vs ++ ws, result, ?_⟩
    · dsimp only
      rw [stays left' short' head]
      rfl
    · rw [← List.append_assoc]
      exact joins _ _ _ _ holds more
  · -- The first reader stops before the refused word at the latest, so it stops there whatever stands behind that word.
    obtain ⟨us, rfl, holds, stops⟩ := (discerns.reads _ _ _).mp taken
    have short' : rest.length ≤ size := by
      rw [List.length_append] at short
      omega
    obtain ⟨vs, rfl, first, stays, ws, result, more⟩ := pinNext value rest found left short' stopped
    refine ⟨us ++ vs, by simp, first, fun left' short'' head => ?_, ws, result, ?_⟩
    · rw [List.append_assoc] at short'' ⊢
      have again := (discerns.reads _ _ _).mpr ⟨us, rfl, holds, stops.congr (head?_append_congr head)⟩
      dsimp only
      rw [again]
      refine stays left' ?_ head
      rw [List.length_append] at short''
      omega
    · rw [List.append_assoc]
      exact joins _ _ _ _ holds more

theorem Pinpoints.map (f : α → β) {whole : List Lexeme → β → Prop} (pin : Pinpoints size reader phrase)
    (makes : ∀ us value, phrase us value → whole us (f value)) :
    Pinpoints size (fun ts => reader ts >>= fun taken => .ok (f taken.1, taken.2)) whole := by
  intro ts found left short fails
  rcases bind_error_iff.mp fails with stopped | ⟨_, _, stopped⟩
  · obtain ⟨us, split, first, stays, vs, value, holds⟩ := pin ts found left short stopped
    refine ⟨us, split, first, fun left' short' head => ?_, vs, f value, makes _ _ holds⟩
    dsimp only
    rw [stays left' short' head]
    rfl
  · cases stopped

/-- A word with a mark and what is read behind it, or else what another reader takes. -/
theorem Pinpoints.marked (mark : Lexeme → Option β) (taken : β → Reader α) (other : Reader α)
    (onMark : ∀ ts found, ts.head?.bind mark = some found → reader ts = taken found ts.tail)
    (onOther : ∀ ts, ts.head?.bind mark = none → reader ts = other ts)
    (pin : ∀ word found, mark word = some found → Pinpoints size (taken found) fun us value => phrase (word :: us) value)
    (pinOther : Pinpoints (size + 1) other phrase) : Pinpoints (size + 1) reader phrase := by
  intro ts found left short fails
  cases marked : ts.head?.bind mark with
  | none =>
    rw [onOther ts marked] at fails
    obtain ⟨us, rfl, first, stays, viable⟩ := pinOther ts found left short fails
    refine ⟨us, rfl, first, fun left' short' head => ?_, viable⟩
    rw [onOther _ (by rwa [head?_append_congr head])]
    exact stays left' short' head
  | some mark' =>
    rw [onMark ts mark' marked] at fails
    obtain ⟨word, begins, marks⟩ := Option.bind_eq_some_iff.mp marked
    obtain ⟨rest, rfl⟩ := List.head?_eq_some_iff.mp begins
    obtain ⟨us, split, first, stays, viable⟩ := pin word mark' marks rest found left (Nat.le_of_succ_le_succ short) fails
    obtain rfl : rest = us ++ left := split
    refine ⟨word :: us, rfl, first, fun left' short' head => ?_, viable⟩
    rw [onMark _ mark' (by simpa using marks)]
    exact stays left' (Nat.le_of_succ_le_succ short') head

/-- A certain word and what is read behind it, or else what another reader takes. -/
theorem Pinpoints.word (word : Lexeme) (taken : Reader α)
    (pin : Pinpoints size taken fun us value => phrase (word :: us) value) (pinOther : Pinpoints (size + 1) other phrase) :
    Pinpoints (size + 1) (fun ts => if ts.head? = some word then taken ts.tail else other ts) phrase := by
  have marks {ts : List Lexeme} : (ts.head?.bind fun found => if found = word then some () else none) =
      if ts.head? = some word then some () else none := by
    cases ts <;> simp
  refine Pinpoints.marked (fun found => if found = word then some () else none) (fun _ => taken) other ?_ ?_ ?_ pinOther
  · intro ts _ marked
    rw [marks] at marked
    split_ifs at marked with first
    exact if_pos first
  · intro ts unmarked
    rw [marks] at unmarked
    split_ifs at unmarked with first
    exact if_neg first
  · intro found _ marked
    obtain rfl : found = word := by
      by_contra different
      simp [different] at marked
    exact pin

/-- A certain word and nothing else, or else what another reader takes. -/
theorem Pinpoints.ending (word : Lexeme) (value : α) (pinOther : Pinpoints (size + 1) other phrase) :
    Pinpoints (size + 1) (fun ts => if ts.head? = some word then .ok (value, ts.tail) else other ts) phrase :=
  Pinpoints.word word (fun ts => .ok (value, ts)) (.of_ok fun _ => rfl) pinOther

end

/-! ### Loops -/

theorem bind_congr_of_ok {ε α β : Type} {first : Except ε α} {next next' : α → Except ε β}
    (same : ∀ value, first = .ok value → next value = next' value) : first >>= next = first >>= next' := by
  cases first with
  | error => rfl
  | ok value => exact same value rfl

theorem Reads.length_le {α : Type} {reader : Reader α} {place : Nat} {phrase : List Lexeme → α → Prop}
    (reads : Reads reader place phrase) {ts rest : List Lexeme} {value : α} (taken : reader ts = .ok (value, rest)) :
    rest.length ≤ ts.length := by
  obtain ⟨words, rfl, _⟩ := (reads _ _ _).mp taken
  simp

section
variable {α β γ : Type} {mark : Lexeme → Option α} {item : Reader β} {place : Nat} {phrase : List Lexeme → β → Prop}

theorem repeated_enough (reads : Reads item place phrase) : ∀ {fuel fuel' : Nat} {ts : List Lexeme},
    ts.length ≤ fuel → ts.length ≤ fuel' → repeated mark item fuel ts = repeated mark item fuel' ts := by
  intro fuel
  induction fuel with
  | zero =>
    intro fuel' ts short _
    obtain rfl := List.length_eq_zero_iff.mp (Nat.le_zero.mp short)
    cases fuel' <;> rfl
  | succ fuel ih =>
    intro fuel' ts short short'
    cases fuel' with
    | zero =>
      obtain rfl := List.length_eq_zero_iff.mp (Nat.le_zero.mp short')
      rfl
    | succ fuel' =>
      simp only [repeated]
      cases marked : ts.head?.bind mark with
      | none => rfl
      | some found =>
        refine bind_congr_of_ok fun taken read => ?_
        have less := reads.length_le read
        rw [List.length_tail] at less
        have enough : repeated mark item fuel taken.2 = repeated mark item fuel' taken.2 := ih (by omega) (by omega)
        rw [enough]

variable (discerns : Discerns item place phrase)
include discerns

theorem repeated_pinpoints : ∀ fuel, Pinpoints fuel (repeated mark item fuel) (Marked mark phrase) := by
  intro fuel
  induction fuel with
  | zero => exact .of_ok fun _ => rfl
  | succ fuel ih =>
    refine Pinpoints.marked mark (fun found ts => item ts >>= fun taken => repeated mark item fuel taken.2 >>= fun more =>
      .ok ((found, taken.1) :: more.1, more.2)) (fun ts => .ok ([], ts)) ?_ ?_ (fun word found marks => ?_) (.of_ok fun _ => rfl)
    · intro ts found marked
      simp only [repeated, marked]
      rfl
    · intro ts unmarked
      simp only [repeated, unmarked]
    · refine Pinpoints.bind
        (fun value ts => repeated mark item fuel ts >>= fun more => .ok ((found, value) :: more.1, more.2))
        (fun value vs sides => ∃ others, Marked mark phrase vs others ∧ sides = (found, value) :: others) discerns
        (fun value => ih.map _ fun us others marked => ⟨others, marked, rfl⟩) (fun value => ⟨[], _, [], .none, rfl⟩) ?_
      rintro us value vs _ holds ⟨others, marked, rfl⟩
      exact .more marks holds marked

variable (mark) in
/-- A phrase and then more of its kind behind marking words. -/
theorem chain_pinpoints (build : β → List (α × β) → γ) (size : Nat) :
    Pinpoints size
      (fun ts => item ts >>= fun taken => repeated mark item taken.2.length taken.2 >>= fun more =>
        .ok (build taken.1 more.1, more.2))
      fun words value => ∃ us vs first sides, words = us ++ vs ∧ phrase us first ∧ Marked mark phrase vs sides ∧
        value = build first sides := by
  refine Pinpoints.bind
    (fun first ts => repeated mark item ts.length ts >>= fun more => .ok (build first more.1, more.2))
    (fun first vs value => ∃ sides, Marked mark phrase vs sides ∧ value = build first sides) discerns ?_
    (fun first => ⟨[], _, [], .none, rfl⟩) ?_
  · intro first
    have run : Pinpoints size (fun ts => repeated mark item ts.length ts) (Marked mark phrase) :=
      (repeated_pinpoints discerns size).congr fun ts short => repeated_enough discerns.reads le_rfl short
    exact run.map _ fun vs sides marked => ⟨sides, marked, rfl⟩
  · rintro us first vs _ holds ⟨sides, marked, rfl⟩
    exact ⟨us, vs, first, sides, rfl, holds, marked, rfl⟩

end

/-! ### Lists and brackets -/

theorem expect_eq (symbol : Symbol) (ts : List Lexeme) :
    expect symbol ts = if ts.head? = some (.symbol symbol) then .ok ((), ts.tail) else unexpected ts := by
  unfold expect
  split
  · simp
  · next other =>
    refine (if_neg fun same => ?_).symm
    obtain ⟨rest, rfl⟩ := List.head?_eq_some_iff.mp same
    exact other _ _ rfl

theorem expect_discerns (symbol : Symbol) : Discerns (expect symbol) 0 fun words _ => words = [.symbol symbol] where
  reads := by
    intro ts _ rest
    rw [expect_ok_iff]
    constructor
    · rintro rfl
      exact ⟨[_], rfl, rfl, stops_zero rest⟩
    · rintro ⟨_, rfl, rfl, _⟩
      rfl
  pins := by
    intro size
    refine Pinpoints.congr (Pinpoints.mono ?_ (Nat.le_add_right size 1)) fun ts _ => expect_eq symbol ts
    exact Pinpoints.ending (.symbol symbol) () (.refusing ⟨_, (), rfl⟩)

section
variable {depth : Nat} {close : Symbol} {expression : Reader Tree}

theorem itemsUpTo_succ (more : Nat) (ts : List Lexeme) : itemsUpTo close expression (more + 1) ts =
    if ts.head? = some (.symbol close) then .ok ([], ts.tail)
    else expression ts >>= fun taken =>
      if taken.2.head? = some (.symbol .comma) then
        itemsUpTo close expression more taken.2.tail >>= fun others => .ok (taken.1 :: others.1, others.2)
      else expect close taken.2 >>= fun closed => .ok ([taken.1], closed.2) := by
  rw [itemsUpTo]
  split_ifs
  · rfl
  · refine bind_congr_of_ok fun taken _ => ?_
    obtain ⟨first, rest⟩ := taken
    dsimp only
    split
    · rfl
    · next noComma =>
      refine (if_neg fun comma => ?_).symm
      obtain ⟨rest, rfl⟩ := List.head?_eq_some_iff.mp comma
      exact noComma _ rfl

theorem parenthesized_eq (ts : List Lexeme) : parenthesized expression ts =
    if ts.head? = some (.symbol .closeParen) then .ok (.tuple [], ts.tail)
    else expression ts >>= fun taken =>
      if taken.2.head? = some (.symbol .closeParen) then .ok (taken.1, taken.2.tail)
      else expect .comma taken.2 >>= fun comma => items .closeParen expression comma.2 >>= fun others =>
        .ok (.tuple (taken.1 :: others.1), others.2) := by
  unfold parenthesized
  split_ifs
  · rfl
  · refine bind_congr_of_ok fun taken _ => ?_
    obtain ⟨first, rest⟩ := taken
    dsimp only
    split
    · rfl
    · next notClosed =>
      refine (if_neg fun closed => ?_).symm
      obtain ⟨rest, rfl⟩ := List.head?_eq_some_iff.mp closed
      exact notClosed _ rfl

theorem itemsUpTo_enough (reads : Reads expression 11 (Derives depth .disjunction)) :
    ∀ {fuel fuel' : Nat} {ts : List Lexeme}, ts.length < fuel → ts.length < fuel' →
      itemsUpTo close expression fuel ts = itemsUpTo close expression fuel' ts := by
  intro fuel
  induction fuel with
  | zero =>
    intro fuel' ts short _
    omega
  | succ fuel ih =>
    intro fuel' ts short short'
    obtain ⟨fuel', rfl⟩ : ∃ less, fuel' = less + 1 := ⟨fuel' - 1, by omega⟩
    rw [itemsUpTo_succ, itemsUpTo_succ]
    split_ifs with closed
    · rfl
    · refine bind_congr_of_ok fun taken read => ?_
      have less := reads.length_le read
      split_ifs with comma
      · obtain ⟨rest, same⟩ := List.head?_eq_some_iff.mp comma
        rw [same, List.length_cons] at less
        have enough : itemsUpTo close expression fuel rest = itemsUpTo close expression fuel' rest :=
          ih (by omega) (by omega)
        rw [same, List.tail_cons, enough]
      · rfl

variable (discerns : Discerns expression 11 (Derives depth .disjunction))
include discerns

theorem itemsUpTo_pinpoints :
    ∀ fuel, Pinpoints fuel (itemsUpTo close expression fuel) (Enclosed depth close) := by
  intro fuel
  induction fuel with
  | zero => exact .refusing ⟨_, _, .none⟩
  | succ fuel ih =>
    refine Pinpoints.congr ?_ fun ts _ => itemsUpTo_succ fuel ts
    refine Pinpoints.ending (.symbol close) [] ?_
    refine Pinpoints.bind (fun first ts => if ts.head? = some (.symbol .comma) then
        itemsUpTo close expression fuel ts.tail >>= fun others => .ok (first :: others.1, others.2)
      else expect close ts >>= fun closed => .ok ([first], closed.2))
      (fun first vs trees => ∀ us, Derives depth .disjunction us first → Enclosed depth close (us ++ vs) trees) discerns
      (fun first => ?_) (fun first => ⟨_, _, fun us derives => .last derives⟩)
      fun us first vs trees derives more => more us derives
    refine Pinpoints.word (.symbol .comma)
      (fun ts => itemsUpTo close expression fuel ts >>= fun others => .ok (first :: others.1, others.2)) ?_ ?_
    · exact ih.map _ fun vs others enclosed us derives => .more derives enclosed
    · refine ((expect_discerns close).pins (fuel + 1)).map (fun _ => [first]) ?_
      rintro _ _ rfl us derives
      exact .last derives

theorem items_discerns (closes : close.Closes) : Discerns (items close expression) 0 (Enclosed depth close) where
  reads := items_reads discerns.reads closes
  pins := by
    intro size
    have run : Pinpoints (size + 1) (itemsUpTo close expression (size + 1)) (Enclosed depth close) :=
      itemsUpTo_pinpoints discerns (size + 1)
    exact (run.mono (Nat.le_add_right size 1)).congr fun ts short =>
      itemsUpTo_enough discerns.reads (Nat.lt_succ_self _) (Nat.lt_succ_of_le short)

theorem parenthesized_pinpoints (size : Nat) : Pinpoints size (parenthesized expression) fun words tree =>
    Derives (depth + 1) .atom (.symbol .openParen :: words) tree := by
  refine Pinpoints.congr (Pinpoints.mono ?_ (Nat.le_add_right size 1)) fun ts _ => parenthesized_eq ts
  refine Pinpoints.ending (.symbol .closeParen) (Tree.tuple []) ?_
  refine Pinpoints.bind (fun first ts => if ts.head? = some (.symbol .closeParen) then .ok (first, ts.tail)
      else expect .comma ts >>= fun comma => items .closeParen expression comma.2 >>= fun others =>
        .ok (.tuple (first :: others.1), others.2))
    (fun first vs tree => ∀ us, Derives depth .disjunction us first →
      Derives (depth + 1) .atom (.symbol .openParen :: (us ++ vs)) tree)
    discerns (fun first => ?_) (fun first => ⟨_, _, fun us derives => .group derives⟩)
    fun us first vs tree derives more => more us derives
  refine Pinpoints.ending (.symbol .closeParen) first ?_
  refine Pinpoints.bind
    (fun _ ts => items .closeParen expression ts >>= fun others => .ok (.tuple (first :: others.1), others.2))
    (fun _ vs tree => ∀ us, Derives depth .disjunction us first →
      Derives (depth + 1) .atom (.symbol .openParen :: (us ++ .symbol .comma :: vs)) tree)
    (expect_discerns .comma) ?_ ?_ ?_
  · intro _
    exact ((items_discerns discerns (.inl rfl)).pins (size + 1)).map (fun others => Tree.tuple (first :: others))
      fun vs others enclosed us derives => enclosed.tuple derives
  · exact fun _ => ⟨_, _, fun us derives => Enclosed.tuple .none derives⟩
  · rintro _ _ vs tree rfl more us derives
    exact more us derives

end

end GestureCalculator.Expression
