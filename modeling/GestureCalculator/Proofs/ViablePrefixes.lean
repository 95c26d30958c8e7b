import GestureCalculator.Proofs.Pinpointing

/-!
Refused words. The readers of all levels pinpoint the word that they refuse, level of nesting by level of nesting; so an
expression is refused at the first word with which it could not have been completed any more.
-/
namespace GestureCalculator.Expression

/-! ### Readers -/

structure Readers.Discern (readers : Readers) (depth : Nat) : Prop where
  expression : Discerns readers.expression 11 (Derives depth .disjunction)
  negation : Discerns readers.negation 9 (Derives depth .negation)
  factor : Discerns readers.factor 2 (Derives depth .factor)

/-- The readers of nested phrases discern those of one depth less, if there is one. -/
def DiscernBelow : Option Readers → Nat → Prop
  | none, depth => depth = 0
  | some readers, depth => ∃ less, depth = less + 1 ∧ readers.Discern less

theorem DiscernBelow.recognise {inner : Option Readers} {depth : Nat} (below : DiscernBelow inner depth) :
    RecogniseBelow inner depth := by
  cases inner with
  | none => exact below
  | some readers =>
    obtain ⟨less, deeper, discern⟩ := below
    exact ⟨less, deeper, discern.expression.reads, discern.negation.reads, discern.factor.reads⟩

theorem numberLiteral_ne_unexpected {text : String} {ts left : List Lexeme} {found : Option Lexeme} :
    numberLiteral text ts ≠ .error (.malformed (.unexpected found) left) := by
  intro fails
  unfold numberLiteral at fails
  split at fails
  · dsimp only at fails
    split at fails <;> cases fails
  · split at fails <;> cases fails

def nameOf : Lexeme → Option String
  | .name name => some name
  | _ => none

theorem nameOf_eq_some_iff {word : Lexeme} {name : String} : nameOf word = some name ↔ word = .name name := by
  cases word <;> simp [nameOf]

theorem atom_refuses {inner : Option Readers} {ts : List Lexeme} (refused : ∀ word ∈ ts.head?, ¬ word.beginsAtom) :
    atom inner ts = unexpected ts := by
  cases ts with
  | nil => rfl
  | cons word ts =>
    have refused := refused word rfl
    cases word with
    | number | quoted => exact absurd trivial refused
    | name name =>
      have operator : isOperatorName name := (isOperatorName_iff name).mpr (not_not.mp refused)
      simp [atom, operator]
    | symbol symbol => cases symbol <;> first | rfl | exact absurd trivial refused

theorem power_eq (inner : Option Readers) (ts : List Lexeme) : power inner ts = primary inner ts >>= fun taken =>
    if taken.2.head? = some (.symbol .power) then
      nested inner (fun readers => readers.factor) taken.2.tail >>= fun exponent =>
        .ok (.binary .pow taken.1 exponent.1, exponent.2)
    else .ok (taken.1, taken.2) := by
  refine bind_congr_of_ok fun taken _ => ?_
  obtain ⟨base, rest⟩ := taken
  dsimp only
  split
  · rfl
  · next noPower =>
    refine (if_neg fun sign => ?_).symm
    obtain ⟨rest, rfl⟩ := List.head?_eq_some_iff.mp sign
    exact noPower _ rfl

theorem suffixes_zero (inner : Option Readers) (tree : Tree) (ts : List Lexeme) : suffixes inner 0 tree ts = .ok (tree, ts) := by
  simp [suffixes]

theorem suffixes_succ (inner : Option Readers) (more : Nat) (tree : Tree) (ts : List Lexeme) :
    suffixes inner (more + 1) tree ts =
      if ts.head? = some (.symbol .openParen) then
        nested inner (fun readers => items .closeParen readers.expression) ts.tail >>= fun taken =>
          suffixes inner more (.call tree taken.1) taken.2
      else if ts.head? = some (.symbol .openBracket) then
        nested inner (fun readers => readers.expression) ts.tail >>= fun taken =>
          expect .closeBracket taken.2 >>= fun closed => suffixes inner more (.subscript tree taken.1) closed.2
      else if ts.head? = some (.symbol .dot) then
        match ts.tail.head?.bind nameOf with
        | some name => suffixes inner more (.attribute tree name) ts.tail.tail
        | none => unexpected ts.tail
      else .ok (tree, ts) := by
  rcases ts with _ | ⟨word, ts⟩
  · simp [suffixes]
  · cases word with
    | symbol symbol =>
      cases symbol with
      | dot => rcases ts with _ | ⟨word, ts⟩ <;> [skip; cases word] <;> simp [suffixes, nameOf]
      | _ => simp [suffixes]
    | _ => simp [suffixes]

section
variable {depth : Nat} {inner : Option Readers} (below : DiscernBelow inner depth)
include below

theorem nested_pinpoints {α : Type} {size : Nat} (read : Readers → Reader α) {phrase : List Lexeme → α → Prop}
    (inside : ∀ readers less, depth = less + 1 → readers.Discern less → Pinpoints size (read readers) phrase) :
    Pinpoints size (nested inner read) phrase := by
  intro ts found left short fails
  cases inner with
  | none => cases fails
  | some readers =>
    obtain ⟨less, deeper, discern⟩ := below
    exact inside readers less deeper discern ts found left short fails

theorem nested_bind_pinpoints {α β : Type} {size : Nat} (read : Readers → Reader α)
    (next : α × List Lexeme → Except Stop (β × List Lexeme)) {phrase : List Lexeme → β → Prop}
    (inside : ∀ readers less, depth = less + 1 → readers.Discern less →
      Pinpoints size (fun ts => read readers ts >>= next) phrase) :
    Pinpoints size (fun ts => nested inner read ts >>= next) phrase := by
  refine (nested_pinpoints below (fun readers ts => read readers ts >>= next) inside).congr fun ts _ => ?_
  cases inner <;> rfl

theorem atom_pinpoints (size : Nat) : Pinpoints size (atom inner) (Derives depth .atom) := by
  have group : Pinpoints size (nested inner fun readers => parenthesized readers.expression)
      fun words tree => Derives depth .atom (.symbol .openParen :: words) tree := by
    refine nested_pinpoints below _ fun readers less deeper discern => ?_
    subst deeper
    exact parenthesized_pinpoints discern.expression size
  have list : Pinpoints size (nested inner fun readers => items .closeBracket readers.expression)
      fun words trees => Derives depth .atom (.symbol .openBracket :: words) (.list trees) := by
    refine nested_pinpoints below _ fun readers less deeper discern => ?_
    subst deeper
    exact ((items_discerns discern.expression (.inr rfl)).pins size).imp fun _ _ enclosed => enclosed.list
  -- A name begins an atom or not by its text and a number may be refused by its value, so no mark selects the reader here.
  intro ts found left short fails
  by_cases refused : ∀ word ∈ ts.head?, ¬ word.beginsAtom
  · rw [atom_refuses refused] at fails
    cases fails
    refine ⟨[], rfl, rfl, fun left' _ head => atom_refuses (head ▸ refused), [.name "x"], nameTree "x", ?_⟩
    exact derives_nameTree depth (by decide)
  · push Not at refused
    obtain ⟨word, begins, fits⟩ := refused
    obtain ⟨ts, rfl⟩ := List.head?_eq_some_iff.mp begins
    have less {n : Nat} (short : n + 1 ≤ size) : n ≤ size := (Nat.le_succ n).trans short
    cases word with
    | number text =>
      rcases bind_error_iff.mp fails with stopped | ⟨_, _, stopped⟩
      · exact absurd stopped numberLiteral_ne_unexpected
      · cases stopped
    | quoted => cases fails
    | name name =>
      have plain : ¬ isOperatorName name := fun operator => fits ((isOperatorName_iff name).mp operator)
      simp [atom, plain] at fails
    | symbol symbol =>
      cases symbol with
      | openParen =>
        obtain ⟨us, rfl, first, stays, viable⟩ := group ts found left (less short) fails
        exact ⟨_ :: us, rfl, first, fun left' short' => stays left' (less short'), viable⟩
      | openBracket =>
        have run := list.map Tree.list fun _ _ derives => derives
        obtain ⟨us, rfl, first, stays, viable⟩ := run ts found left (less short) fails
        exact ⟨_ :: us, rfl, first, fun left' short' => stays left' (less short'), viable⟩
      | _ => exact absurd fits id

theorem atom_discerns : Discerns (atom inner) 0 (Derives depth .atom) :=
  ⟨atom_reads below.recognise, atom_pinpoints below⟩

theorem suffixes_enough : ∀ {fuel fuel' : Nat} {tree : Tree} {ts : List Lexeme}, ts.length ≤ fuel → ts.length ≤ fuel' →
    suffixes inner fuel tree ts = suffixes inner fuel' tree ts := by
  intro fuel
  induction fuel with
  | zero =>
    intro fuel' tree ts short _
    obtain rfl := List.length_eq_zero_iff.mp (Nat.le_zero.mp short)
    cases fuel' <;> simp [suffixes_zero, suffixes_succ]
  | succ fuel ih =>
    intro fuel' tree ts short short'
    cases fuel' with
    | zero =>
      obtain rfl := List.length_eq_zero_iff.mp (Nat.le_zero.mp short')
      simp [suffixes_zero, suffixes_succ]
    | succ fuel' =>
      have enough {tree : Tree} {rest : List Lexeme} (less : rest.length + 1 ≤ ts.length) :
          suffixes inner fuel tree rest = suffixes inner fuel' tree rest := ih (by omega) (by omega)
      rw [suffixes_succ, suffixes_succ]
      split_ifs with call subscript dot
      · obtain ⟨ts, rfl⟩ := List.head?_eq_some_iff.mp call
        refine bind_congr_of_ok fun taken read => ?_
        obtain ⟨readers, rfl, read⟩ := nested_ok_iff.mp read
        obtain ⟨less, _, discern⟩ := below
        have args := items_discerns discern.expression (.inl rfl)
        exact enough (Nat.succ_le_succ (args.reads.length_le read))
      · obtain ⟨ts, rfl⟩ := List.head?_eq_some_iff.mp subscript
        refine bind_congr_of_ok fun taken read => ?_
        obtain ⟨readers, rfl, read⟩ := nested_ok_iff.mp read
        obtain ⟨less, _, discern⟩ := below
        refine bind_congr_of_ok fun closed read' => enough (Nat.succ_le_succ ?_)
        exact ((expect_discerns .closeBracket).reads.length_le read').trans (discern.expression.reads.length_le read)
      · obtain ⟨ts, rfl⟩ := List.head?_eq_some_iff.mp dot
        rw [List.tail_cons]
        cases ts.head?.bind nameOf with
        | none => rfl
        | some name => exact enough (by simp)
      · rfl

theorem suffixes_pinpoints : ∀ fuel tree, Pinpoints fuel (suffixes inner fuel tree) (Suffixed depth tree) := by
  intro fuel
  induction fuel with
  | zero => exact fun tree => .of_ok (suffixes_zero inner tree)
  | succ fuel ih =>
    intro tree
    refine Pinpoints.congr ?_ fun ts _ => suffixes_succ inner fuel tree ts
    refine Pinpoints.word (.symbol .openParen)
      (fun ts => nested inner (fun readers => items .closeParen readers.expression) ts >>= fun taken =>
        suffixes inner fuel (.call tree taken.1) taken.2) ?_ ?_
    · refine nested_bind_pinpoints below _ _ fun readers less deeper discern => ?_
      exact Pinpoints.bind (fun args => suffixes inner fuel (.call tree args)) (fun args => Suffixed depth (.call tree args))
        (items_discerns discern.expression (.inl rfl)) (fun args => ih _) (fun args => ⟨_, _, .none⟩)
        fun us args vs result enclosed behind => .call deeper enclosed behind
    refine Pinpoints.word (.symbol .openBracket)
      (fun ts => nested inner (fun readers => readers.expression) ts >>= fun taken =>
        expect .closeBracket taken.2 >>= fun closed => suffixes inner fuel (.subscript tree taken.1) closed.2) ?_ ?_
    · refine nested_bind_pinpoints below _ _ fun readers less deeper discern => ?_
      refine Pinpoints.bind
        (fun index ts => expect .closeBracket ts >>= fun closed => suffixes inner fuel (.subscript tree index) closed.2)
        (fun index vs result => ∃ ws, vs = .symbol .closeBracket :: ws ∧ Suffixed depth (.subscript tree index) ws result)
        discern.expression (fun index => ?_) (fun index => ⟨_, _, [], rfl, .none⟩) ?_
      · refine Pinpoints.bind (fun _ => suffixes inner fuel (.subscript tree index))
          (fun _ => Suffixed depth (.subscript tree index)) (expect_discerns .closeBracket) (fun _ => ih _)
          (fun _ => ⟨_, _, .none⟩) ?_
        rintro _ _ ws result rfl behind
        exact ⟨ws, rfl, behind⟩
      · rintro us index _ result derives ⟨ws, rfl, behind⟩
        exact .subscript deeper derives behind
    refine Pinpoints.word (.symbol .dot) (fun ts => match ts.head?.bind nameOf with
      | some name => suffixes inner fuel (.attribute tree name) ts.tail
      | none => unexpected ts) ?_ (.of_ok fun _ => rfl)
    refine Pinpoints.mono ?_ (Nat.le_add_right fuel 1)
    refine Pinpoints.marked nameOf (fun name => suffixes inner fuel (.attribute tree name)) unexpected ?_ ?_ ?_ ?_
    · exact fun ts name named => by rw [named]
    · exact fun ts none => by rw [none]
    · intro word name named
      obtain rfl := nameOf_eq_some_iff.mp named
      exact (ih _).imp fun _ _ behind => .attributeAccess behind
    · exact .refusing ⟨[.name "x"], _, .attributeAccess .none⟩

theorem primary_discerns : Discerns (primary inner) 1 (Derives depth .primary) where
  reads := primary_reads below.recognise
  pins := by
    intro size
    refine Pinpoints.bind (fun tree ts => suffixes inner ts.length tree ts) (Suffixed depth) (atom_discerns below)
      (fun tree => ?_) (fun tree => ⟨_, _, .none⟩) ?_
    · exact (suffixes_pinpoints below size tree).congr fun ts short => suffixes_enough below le_rfl short
    · exact fun us base vs tree derives suffixed => derives_primary_iff.mpr ⟨us, vs, base, rfl, derives, suffixed⟩

theorem power_pinpoints (size : Nat) : Pinpoints size (power inner) (Derives depth .power) := by
  refine Pinpoints.congr ?_ fun ts _ => power_eq inner ts
  refine Pinpoints.bind (fun base ts => if ts.head? = some (.symbol .power) then
      nested inner (fun readers => readers.factor) ts.tail >>= fun exponent =>
        .ok (.binary .pow base exponent.1, exponent.2)
    else .ok (base, ts))
    (fun base vs tree => ∀ us, Derives depth .primary us base → Derives depth .power (us ++ vs) tree)
    (primary_discerns below) (fun base => ?_) (fun base => ⟨[], base, fun us derives => .alone (by decide) ?_⟩)
    fun us base vs tree derives more => more us derives
  · refine Pinpoints.mono ?_ (Nat.le_add_right size 1)
    refine Pinpoints.word (.symbol .power) (fun ts => nested inner (fun readers => readers.factor) ts >>=
      fun exponent => .ok (Tree.binary .pow base exponent.1, exponent.2)) ?_ (.of_ok fun _ => rfl)
    refine nested_bind_pinpoints below _ _ fun readers less deeper discern => ?_
    subst deeper
    exact (discern.factor.pins size).map (fun exponent => Tree.binary .pow base exponent)
      fun vs exponent behind us derives => .power derives behind
  · rwa [List.append_nil]

theorem factor_discerns : Discerns (factor inner) 2 (Derives depth .factor) where
  reads := factor_reads below.recognise
  pins := by
    intro size
    refine Pinpoints.mono ?_ (Nat.le_add_right size 1)
    refine Pinpoints.marked unaryOperator (fun op ts => nested inner (fun readers => readers.factor) ts >>=
      fun operand => .ok (Tree.unary op operand.1, operand.2)) (power inner) ?_ ?_ ?_ ?_
    · intro ts op sign
      simp only [factor, sign]
      rfl
    · intro ts noSign
      simp only [factor, noSign]
    · intro word op sign
      obtain ⟨symbol, rfl, member⟩ := unaryOperator_eq_some_iff.mp sign
      refine nested_bind_pinpoints below _ _ fun readers less deeper discern => ?_
      subst deeper
      exact (discern.factor.pins size).map (Tree.unary op) fun us operand derives => .sign member derives
    · exact (power_pinpoints below (size + 1)).imp fun _ _ derives => .alone (by decide) derives

end

theorem leftChain_discerns {depth place : Nat} {level : Level} {phrase : Phrase} {operand : Reader Tree}
    (levelAt : LevelAt level phrase (place + 1)) (discerns : Discerns operand place (Derives depth phrase.tighter)) :
    Discerns (leftChain level operand) (place + 1) (Derives depth phrase) where
  reads := leftChain_reads levelAt discerns.reads
  pins := by
    intro size
    refine ((chain_pinpoints level discerns chained size).congr fun ts _ => ?_).imp fun words tree parts =>
      (derives_chained_iff levelAt).mpr parts
    exact bind_congr_of_ok fun taken _ => leftChainFrom_eq ..

theorem joined_discerns {depth place : Nat} {op : BoolOp} {name : String} {phrase : Phrase} {condition : Reader Tree}
    (joinedAt : JoinedAt op name phrase (place + 1)) (discerns : Discerns condition place (Derives depth phrase.tighter)) :
    Discerns (joined op name condition) (place + 1) (Derives depth phrase) where
  reads := joined_reads joinedAt discerns.reads
  pins := by
    intro size
    have chain := chain_pinpoints (nameMark name) discerns (fun first sides => booleanTree op first (sides.map Prod.snd)) size
    refine (chain.congr fun ts _ => ?_).imp fun words tree parts => (derives_joined_iff joinedAt).mpr parts
    refine bind_congr_of_ok fun taken _ => ?_
    dsimp only
    rw [joinedFrom_eq, bind_assoc]
    rfl

section
variable {depth : Nat} {inner : Option Readers} (below : DiscernBelow inner depth)
include below

theorem operand_discerns : Discerns (operand inner) 8 (Derives depth .bitOr) := by
  have term := leftChain_discerns .term (factor_discerns below)
  have sum := leftChain_discerns .sum term
  have shift := leftChain_discerns .shift sum
  have bitAnd := leftChain_discerns .bitAnd shift
  have bitXor := leftChain_discerns .bitXor bitAnd
  exact leftChain_discerns .bitOr bitXor

theorem comparison_pinpoints (size : Nat) : Pinpoints size (comparison inner) (Derives depth .comparison) := by
  have chain := chain_pinpoints compareOperator (operand_discerns below) comparisonTree size
  refine (chain.congr fun ts _ => ?_).imp fun words tree parts => derives_comparison_iff.mpr parts
  refine bind_congr_of_ok fun taken _ => ?_
  dsimp only
  rw [comparisons_eq]
  rfl

theorem negation_discerns : Discerns (negation inner) 9 (Derives depth .negation) where
  reads := negation_reads below.recognise
  pins := by
    intro size
    refine Pinpoints.mono ?_ (Nat.le_add_right size 1)
    refine Pinpoints.word (.name "not") (fun ts => nested inner (fun readers => readers.negation) ts >>=
      fun operand => .ok (Tree.unary .not operand.1, operand.2)) ?_ ?_
    · refine nested_bind_pinpoints below _ _ fun readers less deeper discern => ?_
      subst deeper
      exact (discern.negation.pins size).map (Tree.unary .not) fun us operand derives => .negation derives
    · exact (comparison_pinpoints below (size + 1)).imp fun _ _ derives => .alone (by decide) derives

theorem readersOver_discern : (readersOver inner).Discern depth where
  expression := joined_discerns .or (joined_discerns .and (negation_discerns below))
  negation := negation_discerns below
  factor := factor_discerns below

end

theorem readersWithin_discern (depth : Nat) : (readersWithin depth).Discern depth := by
  induction depth with
  | zero =>
    have below : DiscernBelow none 0 := rfl
    exact readersOver_discern below
  | succ depth ih =>
    have below : DiscernBelow (some (readersWithin depth)) (depth + 1) := ⟨depth, rfl, ih⟩
    exact readersOver_discern below

/-! ### All words -/

theorem Pinpoints.unbounded {α : Type} {reader : Reader α} {phrase : List Lexeme → α → Prop}
    (pins : ∀ size, Pinpoints size reader phrase) {ts left : List Lexeme} {found : Option Lexeme}
    (fails : reader ts = .error (.malformed (.unexpected found) left)) :
    ∃ us, ts = us ++ left ∧ found = left.head? ∧
      (∀ left', left'.head? = left.head? → reader (us ++ left') = unexpected left') ∧ ∃ vs value, phrase (us ++ vs) value := by
  obtain ⟨us, split, first, _, viable⟩ := pins ts.length ts found left le_rfl fails
  refine ⟨us, split, first, fun left' head => ?_, viable⟩
  -- A bound that leaves room for the other words gives the same words before the refused one.
  obtain ⟨us', split', _, stays, _⟩ := pins (ts.length + (us ++ left').length) ts found left (Nat.le_add_right _ _) fails
  obtain rfl := List.append_cancel_right (split.symm.trans split')
  exact stays left' (Nat.le_add_left _ _) head

/-- A tree with no words behind it. -/
def wholeTree : Reader Tree := fun ts =>
  (readersWithin maxDepth).expression ts >>= fun taken => if taken.2 = [] then .ok (taken.1, []) else unexpected taken.2

theorem treeOf_eq (ts : List Lexeme) : treeOf ts = (wholeTree ts).map Prod.fst := by
  unfold treeOf wholeTree
  cases (readersWithin maxDepth).expression ts with
  | error stop => rfl
  | ok taken =>
    obtain ⟨tree, rest⟩ := taken
    cases rest <;> rfl

theorem wholeTree_pinpoints (size : Nat) : Pinpoints size wholeTree (Derives maxDepth .disjunction) := by
  refine Pinpoints.bind (fun tree rest => if rest = [] then .ok (tree, []) else unexpected rest)
    (fun tree vs result => vs = [] ∧ result = tree) (readersWithin_discern maxDepth).expression ?_
    (fun tree => ⟨[], tree, rfl, rfl⟩) ?_
  · intro tree rest found left _ fails
    dsimp only at fails
    split_ifs at fails with none
    cases fails
    refine ⟨[], rfl, rfl, fun left' _ head => if_neg ?_, [], tree, rfl, rfl⟩
    rintro rfl
    exact none (List.head?_eq_none_iff.mp head.symm)
  · rintro us tree _ _ derives ⟨rfl, rfl⟩
    rwa [List.append_nil]

theorem treeOf_pinpoints {ts left : List Lexeme} {found : Option Lexeme}
    (fails : treeOf ts = .error (.malformed (.unexpected found) left)) :
    ∃ us, ts = us ++ left ∧ found = left.head? ∧
      (∀ left', left'.head? = left.head? → treeOf (us ++ left') = .error (.malformed (.unexpected found) left')) ∧
      ∃ vs tree, treeOf (us ++ vs) = .ok tree := by
  rw [treeOf_eq, map_error_iff] at fails
  obtain ⟨us, split, first, stays, vs, tree, derives⟩ := Pinpoints.unbounded wholeTree_pinpoints fails
  refine ⟨us, split, first, fun left' head => ?_, vs, tree, treeOf_ok_iff.mpr derives⟩
  rw [treeOf_eq, stays left' head, first, ← head]
  rfl

theorem treeOfTokens_ok {size : Nat} {tokens : List Token} {tree : Tree}
    (read : treeOf (tokens.map Token.lexeme) = .ok tree) : treeOfTokens size tokens = .ok tree := by
  have filled : tokens ≠ [] := by
    rintro rfl
    obtain ⟨_, _, absent, _⟩ := derives_begins (treeOf_ok_iff.mp read)
    cases absent
  rw [treeOfTokens_of_ne_nil filled, read]
  rfl

theorem exists_stop {size offset : Nat} {tokens : List Token} {found : Option Lexeme}
    (fails : treeOfTokens size tokens = .error (.malformed offset (.unexpected found))) :
    ∃ left, treeOf (tokens.map Token.lexeme) = .error (.malformed (.unexpected found) left) ∧
      offset = offsetOf tokens size left ∧ tokens ≠ [] := by
  have filled : tokens ≠ [] := by
    rintro rfl
    cases fails
  rw [treeOfTokens_of_ne_nil filled] at fails
  cases read : treeOf (tokens.map Token.lexeme) with
  | ok tree =>
    rw [read] at fails
    cases fails
  | error stop =>
    rw [read] at fails
    cases stop with
    | integerOverflow => cases fails
    | malformed cause left =>
      cases fails
      exact ⟨left, rfl, rfl, filled⟩

theorem offsetOf_append (before behind : List Token) (size : Nat) :
    offsetOf (before ++ behind) size (behind.map Token.lexeme) = (behind.head?.map Token.offset).getD size := by
  have place : (before ++ behind).length - (behind.map Token.lexeme).length = before.length := by simp
  rw [offsetOf, place, List.drop_left]
  cases behind <;> rfl

theorem exists_append_of_same {α : Type} {before behind others : List α}
    (same : ∀ j ≤ before.length, others[j]? = (before ++ behind)[j]?) :
    ∃ behind', others = before ++ behind' ∧ behind'.head? = behind.head? := by
  induction before generalizing others with
  | nil =>
    refine ⟨others, rfl, ?_⟩
    rw [List.head?_eq_getElem?, List.head?_eq_getElem?]
    exact same 0 le_rfl
  | cons first before ih =>
    cases others with
    | nil => cases same 0 (Nat.zero_le _)
    | cons other others =>
      obtain rfl : other = first := by simpa using same 0 (Nat.zero_le _)
      obtain ⟨behind', rfl, head⟩ := ih fun j le => by simpa using same (j + 1) (Nat.succ_le_succ le)
      exact ⟨behind', rfl, head⟩

/-- If words are refused because one of them, or the end, cannot stand where it does, then it is the first of which that is so:
    words that are the same up to it are refused in the same way, and there are words that are the same up to the one before it
    and make an expression. -/
theorem refused_at_first_impossible_word {size offset : Nat} {tokens : List Token} {found : Option Lexeme}
    (fails : treeOfTokens size tokens = .error (.malformed offset (.unexpected found))) :
    ∃ k, (places size tokens)[k]? = some offset ∧ found = tokens[k]?.map Token.lexeme ∧
      (∀ size' others, (∀ j ≤ k, others[j]? = tokens[j]?) → (k = tokens.length → size' = size) →
        treeOfTokens size' others = .error (.malformed offset (.unexpected found))) ∧
      ∃ others tree, (∀ j < k, others[j]? = tokens[j]?) ∧ ∀ size', treeOfTokens size' others = .ok tree := by
  obtain ⟨left, stopped, rfl, filled⟩ := exists_stop fails
  obtain ⟨us, split, first, stays, vs, tree, accepted⟩ := treeOf_pinpoints stopped
  obtain ⟨before, behind, rfl, rfl, rfl⟩ := List.map_eq_append_iff.mp split
  have place : (before ++ behind).length - (behind.map Token.lexeme).length = before.length := by simp
  refine ⟨before.length, ?_, ?_, ?_, ?_⟩
  · rw [← place]
    exact getElem?_places
  · rw [first, List.getElem?_append_right le_rfl, Nat.sub_self, List.head?_map, List.head?_eq_getElem?]
  · intro size' others same ends
    obtain ⟨behind', rfl, head⟩ := exists_append_of_same same
    have size_eq : behind = [] → size' = size := by
      rintro rfl
      exact ends (by simp)
    have filled' : before ++ behind' ≠ [] := by
      intro empty
      obtain ⟨rfl, rfl⟩ := List.append_eq_nil_iff.mp empty
      exact filled (List.head?_eq_none_iff.mp head.symm)
    rw [treeOfTokens_of_ne_nil filled', List.map_append, stays _ (by rw [List.head?_map, List.head?_map, head])]
    simp only [Except.mapError, Stop.failure, offsetOf_append, head]
    cases behind with
    | nil => rw [size_eq rfl]
    | cons token behind => rfl
  · refine ⟨before ++ vs.map fun word => ⟨word, 0⟩, tree, fun j inside => ?_, fun size' => treeOfTokens_ok ?_⟩
    · rw [List.getElem?_append_left inside, List.getElem?_append_left inside]
    · simpa [Function.comp_def] using accepted

theorem refused_at_first_impossible_word_behind_comma : ∃ (k : Nat) (others : List Token) (tree : Tree),
    (places 6 [⟨.name "f", 0⟩, ⟨.symbol .openParen, 1⟩, ⟨.number "1", 2⟩, ⟨.symbol .comma, 3⟩, ⟨.symbol .times, 5⟩])[k]? =
      some 5 ∧
    (∀ j < k, others[j]? = [⟨.name "f", 0⟩, ⟨.symbol .openParen, 1⟩, ⟨.number "1", 2⟩, ⟨.symbol .comma, 3⟩,
      (⟨.symbol .times, 5⟩ : Token)][j]?) ∧
    ∀ size, treeOfTokens size others = .ok tree := by
  have fails : treeOfTokens 6 [⟨.name "f", 0⟩, ⟨.symbol .openParen, 1⟩, ⟨.number "1", 2⟩, ⟨.symbol .comma, 3⟩,
      ⟨.symbol .times, 5⟩] = .error (.malformed 5 (.unexpected (some (.symbol .times)))) := by cbv
  obtain ⟨k, place, _, _, others, tree, same, accepted⟩ := refused_at_first_impossible_word fails
  exact ⟨k, others, tree, place, same, accepted⟩

end GestureCalculator.Expression
