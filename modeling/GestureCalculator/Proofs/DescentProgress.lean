import GestureCalculator.Proofs.Descent
import GestureCalculator.Proofs.Segmentation
import GestureCalculator.Proofs.ViablePrefixes
import Mathlib

/-!
The descent goes on. From every place on the entries of a text and every depth that is allowed, each walk does what the reader of
the same phrases does with the words that are left: it comes to an end, it takes at least one word if it takes a phrase, it never
takes the end, and the depth is what it was (`Follows`). The walks call each other without having taken a word, so the induction is
on the words behind the cursor, and within one place each walk rests on the tighter ones.
-/
namespace GestureCalculator.Expression.Descent

/-- The words from a place on. -/
def wordsFrom (tokens : List Token) (place : Nat) : List Lexeme := (tokens.map Token.lexeme).drop place

/-- From a cursor a walk ends as a reader did: at a certain depth and no sooner than at a certain place, behind what the reader took,
    or by refusing the text where the reader stopped. -/
inductive Follows (tokens : List Token) (size : Nat) {α : Type} (walk : Walk α) (start : Cursor) (depth least : Nat) :
    Except Stop (α × List Lexeme) → Prop
  | goes {value : α} {place : Nat} : (walk.run start).run = some (.ok (value, ⟨place, depth⟩)) → least ≤ place →
      place ≤ tokens.length → Follows tokens size walk start depth least (.ok (value, wordsFrom tokens place))
  | halts {stop : Stop} : (walk.run start).run = some (.error (.refused (stop.failure tokens size))) →
      Follows tokens size walk start depth least (.error stop)

theorem run_bind {α β : Type} (first : Walk α) (next : α → Walk β) (start : Cursor) :
    ((first >>= next).run start).run = (first.run start).run.bind fun
      | .ok (value, cursor) => ((next value).run cursor).run
      | .error halt => some (.error halt) := by
  rw [StateT.run_bind, ExceptT.run_bind]
  cases (first.run start).run with
  | none => rfl
  | some outcome => cases outcome <;> rfl

theorem run_step {α β : Type} {first : Walk α} {next : α → Walk β} {start middle : Cursor} {value : α}
    (ran : (first.run start).run = some (.ok (value, middle))) :
    ((first >>= next).run start).run = ((next value).run middle).run := by
  rw [run_bind, ran]
  rfl

section
variable {tokens : List Token} {size place depth least : Nat} {α β : Type}

theorem length_wordsFrom (tokens : List Token) (place : Nat) : (wordsFrom tokens place).length = tokens.length - place := by
  rw [wordsFrom, List.length_drop, List.length_map]

theorem tail_wordsFrom (tokens : List Token) (place : Nat) : (wordsFrom tokens place).tail = wordsFrom tokens (place + 1) :=
  List.tail_drop

theorem wordsFrom_eq_nil_iff : wordsFrom tokens place = [] ↔ tokens.length ≤ place := by
  rw [← List.length_eq_zero_iff, length_wordsFrom]
  omega

theorem lt_of_head? {word : Lexeme} (first : (wordsFrom tokens place).head? = some word) : place < tokens.length := by
  by_contra past
  rw [wordsFrom_eq_nil_iff.mpr (not_lt.mp past)] at first
  cases first

theorem head?_eq_none (past : tokens.length ≤ place) : (wordsFrom tokens place).head? = none := by
  rw [wordsFrom_eq_nil_iff.mpr past]
  rfl

theorem lt_of_marked {mark : Lexeme → Option α} {found : α} (marks : (wordsFrom tokens place).head?.bind mark = some found) :
    place < tokens.length := by
  obtain ⟨word, first, _⟩ := Option.bind_eq_some_iff.mp marks
  exact lt_of_head? first

/-- On the entries of a text there is always a word or the end. -/
theorem getElem?_entriesOf (size : Nat) (listed : place ≤ tokens.length) : (entriesOf tokens size)[place]? =
    some ⟨(wordsFrom tokens place).head?, offsetOf tokens size (wordsFrom tokens place)⟩ := by
  have same : tokens.length - (wordsFrom tokens place).length = place := by
    rw [length_wordsFrom]
    omega
  rw [offsetOf, same]
  rcases listed.eq_or_lt with rfl | before
  · simp [entriesOf, wordsFrom]
  · rw [List.drop_eq_getElem_cons before, entriesOf, List.getElem?_append_left (by rwa [List.length_map])]
    simp [wordsFrom, before]

theorem Follows.mono {walk : Walk α} {start : Cursor} {least' : Nat} {result : Except Stop (α × List Lexeme)}
    (follows : Follows tokens size walk start depth least result) (le : least' ≤ least) :
    Follows tokens size walk start depth least' result := by
  cases follows with
  | goes ran far listed => exact .goes ran (le.trans far) listed
  | halts ran => exact .halts ran

/-- A walk that ends where another one does. -/
theorem Follows.congr {walk walk' : Walk α} {start start' : Cursor} {result : Except Stop (α × List Lexeme)}
    (follows : Follows tokens size walk start depth least result) (same : (walk'.run start').run = (walk.run start).run) :
    Follows tokens size walk' start' depth least result := by
  cases follows with
  | goes ran far listed => exact .goes (same.trans ran) far listed
  | halts ran => exact .halts (same.trans ran)

/-- A walk and then another, which depends on what the first one gives. -/
theorem Follows.bind {walk : Walk α} {next : α → Walk β} {start : Cursor} {middle depth' : Nat}
    {result : Except Stop (α × List Lexeme)} {reader : α × List Lexeme → Except Stop (β × List Lexeme)}
    (follows : Follows tokens size walk start depth middle result)
    (behind : ∀ value place, middle ≤ place → place ≤ tokens.length →
      Follows tokens size (next value) ⟨place, depth⟩ depth' least (reader (value, wordsFrom tokens place))) :
    Follows tokens size (walk >>= next) start depth' least (result >>= reader) := by
  cases follows with
  | @goes value place ran far listed => exact (behind value place far listed).congr (run_step ran)
  | halts ran =>
    refine .halts ?_
    rw [run_bind, ran]
    rfl

/-- A step that is no reader's, and then a walk. -/
theorem Follows.step {first : Walk α} {next : α → Walk β} {start middle : Cursor} {value : α}
    {result : Except Stop (β × List Lexeme)} (ran : (first.run start).run = some (.ok (value, middle)))
    (follows : Follows tokens size (next value) middle depth least result) :
    Follows tokens size (first >>= next) start depth least result := follows.congr (run_step ran)

theorem Follows.pure (value : α) (far : least ≤ place) (listed : place ≤ tokens.length) :
    Follows tokens size (pure value) ⟨place, depth⟩ depth least (.ok (value, wordsFrom tokens place)) :=
  .goes rfl far listed

/-! ### Single steps -/

theorem here_run (size : Nat) (listed : place ≤ tokens.length) :
    ((here (entriesOf tokens size)).run ⟨place, depth⟩).run =
      some (.ok (⟨(wordsFrom tokens place).head?, offsetOf tokens size (wordsFrom tokens place)⟩, ⟨place, depth⟩)) := by
  simp [here, getElem?_entriesOf size listed]

theorem peek_run (size : Nat) (listed : place ≤ tokens.length) :
    ((peek (entriesOf tokens size)).run ⟨place, depth⟩).run = some (.ok ((wordsFrom tokens place).head?, ⟨place, depth⟩)) :=
  run_step (here_run size listed)

theorem advance_run (size : Nat) (before : place < tokens.length) :
    ((advance (entriesOf tokens size)).run ⟨place, depth⟩).run = some (.ok ((), ⟨place + 1, depth⟩)) := by
  have more : place + 1 < (entriesOf tokens size).length := by simpa [entriesOf] using before
  refine (run_step (here_run size before.le)).trans ?_
  simp [more]

theorem refuse_run (size : Nat) (cause : Malformed) (listed : place ≤ tokens.length) :
    ((refuse (α := α) (entriesOf tokens size) cause).run ⟨place, depth⟩).run =
      some (.error (.refused ((Stop.malformed cause (wordsFrom tokens place)).failure tokens size))) :=
  run_step (here_run size listed)

theorem Follows.unexpected (listed : place ≤ tokens.length) :
    Follows tokens size (unexpected (α := α) (entriesOf tokens size)) ⟨place, depth⟩ depth least
      (Expression.unexpected (wordsFrom tokens place)) :=
  .halts ((run_step (peek_run size listed)).trans (refuse_run size _ listed))

/-- A word that does not stand here. -/
theorem Follows.miss {word : Lexeme} {taken other : Walk α} {result : Except Stop (α × List Lexeme)} {depth' : Nat}
    (listed : place ≤ tokens.length) (absent : (wordsFrom tokens place).head? ≠ some word)
    (follows : Follows tokens size other ⟨place, depth⟩ depth' least result) :
    Follows tokens size (eat (entriesOf tokens size) word >>= fun stands => if stands then taken else other) ⟨place, depth⟩ depth' least
      result := by
  have ran : ((Descent.eat (entriesOf tokens size) word).run ⟨place, depth⟩).run = some (.ok (false, ⟨place, depth⟩)) := by
    refine (run_step (peek_run size listed)).trans ?_
    rw [if_neg absent]
    rfl
  exact .step ran follows

/-- A word that stands here. -/
theorem Follows.hit {word : Lexeme} {taken other : Walk α} {result : Except Stop (α × List Lexeme)} {depth' : Nat}
    (stands : (wordsFrom tokens place).head? = some word)
    (follows : Follows tokens size taken ⟨place + 1, depth⟩ depth' least result) :
    Follows tokens size (eat (entriesOf tokens size) word >>= fun stands => if stands then taken else other) ⟨place, depth⟩ depth' least
      result := by
  have before := lt_of_head? stands
  have ran : ((Descent.eat (entriesOf tokens size) word).run ⟨place, depth⟩).run = some (.ok (true, ⟨place + 1, depth⟩)) := by
    refine (run_step (peek_run size before.le)).trans ?_
    rw [if_pos stands]
    exact run_step (advance_run size before)
  exact .step ran follows

/-- A word that is taken if it stands here. -/
theorem Follows.eat {word : Lexeme} {taken other : Walk α} (reader : Reader α) {otherwise : Except Stop (α × List Lexeme)}
    {depth' : Nat} (listed : place ≤ tokens.length)
    (hit : place < tokens.length → Follows tokens size taken ⟨place + 1, depth⟩ depth' least (reader (wordsFrom tokens (place + 1))))
    (miss : Follows tokens size other ⟨place, depth⟩ depth' least otherwise) :
    Follows tokens size (eat (entriesOf tokens size) word >>= fun stands => if stands then taken else other) ⟨place, depth⟩ depth' least
      (if (wordsFrom tokens place).head? = some word then reader (wordsFrom tokens place).tail else otherwise) := by
  by_cases stands : (wordsFrom tokens place).head? = some word
  · rw [if_pos stands, tail_wordsFrom]
    exact .hit stands (hit (lt_of_head? stands))
  · rw [if_neg stands]
    exact .miss listed stands miss

theorem Follows.expect {symbol : Symbol} (listed : place ≤ tokens.length) :
    Follows tokens size (expect (entriesOf tokens size) symbol) ⟨place, depth⟩ depth (place + 1)
      (Expression.expect symbol (wordsFrom tokens place)) := by
  rw [expect_eq]
  exact .eat (fun ts => .ok ((), ts)) listed (fun before => .pure () le_rfl before) (.unexpected listed)

/-! ### Nesting -/

/-- The readers for phrases nested at a depth, if they may be nested any deeper. -/
def below (depth : Nat) : Option Readers :=
  if depth < maxDepth then some (readersWithin (maxDepth - (depth + 1))) else none

theorem readersWithin_eq (shallow : depth ≤ maxDepth) : readersWithin (maxDepth - depth) = readersOver (below depth) := by
  rcases shallow.eq_or_lt with rfl | shallow
  · rw [Nat.sub_self, below, if_neg (lt_irrefl maxDepth)]
    rfl
  · rw [below, if_pos shallow, show maxDepth - depth = maxDepth - (depth + 1) + 1 by omega]
    rfl

theorem Follows.enter {next : Unit → Walk α} (read : Readers → Reader β) {depth' : Nat}
    {reader : β × List Lexeme → Except Stop (α × List Lexeme)} (listed : place ≤ tokens.length)
    (inside : depth < maxDepth → Follows tokens size (next ()) ⟨place, depth + 1⟩ depth' least
      (read (readersWithin (maxDepth - (depth + 1))) (wordsFrom tokens place) >>= reader)) :
    Follows tokens size (enter (entriesOf tokens size) >>= next) ⟨place, depth⟩ depth' least
      (nested (below depth) read (wordsFrom tokens place) >>= reader) := by
  by_cases shallow : depth < maxDepth
  · rw [below, if_pos shallow]
    have fits : ¬ depth + 1 > maxDepth := by omega
    have ran : ((Descent.enter (entriesOf tokens size)).run ⟨place, depth⟩).run = some (.ok ((), ⟨place, depth + 1⟩)) := by
      simp [Descent.enter, fits]
    exact .step ran (inside shallow)
  · rw [below, if_neg shallow]
    have deep : depth + 1 > maxDepth := by omega
    have ran : ((Descent.enter (entriesOf tokens size)).run ⟨place, depth⟩).run =
        ((refuse (α := Unit) (entriesOf tokens size) .nestedTooDeeply).run ⟨place, depth + 1⟩).run := by
      simp [Descent.enter, deep]
    refine .halts ?_
    rw [run_bind, ran, refuse_run size _ listed]
    rfl

theorem Follows.leave {next : Unit → Walk α} {depth' : Nat} {result : Except Stop (α × List Lexeme)}
    (follows : Follows tokens size (next ()) ⟨place, depth⟩ depth' least result) :
    Follows tokens size (leave >>= next) ⟨place, depth + 1⟩ depth' least result :=
  .step rfl follows

/-! ### Phrases

A walk of a rank comes to an end if it may make as many calls within each other as its rank says, and twenty more for each word that
is left. At its own place a walk calls only walks of lower ranks, and no rank is as high as twenty.
-/

/-- The walks through the phrases that may be nested follow their readers from a place, at every depth that is allowed. -/
structure Ladder (tokens : List Token) (size place : Nat) : Prop where
  expression : ∀ depth ≤ maxDepth, ∀ calls, 20 * (tokens.length - place) + 15 ≤ calls →
    Follows tokens size (expression (entriesOf tokens size) calls) ⟨place, depth⟩ depth (place + 1)
      ((readersWithin (maxDepth - depth)).expression (wordsFrom tokens place))
  negation : ∀ depth ≤ maxDepth, ∀ calls, 20 * (tokens.length - place) + 13 ≤ calls →
    Follows tokens size (negation (entriesOf tokens size) calls) ⟨place, depth⟩ depth (place + 1)
      ((readersWithin (maxDepth - depth)).negation (wordsFrom tokens place))
  factor : ∀ depth ≤ maxDepth, ∀ calls, 20 * (tokens.length - place) + 4 ≤ calls →
    Follows tokens size (factor (entriesOf tokens size) calls) ⟨place, depth⟩ depth (place + 1)
      ((readersWithin (maxDepth - depth)).factor (wordsFrom tokens place))

/-- They do so from all places that are not before a certain one. -/
def LadderFrom (tokens : List Token) (size place : Nat) : Prop :=
  ∀ place', place ≤ place' → place' ≤ tokens.length → Ladder tokens size place'

theorem LadderFrom.mono {place' : Nat} (ladder : LadderFrom tokens size place) (le : place ≤ place') :
    LadderFrom tokens size place' :=
  fun place'' far listed => ladder place'' (le.trans far) listed

theorem sequence_follows (close : Symbol) (shallow : depth ≤ maxDepth) : ∀ {fuel place calls : Nat}, place ≤ tokens.length →
    tokens.length - place < fuel → 20 * (tokens.length - place) + 16 ≤ calls → LadderFrom tokens size place →
    Follows tokens size (sequence (entriesOf tokens size) calls close) ⟨place, depth⟩ depth (place + 1)
      (itemsUpTo close (readersWithin (maxDepth - depth)).expression fuel (wordsFrom tokens place)) := by
  intro fuel
  induction fuel with
  | zero => intro place calls _ short; cases short
  | succ fuel ih =>
    intro place calls listed short enough ladder
    obtain ⟨calls, rfl⟩ := Nat.exists_eq_add_of_le' (show 1 ≤ calls by omega)
    rw [sequence, itemsUpTo_succ]
    refine .eat (fun ts => .ok ([], ts)) listed (fun before => .pure [] le_rfl before) ?_
    refine .bind ((ladder place le_rfl listed).expression depth shallow calls (by omega)) fun first comma far listed' => ?_
    refine .eat (fun ts => itemsUpTo close _ fuel ts >>= fun others => .ok (first :: others.1, others.2)) listed' (fun before => ?_) ?_
    · have others := @ih (comma + 1) calls before (by omega) (by omega) (ladder.mono (by omega))
      exact .bind others fun others last far' listed'' => .pure _ (by omega) listed''
    · exact .bind (.expect listed') fun _ last far' listed'' => .pure _ (by omega) listed''

theorem items_follows {calls : Nat} (close : Symbol) (shallow : depth ≤ maxDepth) (listed : place ≤ tokens.length)
    (enough : 20 * (tokens.length - place) + 16 ≤ calls) (ladder : LadderFrom tokens size place) :
    Follows tokens size (sequence (entriesOf tokens size) calls close) ⟨place, depth⟩ depth (place + 1)
      (items close (readersWithin (maxDepth - depth)).expression (wordsFrom tokens place)) :=
  sequence_follows close shallow listed (by rw [length_wordsFrom]; omega) enough ladder

theorem parenthesized_follows {calls : Nat} (shallow : depth ≤ maxDepth) (listed : place ≤ tokens.length)
    (enough : 20 * (tokens.length - place) + 16 ≤ calls) (ladder : LadderFrom tokens size place) :
    Follows tokens size (parenthesized (entriesOf tokens size) calls) ⟨place, depth⟩ depth (place + 1)
      (Expression.parenthesized (readersWithin (maxDepth - depth)).expression (wordsFrom tokens place)) := by
  obtain ⟨calls, rfl⟩ := Nat.exists_eq_add_of_le' (show 1 ≤ calls by omega)
  rw [parenthesized, parenthesized_eq]
  refine .eat (fun ts => .ok (Tree.tuple [], ts)) listed (fun before => .pure (Tree.tuple []) le_rfl before) ?_
  refine .bind ((ladder place le_rfl listed).expression depth shallow calls (by omega)) fun first comma far listed' => ?_
  refine .eat (fun ts => .ok (first, ts)) listed' (fun before => .pure first (by omega) before) ?_
  refine .bind (.expect listed') fun _ others far' listed'' => ?_
  refine .bind (items_follows _ shallow listed'' (by omega) (ladder.mono (by omega))) fun _ last far'' behind => ?_
  exact .pure _ (by omega) behind

/-- A walk of a rank follows a reader from every place behind which the walks through nested phrases follow theirs. -/
def Tracks (tokens : List Token) (size rank : Nat) (walk : Nat → Walk Tree) (reader : Option Readers → Reader Tree) : Prop :=
  ∀ place depth calls, place ≤ tokens.length → depth ≤ maxDepth → 20 * (tokens.length - place) + rank ≤ calls →
    LadderFrom tokens size (place + 1) →
    Follows tokens size (walk calls) ⟨place, depth⟩ depth (place + 1) (reader (below depth) (wordsFrom tokens place))

/-- The words of a number do not matter for its literal, but for where it is refused. -/
theorem numberLiteral_eq (text : String) (ts : List Lexeme) : numberLiteral text ts =
    match numberLiteral text [] with
    | .ok value => .ok value
    | .error (.malformed cause _) => .error (.malformed cause ts)
    | .error .integerOverflow => .error .integerOverflow := by
  unfold numberLiteral
  by_cases digits : text.toList.all Char.isDigit
  · simp only [digits, ↓reduceIte]
    by_cases fits : text ≠ "" ∧ Number.inRange (Text.digitsValue text.toList)
    · simp only [if_pos fits]
    · simp only [if_neg fits]
  · simp only [digits]
    cases Binary64.read? text.toList <;> rfl

theorem literalAt_follows (text : String) (listed : place ≤ tokens.length) (left : List Lexeme) :
    Follows tokens size (literalAt (offsetOf tokens size left) text) ⟨place, depth⟩ depth place
      (numberLiteral text left >>= fun value => .ok (value, wordsFrom tokens place)) := by
  rw [literalAt, numberLiteral_eq text left]
  rcases numberLiteral text [] with (⟨cause, _⟩ | _) | value
  · exact .halts rfl
  · exact .halts rfl
  · exact .pure value le_rfl listed

theorem atom_tracks : Tracks tokens size 1 (atom (entriesOf tokens size)) Expression.atom := by
  intro place depth calls listed shallow enough ladder
  obtain ⟨calls, rfl⟩ := Nat.exists_eq_add_of_le' (show 1 ≤ calls by omega)
  rw [atom]
  refine .step (here_run size listed) ?_
  have refused := @Follows.unexpected tokens size place depth (place + 1) Tree listed
  rcases ends : wordsFrom tokens place with _ | ⟨word, rest⟩
  · rw [ends] at refused
    exact refused
  · have before := lt_of_head? (congrArg List.head? ends)
    obtain rfl : wordsFrom tokens (place + 1) = rest := by rw [← tail_wordsFrom, ends, List.tail_cons]
    rw [ends] at refused
    have step := @advance_run tokens place depth size before
    cases word with
    | number text =>
      have whole : Follows tokens size
          (literalAt (offsetOf tokens size (.number text :: wordsFrom tokens (place + 1))) text >>= fun value => pure (.literal value))
          ⟨place + 1, depth⟩ depth (place + 1)
          ((numberLiteral text (.number text :: wordsFrom tokens (place + 1)) >>= fun value => .ok (value, wordsFrom tokens (place + 1)))
            >>= fun taken => .ok (Tree.literal taken.1, taken.2)) :=
        (literalAt_follows text before _).bind fun value _ far listed' => .pure _ far listed'
      rw [bind_assoc] at whole
      exact .step step whole
    | quoted content => exact .step step (.pure _ le_rfl before)
    | name name =>
      rw [Expression.atom]
      dsimp only [List.head?_cons]
      by_cases operator : isOperatorName name
      · rw [if_pos operator, if_pos operator]
        exact refused
      · rw [if_neg operator, if_neg operator]
        exact .step step (.pure _ le_rfl before)
    | symbol symbol =>
      cases symbol with
      | openParen =>
        rw [Expression.atom, ← bind_pure (nested _ _ _)]
        refine .step step (.enter _ before fun deeper => ?_)
        refine .bind (parenthesized_follows deeper before (by omega) ladder) fun tree _ far listed' => .leave ?_
        exact .pure tree (by omega) listed'
      | openBracket =>
        refine .step step (.enter _ before fun deeper => ?_)
        refine .bind (items_follows _ deeper before (by omega) ladder) fun found _ far listed' => .leave ?_
        exact .pure _ (by omega) listed'
      | _ => exact refused

theorem trailers_follows : ∀ {fuel place calls : Nat} {tree : Tree}, place ≤ tokens.length → tokens.length - place ≤ fuel →
    20 * (tokens.length - place) + 1 ≤ calls → LadderFrom tokens size (place + 1) →
    Follows tokens size (trailers (entriesOf tokens size) calls tree) ⟨place, depth⟩ depth place
      (suffixes (below depth) fuel tree (wordsFrom tokens place)) := by
  intro fuel
  induction fuel with
  | zero =>
    intro place calls tree listed short enough ladder
    obtain ⟨calls, rfl⟩ := Nat.exists_eq_add_of_le' (show 1 ≤ calls by omega)
    have absent : ∀ word, (wordsFrom tokens place).head? ≠ some word := by
      intro word
      rw [head?_eq_none (by omega)]
      exact (Option.some_ne_none word).symm
    rw [trailers, suffixes_zero]
    exact .miss listed (absent _) (.miss listed (absent _) (.miss listed (absent _) (.pure tree le_rfl listed)))
  | succ fuel ih =>
    intro place calls tree listed short enough ladder
    obtain ⟨calls, rfl⟩ := Nat.exists_eq_add_of_le' (show 1 ≤ calls by omega)
    rw [trailers, suffixes_succ]
    refine .eat (fun ts => nested (below depth) (fun readers => items .closeParen readers.expression) ts >>= fun taken =>
      suffixes (below depth) fuel (.call tree taken.1) taken.2) listed (fun before => ?_) ?_
    · refine .enter _ before fun deeper => ?_
      refine .bind (items_follows _ deeper before (by omega) ladder) fun arguments _ far listed' => .leave ?_
      exact (ih listed' (by omega) (by omega) (ladder.mono (by omega))).mono (by omega)
    refine .eat (fun ts => nested (below depth) (fun readers => readers.expression) ts >>= fun taken =>
      Expression.expect .closeBracket taken.2 >>= fun closed => suffixes (below depth) fuel (.subscript tree taken.1) closed.2) listed
      (fun before => ?_) ?_
    · refine .enter _ before fun deeper => ?_
      refine .bind ((ladder _ le_rfl before).expression _ deeper calls (by omega)) fun index _ far listed' => ?_
      refine .bind (.expect listed') fun _ _ far' listed'' => .leave ?_
      exact (ih listed'' (by omega) (by omega) (ladder.mono (by omega))).mono (by omega)
    by_cases dot : (wordsFrom tokens place).head? = some (.symbol .dot)
    · have before := lt_of_head? dot
      have refused := @Follows.unexpected tokens size (place + 1) depth place Tree before
      rw [if_pos dot, tail_wordsFrom]
      refine .hit dot (.step (peek_run size before) ?_)
      cases first : (wordsFrom tokens (place + 1)).head? with
      | none => exact refused
      | some word =>
        cases word with
        | name name =>
          have before := lt_of_head? first
          rw [tail_wordsFrom]
          refine .step (advance_run size before) ?_
          exact (ih before (by omega) (by omega) (ladder.mono (by omega))).mono (by omega)
        | _ => exact refused
    · rw [if_neg dot]
      exact .miss listed dot (.pure tree le_rfl listed)

theorem primary_tracks : Tracks tokens size 2 (primary (entriesOf tokens size)) Expression.primary := by
  intro place depth calls listed shallow enough ladder
  obtain ⟨calls, rfl⟩ := Nat.exists_eq_add_of_le' (show 1 ≤ calls by omega)
  rw [primary]
  refine .bind (atom_tracks place depth calls listed shallow (by omega) ladder) fun tree _ far listed' => ?_
  refine (trailers_follows listed' ?_ (by omega) (ladder.mono (by omega))).mono far
  rw [length_wordsFrom]

theorem power_tracks : Tracks tokens size 3 (power (entriesOf tokens size)) Expression.power := by
  intro place depth calls listed shallow enough ladder
  obtain ⟨calls, rfl⟩ := Nat.exists_eq_add_of_le' (show 1 ≤ calls by omega)
  rw [power, power_eq]
  refine .bind (primary_tracks place depth calls listed shallow (by omega) ladder) fun base _ far listed' => ?_
  refine .eat (fun ts => nested (below depth) (fun readers => readers.factor) ts >>= fun exponent =>
    .ok (.binary .pow base exponent.1, exponent.2)) listed' (fun before => ?_) (.pure base far listed')
  refine .enter _ before fun deeper => ?_
  refine .bind ((ladder _ (by omega) before).factor _ deeper calls (by omega)) fun exponent _ far' listed'' => .leave ?_
  exact .pure _ (by omega) listed''

theorem factor_tracks : Tracks tokens size 4 (factor (entriesOf tokens size)) Expression.factor := by
  intro place depth calls listed shallow enough ladder
  obtain ⟨calls, rfl⟩ := Nat.exists_eq_add_of_le' (show 1 ≤ calls by omega)
  rw [factor, Expression.factor]
  refine .step (peek_run size listed) ?_
  cases marks : (wordsFrom tokens place).head?.bind unaryOperator with
  | none => exact power_tracks place depth calls listed shallow (by omega) ladder
  | some op =>
    have before := lt_of_marked marks
    rw [tail_wordsFrom]
    refine .step (advance_run size before) (.enter _ before fun deeper => ?_)
    refine .bind ((ladder _ le_rfl before).factor _ deeper calls (by omega)) fun operand _ far listed' => .leave ?_
    exact .pure _ (by omega) listed'

/-- Operators of a level with their operands: the tighter operands are followed from here on. -/
theorem chain_follows (level : Level) {tighter : List Level} {reader : Reader Tree} (few : tighter.length ≤ 5)
    (operands : ∀ place' calls, place ≤ place' → place' ≤ tokens.length → 20 * (tokens.length - place') + 5 + tighter.length ≤ calls →
      Follows tokens size (operand (entriesOf tokens size) calls tighter) ⟨place', depth⟩ depth (place' + 1)
        (reader (wordsFrom tokens place'))) :
    ∀ {fuel place' calls : Nat} {left : Tree}, place ≤ place' → place' ≤ tokens.length → tokens.length - place' ≤ fuel →
      20 * (tokens.length - place') + 1 ≤ calls →
      Follows tokens size (chain (entriesOf tokens size) calls level tighter left) ⟨place', depth⟩ depth place'
        (leftChainFrom level reader fuel left (wordsFrom tokens place')) := by
  intro fuel
  induction fuel with
  | zero =>
    intro place' calls left far listed short enough
    obtain ⟨calls, rfl⟩ := Nat.exists_eq_add_of_le' (show 1 ≤ calls by omega)
    rw [chain]
    refine .step (peek_run size listed) ?_
    rw [head?_eq_none (by omega)]
    exact .pure left le_rfl listed
  | succ fuel ih =>
    intro place' calls left far listed short enough
    obtain ⟨calls, rfl⟩ := Nat.exists_eq_add_of_le' (show 1 ≤ calls by omega)
    rw [chain, leftChainFrom]
    refine .step (peek_run size listed) ?_
    cases marks : (wordsFrom tokens place').head?.bind level with
    | none => exact .pure left le_rfl listed
    | some op =>
      have before := lt_of_marked marks
      rw [tail_wordsFrom]
      refine .step (advance_run size before) ?_
      refine .bind (operands _ calls (by omega) before (by omega)) fun right _ far' listed' => ?_
      exact (ih (by omega) listed' (by omega) (by omega)).mono (by omega)

theorem operand_tracks : ∀ loosest : List Level, loosest.length ≤ 6 →
    Tracks tokens size (5 + loosest.length) (fun calls => operand (entriesOf tokens size) calls loosest)
      fun inner => loosest.foldr leftChain (Expression.factor inner)
  | [], _ => by
    intro place depth calls listed shallow enough ladder
    obtain ⟨calls, rfl⟩ := Nat.exists_eq_add_of_le' (show 1 ≤ calls by omega)
    show Follows tokens size (operand _ (calls + 1) []) _ depth _ _
    rw [operand]
    exact factor_tracks place depth calls listed shallow (by omega) ladder
  | level :: tighter, few => by
    intro place depth calls listed shallow enough ladder
    rw [List.length_cons] at few enough
    obtain ⟨calls, rfl⟩ := Nat.exists_eq_add_of_le' (show 1 ≤ calls by omega)
    have operands : ∀ place' calls, place ≤ place' → place' ≤ tokens.length →
        20 * (tokens.length - place') + 5 + tighter.length ≤ calls →
        Follows tokens size (operand (entriesOf tokens size) calls tighter) ⟨place', depth⟩ depth (place' + 1)
          (tighter.foldr leftChain (Expression.factor (below depth)) (wordsFrom tokens place')) :=
      fun place' calls far listed' enough' =>
        operand_tracks tighter (by omega) place' depth calls listed' shallow (by omega) (ladder.mono (by omega))
    show Follows tokens size (operand _ (calls + 1) (level :: tighter)) _ depth _ (leftChain level _ _)
    rw [operand]
    refine .bind (operands place calls le_rfl listed (by omega)) fun first _ far listed' => ?_
    refine (chain_follows level (by omega) operands (by omega) listed' ?_ (by omega)).mono far
    rw [length_wordsFrom]

theorem bitOr_tracks : Tracks tokens size 11 (fun calls => operand (entriesOf tokens size) calls levels.reverse) Expression.operand := by
  have tracks := @operand_tracks tokens size levels.reverse (by decide)
  simp only [List.foldr_reverse] at tracks
  exact tracks

theorem sides_follows (shallow : depth ≤ maxDepth) : ∀ {fuel place calls : Nat}, place ≤ tokens.length →
    tokens.length - place ≤ fuel → 20 * (tokens.length - place) + 1 ≤ calls → LadderFrom tokens size (place + 1) →
    Follows tokens size (sides (entriesOf tokens size) calls) ⟨place, depth⟩ depth place
      (comparisons (Expression.operand (below depth)) fuel (wordsFrom tokens place)) := by
  intro fuel
  induction fuel with
  | zero =>
    intro place calls listed short enough ladder
    obtain ⟨calls, rfl⟩ := Nat.exists_eq_add_of_le' (show 1 ≤ calls by omega)
    rw [sides]
    refine .step (peek_run size listed) ?_
    rw [head?_eq_none (by omega)]
    exact .pure [] le_rfl listed
  | succ fuel ih =>
    intro place calls listed short enough ladder
    obtain ⟨calls, rfl⟩ := Nat.exists_eq_add_of_le' (show 1 ≤ calls by omega)
    rw [sides, comparisons]
    refine .step (peek_run size listed) ?_
    cases marks : (wordsFrom tokens place).head?.bind compareOperator with
    | none => exact .pure [] le_rfl listed
    | some op =>
      have before := lt_of_marked marks
      rw [tail_wordsFrom]
      refine .step (advance_run size before) ?_
      refine .bind (bitOr_tracks _ depth calls before shallow (by omega) (ladder.mono (by omega))) fun right _ far listed' => ?_
      refine .bind (ih listed' (by omega) (by omega) (ladder.mono (by omega))) fun others _ far' listed'' => ?_
      exact .pure _ (by omega) listed''

theorem comparison_tracks : Tracks tokens size 12 (comparison (entriesOf tokens size)) Expression.comparison := by
  intro place depth calls listed shallow enough ladder
  obtain ⟨calls, rfl⟩ := Nat.exists_eq_add_of_le' (show 1 ≤ calls by omega)
  rw [comparison]
  refine .bind (bitOr_tracks place depth calls listed shallow (by omega) ladder) fun first _ far listed' => ?_
  refine .bind (sides_follows shallow listed' ?_ (by omega) (ladder.mono (by omega))) fun others _ far' listed'' => ?_
  · rw [length_wordsFrom]
  · exact .pure _ (by omega) listed''

theorem negation_tracks : Tracks tokens size 13 (negation (entriesOf tokens size)) Expression.negation := by
  intro place depth calls listed shallow enough ladder
  obtain ⟨calls, rfl⟩ := Nat.exists_eq_add_of_le' (show 1 ≤ calls by omega)
  rw [negation]
  refine .eat (fun ts => nested (below depth) (fun readers => readers.negation) ts >>= fun operand =>
    .ok (.unary .not operand.1, operand.2)) listed (fun before => ?_)
    (comparison_tracks place depth calls listed shallow (by omega) ladder)
  refine .enter _ before fun deeper => ?_
  refine .bind ((ladder _ le_rfl before).negation _ deeper calls (by omega)) fun operand _ far listed' => .leave ?_
  exact .pure _ (by omega) listed'

/-- Conditions behind an operator name each: the loop of both kinds of joined conditions. -/
theorem joinedFrom_follows {name : String} {rank : Nat} {condition : Nat → Walk Tree} {more : Nat → Walk (List Tree)}
    {reader : Option Readers → Reader Tree} (tracks : Tracks tokens size rank condition reader) (low : rank ≤ 20)
    (unfolds : ∀ calls, more (calls + 1) = do
      if ← eat (entriesOf tokens size) (.name name) then
        let next ← condition calls
        return next :: (← more calls)
      else return [])
    (shallow : depth ≤ maxDepth) : ∀ {fuel place calls : Nat}, place ≤ tokens.length → tokens.length - place ≤ fuel →
    20 * (tokens.length - place) + 1 ≤ calls → LadderFrom tokens size (place + 1) →
    Follows tokens size (more calls) ⟨place, depth⟩ depth place
      (joinedFrom name (reader (below depth)) fuel (wordsFrom tokens place)) := by
  intro fuel
  induction fuel with
  | zero =>
    intro place calls listed short enough ladder
    obtain ⟨calls, rfl⟩ := Nat.exists_eq_add_of_le' (show 1 ≤ calls by omega)
    have absent : (wordsFrom tokens place).head? ≠ some (.name name) := by
      rw [head?_eq_none (by omega)]
      exact (Option.some_ne_none _).symm
    rw [unfolds]
    exact .miss listed absent (.pure [] le_rfl listed)
  | succ fuel ih =>
    intro place calls listed short enough ladder
    obtain ⟨calls, rfl⟩ := Nat.exists_eq_add_of_le' (show 1 ≤ calls by omega)
    rw [unfolds, joinedFrom]
    refine .eat (fun ts => reader (below depth) ts >>= fun next =>
      joinedFrom name (reader (below depth)) fuel next.2 >>= fun others => .ok (next.1 :: others.1, others.2)) listed
      (fun before => ?_) (.pure [] le_rfl listed)
    refine .bind (tracks _ depth calls before shallow (by omega) (ladder.mono (by omega))) fun next _ far listed' => ?_
    refine .bind (ih listed' (by omega) (by omega) (ladder.mono (by omega))) fun others _ far' listed'' => ?_
    exact .pure _ (by omega) listed''

theorem joined_tracks {op : BoolOp} {name : String} {rank : Nat} {whole condition : Nat → Walk Tree} {more : Nat → Walk (List Tree)}
    {reader : Option Readers → Reader Tree} (tracks : Tracks tokens size rank condition reader) (low : rank ≤ 20)
    (begins : ∀ calls, whole (calls + 1) = do let first ← condition calls; return booleanTree op first (← more calls))
    (unfolds : ∀ calls, more (calls + 1) = do
      if ← eat (entriesOf tokens size) (.name name) then
        let next ← condition calls
        return next :: (← more calls)
      else return []) :
    Tracks tokens size (rank + 1) whole fun inner => joined op name (reader inner) := by
  intro place depth calls listed shallow enough ladder
  obtain ⟨calls, rfl⟩ := Nat.exists_eq_add_of_le' (show 1 ≤ calls by omega)
  rw [begins]
  refine .bind (tracks place depth calls listed shallow (by omega) ladder) fun first _ far listed' => ?_
  refine .bind (joinedFrom_follows tracks low unfolds shallow listed' ?_ (by omega) (ladder.mono (by omega)))
    fun others _ far' listed'' => ?_
  · rw [length_wordsFrom]
  · exact .pure _ (by omega) listed''

theorem conjunction_tracks : Tracks tokens size 14 (conjunction (entriesOf tokens size))
    fun inner => joined .and "and" (Expression.negation inner) :=
  joined_tracks negation_tracks (by decide) (fun _ => rfl) fun _ => rfl

theorem expression_tracks : Tracks tokens size 15 (expression (entriesOf tokens size)) Expression.expression :=
  joined_tracks conjunction_tracks (by decide) (fun _ => rfl) fun _ => rfl

/-- By induction on the words behind the place: all walks from there rest on those from later places. -/
theorem ladderFrom (tokens : List Token) (size place : Nat) : LadderFrom tokens size place := by
  induction more : tokens.length + 1 - place generalizing place with
  | zero =>
    intro place' far listed
    omega
  | succ more ih =>
    intro place' far listed
    rcases far.eq_or_lt with rfl | later
    · have ladder := ih (place + 1) (by omega)
      refine ⟨fun depth shallow calls enough => ?_, fun depth shallow calls enough => ?_, fun depth shallow calls enough => ?_⟩
      · rw [readersWithin_eq shallow]
        exact expression_tracks place depth calls listed shallow enough ladder
      · rw [readersWithin_eq shallow]
        exact negation_tracks place depth calls listed shallow enough ladder
      · rw [readersWithin_eq shallow]
        exact factor_tracks place depth calls listed shallow enough ladder
    · exact ih (place + 1) (by omega) place' later listed

/-- From a cursor a walk comes to an end, further on but not behind the end of the text, at the same depth, with what a reader takes from
    the words that are left, or it refuses the text where that reader stops. -/
def Advances (tokens : List Token) (size place depth : Nat) (walk : Walk α) (reader : Reader α) : Prop :=
  Follows tokens size walk ⟨place, depth⟩ depth (place + 1) (reader (wordsFrom tokens place))

/-- All walks that may make so many calls within each other do so. -/
structure Descends (tokens : List Token) (size place depth calls : Nat) : Prop where
  expression : Advances tokens size place depth (expression (entriesOf tokens size) calls) (Expression.expression (below depth))
  conjunction : Advances tokens size place depth (conjunction (entriesOf tokens size) calls)
    (joined .and "and" (Expression.negation (below depth)))
  negation : Advances tokens size place depth (negation (entriesOf tokens size) calls) (Expression.negation (below depth))
  comparison : Advances tokens size place depth (comparison (entriesOf tokens size) calls) (Expression.comparison (below depth))
  operand : ∀ loosest, loosest <:+ levels.reverse → Advances tokens size place depth (operand (entriesOf tokens size) calls loosest)
    (loosest.foldr leftChain (Expression.factor (below depth)))
  factor : Advances tokens size place depth (factor (entriesOf tokens size) calls) (Expression.factor (below depth))
  power : Advances tokens size place depth (power (entriesOf tokens size) calls) (Expression.power (below depth))
  primary : Advances tokens size place depth (primary (entriesOf tokens size) calls) (Expression.primary (below depth))
  atom : Advances tokens size place depth (atom (entriesOf tokens size) calls) (Expression.atom (below depth))
  parenthesized : Advances tokens size place depth (parenthesized (entriesOf tokens size) calls)
    (Expression.parenthesized (Expression.expression (below depth)))
  sequence : ∀ close, Advances tokens size place depth (sequence (entriesOf tokens size) calls close)
    (items close (Expression.expression (below depth)))

theorem Follows.outcome {walk : Walk α} {start : Cursor} {result : Except Stop (α × List Lexeme)}
    (follows : Follows tokens size walk start depth least result) : (walk.run' start).run =
      some ((result.map Prod.fst).mapError fun stop => .refused (stop.failure tokens size)) := by
  cases follows with
  | goes ran _ _ =>
    rw [StateT.run'_eq, ExceptT.run_map, ran]
    rfl
  | halts ran =>
    rw [StateT.run'_eq, ExceptT.run_map, ran]
    rfl

theorem whole_follows {calls : Nat} (filled : tokens ≠ []) (enough : 20 * tokens.length + 15 ≤ calls) :
    Follows tokens size (whole (entriesOf tokens size) calls) ⟨0, 0⟩ 0 0 (wholeTree (tokens.map Token.lexeme)) := by
  have words : (wordsFrom tokens 0).head? ≠ none := by simpa [wordsFrom] using filled
  have ladder := ladderFrom tokens size 0 0 le_rfl (Nat.zero_le _)
  refine .step (peek_run size (Nat.zero_le _)) ?_
  rw [if_neg words]
  refine .bind (ladder.expression 0 (Nat.zero_le _) calls enough) fun tree place _ listed => ?_
  refine .step (peek_run size listed) ?_
  have done := @Follows.pure tokens size place 0 0 Tree tree (Nat.zero_le _) listed
  have refused := @Follows.unexpected tokens size place 0 0 Tree listed
  generalize wordsFrom tokens place = left at done refused ⊢
  cases left with
  | nil => exact done
  | cons word rest => exact refused

/-- Every text is walked through to an end, with the tree or the failure that the readers give. -/
theorem parse_eq_parse {calls : Nat} (enough : 20 * maxTokens + 15 ≤ calls) (text : String) :
    (parse calls text).run = some ((Expression.parse text).mapError .refused) := by
  unfold parse Expression.parse
  obtain ⟨tokens, few, _, scanned⟩ | ⟨_, _, _, _, _, _, _, scanned⟩ := tokensOf_cases text
  · rw [scanned]
    cases tokens with
    | nil => rfl
    | cons token tokens =>
      refine (whole_follows (List.cons_ne_nil token tokens) (by omega)).outcome.trans ?_
      rw [← treeOf_eq]
      dsimp only
      cases treeOf (List.map Token.lexeme (token :: tokens)) <;> rfl
  · rw [scanned]
    rfl

/-- From every cursor on the entries of a text, at every depth that is allowed, all walks come to an end, having gone on but not
    past the text, at the same depth, or refuse the text; so does the walk through the whole of any text. -/
theorem descent_progresses (tokens : List Token) (size : Nat) {place depth calls : Nat} (listed : place ≤ tokens.length)
    (shallow : depth ≤ maxDepth) (enough : 20 * (tokens.length - place) + 16 ≤ calls) :
    Descends tokens size place depth calls ∧ ∀ calls ≥ 20 * maxTokens + 15, ∀ text,
      (parse calls text).run = some ((Expression.parse text).mapError .refused) := by
  have later := ladderFrom tokens size (place + 1)
  refine ⟨{
    expression := expression_tracks place depth calls listed shallow (by omega) later
    conjunction := conjunction_tracks place depth calls listed shallow (by omega) later
    negation := negation_tracks place depth calls listed shallow (by omega) later
    comparison := comparison_tracks place depth calls listed shallow (by omega) later
    operand := fun loosest some => ?_
    factor := factor_tracks place depth calls listed shallow (by omega) later
    power := power_tracks place depth calls listed shallow (by omega) later
    primary := primary_tracks place depth calls listed shallow (by omega) later
    atom := atom_tracks place depth calls listed shallow (by omega) later
    parenthesized := ?_
    sequence := fun close => ?_ }, fun calls enough => parse_eq_parse enough⟩
  · have few : loosest.length ≤ 6 := some.length_le
    exact operand_tracks loosest few place depth calls listed shallow (by omega) later
  · have follows := parenthesized_follows shallow listed enough (ladderFrom tokens size place)
    rwa [readersWithin_eq shallow] at follows
  · have follows := items_follows close shallow listed enough (ladderFrom tokens size place)
    rwa [readersWithin_eq shallow] at follows

end

/-- From the sign of `-1`, where one more phrase may be nested: the walk goes over both words, and the depth is as before. -/
theorem descent_progresses_sign :
    let tokens : List Token := [⟨.symbol .minus, 0⟩, ⟨.number "1", 1⟩]
    let tree : Tree := .unary .minus (.literal (.number (.integer 1)))
    0 ≤ tokens.length ∧ 99 ≤ maxDepth ∧ 20 * (tokens.length - 0) + 16 ≤ 56 ∧
      ∃ place, ((expression (entriesOf tokens 2) 56).run ⟨0, 99⟩).run = some (.ok (tree, ⟨place, 99⟩)) ∧ 0 < place ∧ place ≤ 2 := by
  intro tokens tree
  have listed : 0 ≤ tokens.length := Nat.zero_le _
  have shallow : 99 ≤ maxDepth := by decide
  have enough : 20 * (tokens.length - 0) + 16 ≤ 56 := by decide
  have taken : Expression.expression (below 99) (wordsFrom tokens 0) = .ok (tree, []) := by cbv
  have follows := (descent_progresses tokens 2 listed shallow enough).1.expression
  rw [Advances, taken] at follows
  generalize ended : ([] : List Lexeme) = left at follows
  cases follows with
  | @goes _ place ran far before => exact ⟨listed, shallow, enough, place, ran, far, before⟩

end GestureCalculator.Expression.Descent
