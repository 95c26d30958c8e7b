import GestureCalculator.Proofs.Refusals

/-!
How large the trees of expressions are. Every node has a word of its own, and on the way from a node to one below it the phrase
loses two words, or one behind an operator before an operand; these nest only so deep. So the bounds on the words and on
their nesting bound the number of nodes and how far a walk goes down.
-/
namespace GestureCalculator.Expression

theorem sizeOf_operand_lt {tree operand : Tree} (below : operand ∈ tree.operands) : sizeOf operand < sizeOf tree := by
  cases tree with
  | literal | name => cases below
  | boolean | tuple | list =>
    have := List.sizeOf_lt_of_mem below
    simp [Tree.operands] at this ⊢
    omega
  | comparison first rest =>
    rcases List.mem_cons.mp below with rfl | side
    · simp
      omega
    · obtain ⟨⟨op, right⟩, member, rfl⟩ := List.mem_map.mp side
      have := List.sizeOf_lt_of_mem member
      simp at this ⊢
      omega
  | call callee arguments =>
    rcases List.mem_cons.mp below with rfl | member
    · simp
      omega
    · have := List.sizeOf_lt_of_mem member
      simp
      omega
  | _ =>
    simp only [Tree.operands, List.mem_cons, List.not_mem_nil, or_false] at below
    rcases below with rfl | rfl <;> simp <;> omega

/-- All nodes of a tree, each before those below it. -/
def Tree.nodes (tree : Tree) : List Tree :=
  tree :: tree.operands.attach.flatMap fun operand => operand.1.nodes
termination_by sizeOf tree
decreasing_by exact sizeOf_operand_lt operand.2

theorem nodes_eq (tree : Tree) : tree.nodes = tree :: tree.operands.flatMap Tree.nodes := by
  rw [Tree.nodes]
  simp

/-- The nodes on a way from the root of a tree down to a node without operands. -/
inductive Path : Tree → List Tree → Prop
  | leaf {tree : Tree} : tree.operands = [] → Path tree [tree]
  | down {tree operand : Tree} {path : List Tree} : operand ∈ tree.operands → Path operand path → Path tree (tree :: path)

/-- The node is an operator before its operand. -/
def Tree.isUnary : Tree → Bool
  | .unary .. => true
  | _ => false

/-- A tree is no larger than so many words allow, with so many phrases nested in each other. -/
structure Bounded (depth size : Nat) (tree : Tree) : Prop where
  nodes : tree.nodes.length ≤ size
  unary : ∀ path, Path tree path → path.countP Tree.isUnary ≤ depth
  paths : ∀ path, Path tree path → 2 * path.length ≤ size + path.countP Tree.isUnary + 1

theorem Bounded.mono {depth depth' size size' : Nat} {tree : Tree} (bounded : Bounded depth size tree)
    (deeper : depth ≤ depth') (longer : size ≤ size') : Bounded depth' size' tree where
  nodes := bounded.nodes.trans longer
  unary := fun path way => (bounded.unary path way).trans deeper
  paths := by
    intro path way
    have := bounded.paths path way
    omega

theorem nodes_unary (op : UnaryOp) (operand : Tree) : (Tree.unary op operand).nodes = .unary op operand :: operand.nodes := by
  rw [nodes_eq]
  simp [Tree.operands]

/-- An operator before an operand is one more word and one more level of nesting. -/
theorem Bounded.sign {depth size : Nat} {operand : Tree} (op : UnaryOp) (bounded : Bounded depth size operand) :
    Bounded (depth + 1) (size + 1) (.unary op operand) := by
  have down : ∀ path, Path (.unary op operand) path → ∃ rest, path = .unary op operand :: rest ∧ Path operand rest := by
    intro path way
    cases way with
    | leaf none => cases none
    | down below way =>
      obtain rfl := mem_operands_unary.mp below
      exact ⟨_, rfl, way⟩
  refine ⟨?_, ?_, ?_⟩
  · rw [nodes_unary, List.length_cons]
    exact Nat.succ_le_succ bounded.nodes
  · intro path way
    obtain ⟨rest, rfl, below⟩ := down path way
    rw [List.countP_cons_of_pos rfl]
    exact Nat.succ_le_succ (bounded.unary rest below)
  · intro path way
    obtain ⟨rest, rfl, below⟩ := down path way
    have := bounded.paths rest below
    rw [List.countP_cons_of_pos rfl, List.length_cons]
    omega

/-- Any other node over parts that have words of their own, if one word is left for the node, and two are outside of each
    part. -/
theorem Bounded.node {depth size : Nat} {tree : Tree} (parts : List (List Lexeme × Tree))
    (operands : tree.operands = parts.map Prod.snd) (plain : tree.isUnary = false)
    (all : ∀ part ∈ parts, Bounded depth part.1.length part.2)
    (one : (parts.map fun part => part.1.length).sum + 1 ≤ size) (two : ∀ part ∈ parts, part.1.length + 2 ≤ size) :
    Bounded depth size tree := by
  have down : ∀ path, Path tree path → path = [tree] ∨
      ∃ part ∈ parts, ∃ rest, path = tree :: rest ∧ Path part.2 rest := by
    intro path way
    cases way with
    | leaf none => exact .inl rfl
    | down below way =>
      rw [operands] at below
      obtain ⟨part, member, rfl⟩ := List.mem_map.mp below
      exact .inr ⟨part, member, _, rfl, way⟩
  refine ⟨?_, ?_, ?_⟩
  · have each : (parts.map fun part => part.2.nodes.length).sum ≤ (parts.map fun part => part.1.length).sum :=
      List.sum_le_sum fun part member => (all part member).nodes
    rw [nodes_eq, operands, List.length_cons, List.length_flatMap, List.map_map]
    exact (Nat.succ_le_succ each).trans one
  · intro path way
    obtain rfl | ⟨part, member, rest, rfl, below⟩ := down path way
    · simp [plain]
    · have := (all part member).unary rest below
      simpa [plain] using this
  · intro path way
    obtain rfl | ⟨part, member, rest, rfl, below⟩ := down path way
    · rw [List.length_singleton]
      omega
    · have := (all part member).paths rest below
      have := two part member
      rw [List.countP_cons_of_neg (by simp [plain]), List.length_cons]
      omega

/-! ### Trees of phrases -/

theorem Listed.sum_le {phrases : List (List Lexeme)} {words : List Lexeme} (listed : Listed phrases words) :
    (phrases.map List.length).sum ≤ words.length := by
  induction listed with
  | none => exact le_rfl
  | last words => simp
  | more words _ ih =>
    simp
    omega

theorem Derives.length_pos {depth : Nat} {phrase : Phrase} {words : List Lexeme} {tree : Tree}
    (derives : Derives depth phrase words tree) : 0 < words.length := by
  obtain ⟨word, rest, rfl, _⟩ := derives_begins derives
  exact Nat.succ_pos rest.length

/-- A node over a phrase and others behind a word each. -/
theorem Bounded.chain {depth : Nat} (tree : Tree) {first : List Lexeme × Tree} {others : List (List Lexeme × Tree)}
    (operands : tree.operands = (first :: others).map Prod.snd) (plain : tree.isUnary = false) (some : others ≠ [])
    (all : ∀ part ∈ first :: others, 0 < part.1.length ∧ Bounded depth part.1.length part.2) :
    Bounded depth (first.1.length + (others.map fun part => part.1.length + 1).sum) tree := by
  have each : (others.map fun part => part.1.length + 1).sum = (others.map fun part => part.1.length).sum + others.length := by
    simp [List.sum_map_add]
  have many := List.length_pos_of_ne_nil some
  have filled := (all first List.mem_cons_self).1
  refine Bounded.node _ operands plain (fun part member => (all part member).2) ?_ fun part member => ?_
  · rw [List.map_cons, List.sum_cons]
    omega
  · rcases List.mem_cons.mp member with rfl | member
    · obtain ⟨other, others, rfl⟩ := List.exists_cons_of_ne_nil some
      have := (all other (by simp)).1
      simp
      omega
    · have := List.single_le_sum (by simp) _ (List.mem_map_of_mem (f := fun part => part.1.length + 1) member)
      omega

/-- A node over a phrase before brackets and a list inside them. -/
theorem Bounded.listed {depth : Nat} (more : Nat) (tree : Tree) (before : List (List Lexeme × Tree))
    {parts : List (List Lexeme × Tree)} {words : List Lexeme} (operands : tree.operands = (before ++ parts).map Prod.snd)
    (plain : tree.isUnary = false) (few : (before.map fun part => part.1.length).sum + 2 ≤ more)
    (all : ∀ part ∈ before, Bounded depth part.1.length part.2) (inside : Listed (parts.map Prod.fst) words)
    (each : ∀ part ∈ parts, Bounded depth part.1.length part.2) : Bounded depth (words.length + more) tree := by
  have sum := inside.sum_le
  rw [List.map_map] at sum
  refine Bounded.node _ operands plain (fun part member => ?_) ?_ fun part member => ?_
  · exact (List.mem_append.mp member).elim (all part) (each part)
  · rw [List.map_append, List.sum_append]
    simp only [Function.comp_def] at sum
    omega
  · rcases List.mem_append.mp member with member | member
    · have := List.single_le_sum (by simp) _ (List.mem_map_of_mem (f := fun part => part.1.length) member)
      omega
    · have := List.single_le_sum (by simp) _ (List.mem_map_of_mem (f := List.length ∘ Prod.fst) member)
      simp only [Function.comp_apply] at this
      omega

/-- The tree of a phrase is no larger than its words and its depth allow. -/
theorem Derives.bounded {depth : Nat} {phrase : Phrase} {words : List Lexeme} {tree : Tree}
    (derives : Derives depth phrase words tree) : Bounded depth words.length tree := by
  induction derives with
  | alone _ _ ih => exact ih
  | @disjunction depth words first others derives some all ih each =>
    have parts : ∀ part ∈ (words, first) :: others, 0 < part.1.length ∧ Bounded depth part.1.length part.2 :=
      List.forall_mem_cons.mpr ⟨⟨derives.length_pos, ih⟩, fun part member => ⟨(all part member).length_pos, each part member⟩⟩
    have bounded := Bounded.chain (.boolean .or (first :: others.map Prod.snd)) rfl rfl some parts
    simpa [List.length_flatMap] using bounded
  | @conjunction depth words first others derives some all ih each =>
    have parts : ∀ part ∈ (words, first) :: others, 0 < part.1.length ∧ Bounded depth part.1.length part.2 :=
      List.forall_mem_cons.mpr ⟨⟨derives.length_pos, ih⟩, fun part member => ⟨(all part member).length_pos, each part member⟩⟩
    have bounded := Bounded.chain (.boolean .and (first :: others.map Prod.snd)) rfl rfl some parts
    simpa [List.length_flatMap] using bounded
  | negation _ ih => exact ih.sign .not
  | @comparison depth words first others derives some all ih each =>
    have parts : ∀ part ∈ (words, first) :: others.map Prod.snd, 0 < part.1.length ∧ Bounded depth part.1.length part.2 := by
      rw [List.forall_mem_cons, List.forall_mem_map]
      exact ⟨⟨derives.length_pos, ih⟩, fun part member => ⟨(all part member).length_pos, each part member⟩⟩
    have bounded := Bounded.chain (.comparison first (others.map fun part => (part.1, part.2.2)))
      (by simp [Tree.operands]) rfl (by simpa using some) parts
    simpa [List.length_flatMap, Function.comp_def] using bounded
  | @binary _ _ symbol op before behind left right _ first second ih ih' =>
    have := first.length_pos
    have := second.length_pos
    refine Bounded.node [(before, left), (behind, right)] rfl rfl (by simp [ih, ih']) ?_ ?_
    · simp
    · simp
      omega
  | sign _ _ ih => exact ih.sign _
  | @power _ before behind base exponent first second ih ih' =>
    have := first.length_pos
    have := second.length_pos
    have := ih'.mono (Nat.le_succ _) le_rfl
    refine Bounded.node [(before, base), (behind, exponent)] rfl rfl (by simp [ih, this]) ?_ ?_
    · simp
    · simp
      omega
  | @call depth before words callee parts _ listed _ ih each =>
    have bounded := Bounded.listed (before.length + 2) (.call callee (parts.map Prod.snd)) [(before, callee)] rfl rfl (by simp)
      (by simpa using ih) listed fun part member => (each part member).mono (Nat.le_succ _) le_rfl
    exact bounded.mono le_rfl (by simp; omega)
  | @subscript depth before words owner index _ _ ih ih' =>
    have := ih'.mono (Nat.le_succ _) le_rfl
    exact Bounded.node [(before, owner), (words, index)] rfl rfl (by simp [ih, this]) (by simp) (by simp)
  | @attributeAccess depth before owner name _ ih =>
    exact Bounded.node [(before, owner)] rfl rfl (by simpa using ih) (by simp) (by simp)
  | @emptyTuple depth => exact Bounded.node [] rfl rfl (by simp) (by simp) (by simp)
  | group _ ih => exact ih.mono (Nat.le_succ _) (by simp; omega)
  | @tuple depth before words first parts _ listed _ ih each =>
    have bounded := Bounded.listed (before.length + 2) (.tuple (first :: parts.map Prod.snd)) [(before, first)] rfl rfl (by simp)
      (by simpa using ih) listed each
    exact bounded.mono (Nat.le_succ _) (by simp; omega)
  | @list depth words parts listed _ each =>
    have bounded := Bounded.listed 2 (.list (parts.map Prod.snd)) [] rfl rfl (by simp) (by simp) listed each
    exact bounded.mono (Nat.le_succ _) (by simp)
  | _ => exact Bounded.node [] rfl rfl (by simp) (by simp) (by simp)

/-- The tree of a text has no more nodes than the text has tokens, of which there are few, no way down it passes more than a
    hundred operators before operands, and none is longer than a fixed bound. -/
theorem parse_bounded {text : String} {tree : Tree} (parsed : parse text = .ok tree) :
    (∃ tokens, tokensOf text = .ok tokens ∧ tree.nodes.length ≤ tokens.length ∧ tokens.length ≤ 4096) ∧
    ∀ path, Path tree path → path.countP Tree.isUnary ≤ 100 ∧ path.length ≤ 2098 := by
  obtain ⟨tokens, scanned, derives⟩ := parse_ok_iff.mp parsed
  have few : tokens.length ≤ 4096 := by
    obtain ⟨_, short, _, scanned'⟩ | ⟨_, _, _, _, _, _, _, stops⟩ := tokensOf_cases text
    · obtain rfl := Except.ok.inj (scanned'.symm.trans scanned)
      exact short
    · cases stops.symm.trans scanned
  have bounded := derives.bounded
  rw [List.length_map] at bounded
  refine ⟨⟨tokens, scanned, bounded.nodes, few⟩, fun path way => ?_⟩
  have deep : path.countP Tree.isUnary ≤ 100 := bounded.unary path way
  have long := bounded.paths path way
  exact ⟨deep, by omega⟩

/-- Two operators before a subscript of a call: four nodes besides the three names, and eleven words. -/
theorem parse_bounded_signs :
    let owner : Tree := .call (.name "f") [.name "x"]
    let tree : Tree := .unary .minus (.unary .not (.subscript owner (.name "i")))
    parse "-(not f(x)[i])" = .ok tree ∧ tree.nodes.length ≤ 4096 ∧
      ∀ path, Path tree path → path.countP Tree.isUnary ≤ 100 ∧ path.length ≤ 2098 := by
  intro owner tree
  have parsed : parse "-(not f(x)[i])" = .ok tree := by cbv
  obtain ⟨⟨tokens, _, nodes, few⟩, paths⟩ := parse_bounded parsed
  exact ⟨parsed, nodes.trans few, paths⟩

end GestureCalculator.Expression
