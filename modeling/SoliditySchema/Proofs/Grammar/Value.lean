/-
  SoliditySchema.Proofs.Grammar.Value — values with other places.

  A value keeps the places of its tokens only to report them. `moved` puts other places for them, and what any
  rule makes of moved values is what it makes of the values themselves, moved (`Rule.value_moved`): where the
  tokens of a file stand has no bearing on the tree, and no rule makes up a place. `bare` takes the places out
  of a value. Only the rules of an import make a failure of their own (`Rule.value_cases`).
-/

import SoliditySchema.Grammar.Rule

namespace SoliditySchema

/-- A token at other places. -/
def PlacedToken.moved (f : Nat → Nat) (t : PlacedToken) : PlacedToken := ⟨t.token, f t.start, f t.stop⟩

/-- An error at another place. -/
def SyntaxError.moved (f : Nat → Nat) (e : SyntaxError) : SyntaxError := ⟨f e.start, e.problem⟩

namespace Grammar

namespace Value

mutual

/-- A value with other places for its tokens. -/
def moved (f : Nat → Nat) : Value → Value
  | .token t => .token (t.moved f)
  | .failure e => .failure (e.moved f)
  | .name n start => .name n (f start)
  | .many values => .many (movedAll f values)
  | v => v

/-- Values with other places for their tokens. -/
def movedAll (f : Nat → Nat) : List Value → List Value
  | [] => []
  | v :: vs => v.moved f :: movedAll f vs

end

theorem movedAll_eq (f : Nat → Nat) (vs : List Value) : movedAll f vs = vs.map (moved f) := by
  induction vs with
  | nil => rfl
  | cons v vs ih => rw [movedAll, ih, List.map_cons]

@[simp] theorem moved_many (f : Nat → Nat) (vs : List Value) : (many vs).moved f = many (vs.map (moved f)) := by
  rw [moved, movedAll_eq]

/-! ## Reading values -/

section Readers

variable (f : Nat → Nat) (v w : Value)

@[simp] theorem name?_moved : (v.moved f).name? = v.name? := by cases v <;> rfl
@[simp] theorem storage?_moved : (v.moved f).storage? = v.storage? := by cases v <;> rfl
@[simp] theorem expression?_moved : (v.moved f).expression? = v.expression? := by cases v <;> rfl
@[simp] theorem namedArgument?_moved : (v.moved f).namedArgument? = v.namedArgument? := by cases v <;> rfl
@[simp] theorem declaration?_moved : (v.moved f).declaration? = v.declaration? := by cases v <;> rfl
@[simp] theorem statement?_moved : (v.moved f).statement? = v.statement? := by cases v <;> rfl
@[simp] theorem contractPart?_moved : (v.moved f).contractPart? = v.contractPart? := by cases v <;> rfl
@[simp] theorem sourcePart?_moved : (v.moved f).sourcePart? = v.sourcePart? := by cases v <;> rfl

theorem failure?_moved : (v.moved f).failure? = v.failure?.map (SyntaxError.moved f) := by cases v <;> rfl

@[simp] theorem items_moved : (v.moved f).items = v.items.map (moved f) := by
  cases v <;> simp [moved, movedAll_eq, items]

/-- What is read of the items of a repetition alike wherever they stand. -/
theorem filterMap_items_moved {α : Type} {read? : Value → Option α} (h : ∀ v : Value, read? (v.moved f) = read? v) :
    (v.moved f).items.filterMap read? = v.items.filterMap read? := by
  have hsame : read? ∘ moved f = read? := funext h
  rw [items_moved, List.filterMap_map, hsame]

@[simp] theorem expressions_moved : (v.moved f).expressions = v.expressions :=
  filterMap_items_moved f v (expression?_moved f)

@[simp] theorem namedArguments_moved : (v.moved f).namedArguments = v.namedArguments :=
  filterMap_items_moved f v (namedArgument?_moved f)

@[simp] theorem declarations_moved : (v.moved f).declarations = v.declarations :=
  filterMap_items_moved f v (declaration?_moved f)

@[simp] theorem statements_moved : (v.moved f).statements = v.statements :=
  filterMap_items_moved f v (statement?_moved f)

@[simp] theorem entries_moved : (v.moved f).entries = v.entries := by
  rw [entries, items_moved, List.map_map]
  exact List.map_congr_left fun v _ => declaration?_moved f v

/-! ## Making values -/

@[simp] theorem moved_absent : absent.moved f = absent := rfl
@[simp] theorem moved_one : (one v).moved f = one (v.moved f) := by simp [one]
@[simp] theorem moved_more : (more v w).moved f = more (v.moved f) (w.moved f) := by cases v <;> simp [more, moved, movedAll_eq]
@[simp] theorem moved_before : (before v w).moved f = before (v.moved f) (w.moved f) := by
  cases w <;> simp [before, moved, movedAll_eq]

@[simp] theorem moved_word : (word v).moved f = word (v.moved f) := by
  cases v with
  | token t =>
    obtain ⟨t, start, stop⟩ := t
    cases t <;> rfl
  | _ => rfl

@[simp] theorem moved_fromWord : (fromWord v).moved f = fromWord (v.moved f) := by
  cases v with
  | name n start =>
    by_cases hn : n.text = "from" <;> simp [fromWord, hn, moved, SyntaxError.moved]
  | _ => rfl

@[simp] theorem moved_sized : (sized v).moved f = sized (v.moved f) := by
  cases v with
  | token t =>
    obtain ⟨t, start, stop⟩ := t
    cases t <;> rfl
  | _ => rfl

end Readers

section Makers

variable (f : Nat → Nat) (u v w x : Value)

@[simp] theorem moved_mapping : (mapping v w).moved f = mapping (v.moved f) (w.moved f) := by
  cases v <;> try rfl
  cases w <;> rfl

@[simp] theorem moved_functionType : (functionType v w).moved f = functionType (v.moved f) (w.moved f) := by
  simp [functionType, moved]

@[simp] theorem moved_declared : (declared u v w).moved f = declared (u.moved f) (v.moved f) (w.moved f) := by
  cases u <;> simp [declared, moved]

@[simp] theorem moved_literal (kind : LiteralKind) : (literal kind v).moved f = literal kind (v.moved f) := by
  simp [literal, moved]

@[simp] theorem moved_variableNamed : (variableNamed v).moved f = variableNamed (v.moved f) := by cases v <;> rfl
@[simp] theorem moved_unary (operator : UnaryOperator) : (unary operator v).moved f = unary operator (v.moved f) := by
  cases v <;> rfl

@[simp] theorem moved_binary (operator : BinaryOperator) : (binary operator v w).moved f = binary operator (v.moved f) (w.moved f) := by
  cases v <;> try rfl
  cases w <;> rfl

@[simp] theorem moved_assign : (assign v w).moved f = assign (v.moved f) (w.moved f) := by
  cases v <;> try rfl
  cases w <;> rfl

@[simp] theorem moved_assignWith (operator : BinaryOperator) :
    (assignWith operator v w).moved f = assignWith operator (v.moved f) (w.moved f) := by
  cases v <;> try rfl
  cases w <;> rfl

@[simp] theorem moved_conditional : (conditional u v w).moved f = conditional (u.moved f) (v.moved f) (w.moved f) := by
  cases u <;> try rfl
  cases v <;> try rfl
  cases w <;> rfl

@[simp] theorem moved_member : (member v w).moved f = member (v.moved f) (w.moved f) := by
  cases v <;> try rfl
  cases w <;> rfl

@[simp] theorem moved_subscript : (subscript v w).moved f = subscript (v.moved f) (w.moved f) := by
  cases v <;> simp [subscript, moved]

@[simp] theorem moved_slice : (slice u v w).moved f = slice (u.moved f) (v.moved f) (w.moved f) := by cases u <;> simp [slice, moved]
@[simp] theorem moved_call : (call v w).moved f = call (v.moved f) (w.moved f) := by cases v <;> simp [call, moved]
@[simp] theorem moved_callNamed : (callNamed v w).moved f = callNamed (v.moved f) (w.moved f) := by
  cases v <;> simp [callNamed, moved]

@[simp] theorem moved_callOptions : (callOptions v w).moved f = callOptions (v.moved f) (w.moved f) := by
  cases v <;> try rfl
  cases w <;> rfl

@[simp] theorem moved_arrayLiteral : (arrayLiteral v).moved f = arrayLiteral (v.moved f) := by simp [arrayLiteral, moved]
@[simp] theorem moved_argument : (argument v w).moved f = argument (v.moved f) (w.moved f) := by
  cases v <;> try rfl
  cases w <;> rfl

@[simp] theorem moved_parenthesized : (parenthesized v).moved f = parenthesized (v.moved f) := by
  unfold parenthesized
  rw [entries_moved]
  split <;> rfl

@[simp] theorem moved_block (unchecked : Bool) : (block unchecked v).moved f = block unchecked (v.moved f) := by
  simp [block, moved]

@[simp] theorem moved_argumentsBlock : (argumentsBlock v).moved f = argumentsBlock (v.moved f) := by
  simp [argumentsBlock, moved]

@[simp] theorem moved_ifElse : (ifElse u v w).moved f = ifElse (u.moved f) (v.moved f) (w.moved f) := by
  cases u <;> try rfl
  cases v <;> simp [ifElse, moved]

@[simp] theorem moved_whileLoop : (whileLoop v w).moved f = whileLoop (v.moved f) (w.moved f) := by
  cases v <;> try rfl
  cases w <;> rfl

@[simp] theorem moved_doWhile : (doWhile v w).moved f = doWhile (v.moved f) (w.moved f) := by
  cases v <;> try rfl
  cases w <;> rfl

@[simp] theorem moved_forLoop : (forLoop u v w x).moved f = forLoop (u.moved f) (v.moved f) (w.moved f) (x.moved f) := by
  simp [forLoop, moved]

@[simp] theorem moved_evaluate : (evaluate v).moved f = evaluate (v.moved f) := by cases v <;> rfl
@[simp] theorem moved_declare : (declare v w).moved f = declare (v.moved f) (w.moved f) := by cases v <;> simp [declare, moved]
@[simp] theorem moved_returnValue : (returnValue v).moved f = returnValue (v.moved f) := by simp [returnValue, moved]
@[simp] theorem moved_revert : (revert v).moved f = revert (v.moved f) := by simp [revert, moved]
@[simp] theorem moved_revertNamed : (revertNamed v).moved f = revertNamed (v.moved f) := by simp [revertNamed, moved]
@[simp] theorem moved_emit : (emit v).moved f = emit (v.moved f) := by cases v <;> rfl
@[simp] theorem moved_tryCatch : (tryCatch u v w).moved f = tryCatch (u.moved f) (v.moved f) (w.moved f) := by
  cases u <;> simp [tryCatch, moved]

@[simp] theorem moved_structDefinition : (structDefinition v w).moved f = structDefinition (v.moved f) (w.moved f) := by
  simp [structDefinition, moved]

@[simp] theorem moved_functionDefinition (kind : FunctionKind) :
    (functionDefinition kind v w).moved f = functionDefinition kind (v.moved f) (w.moved f) := by
  simp [functionDefinition, moved]

@[simp] theorem moved_specialFunction : (specialFunction u v w).moved f = specialFunction (u.moved f) (v.moved f) (w.moved f) := by
  cases u <;> simp [specialFunction, moved]

@[simp] theorem moved_contractDefinition :
    (contractDefinition u v w).moved f = contractDefinition (u.moved f) (v.moved f) (w.moved f) := by
  cases u with
  | contractKind kind =>
    simp only [contractDefinition, moved, name?_moved, filterMap_items_moved f w (contractPart?_moved f)]
  | _ => rfl

@[simp] theorem moved_sourceFile : (sourceFile v).moved f = sourceFile (v.moved f) := by
  simp only [sourceFile, moved, filterMap_items_moved f v (sourcePart?_moved f)]

end Makers

/-! ## Failures -/

section Failures

variable (u v w x : Value)

@[simp] theorem failure?_absent : absent.failure? = none := rfl
@[simp] theorem failure?_storage (s : StorageLocation) : (storage s).failure? = none := rfl
@[simp] theorem failure?_expression (e : Expression) : (expression e).failure? = none := rfl
@[simp] theorem failure?_statement (s : Statement) : (statement s).failure? = none := rfl
@[simp] theorem failure?_functionKind (k : FunctionKind) : (functionKind k).failure? = none := rfl
@[simp] theorem failure?_contractKind (k : ContractKind) : (contractKind k).failure? = none := rfl
@[simp] theorem failure?_contractPart (p : ContractPart) : (contractPart p).failure? = none := rfl
@[simp] theorem failure?_sourcePart (p : SourcePart) : (sourcePart p).failure? = none := rfl
@[simp] theorem failure?_sourceTree (t : SourceTree) : (sourceTree t).failure? = none := rfl
@[simp] theorem failure?_many (vs : List Value) : (many vs).failure? = none := rfl
@[simp] theorem failure?_mapping : (mapping v w).failure? = none := by unfold mapping; split <;> rfl
@[simp] theorem failure?_declared : (declared u v w).failure? = none := by unfold declared; split <;> rfl
@[simp] theorem failure?_variableNamed : (variableNamed v).failure? = none := by unfold variableNamed; split <;> rfl
@[simp] theorem failure?_unary (operator : UnaryOperator) : (unary operator v).failure? = none := by
  unfold unary; split <;> rfl
@[simp] theorem failure?_binary (operator : BinaryOperator) : (binary operator v w).failure? = none := by
  unfold binary; split <;> rfl
@[simp] theorem failure?_assign : (assign v w).failure? = none := by unfold assign; split <;> rfl
@[simp] theorem failure?_assignWith (operator : BinaryOperator) : (assignWith operator v w).failure? = none := by
  unfold assignWith; split <;> rfl
@[simp] theorem failure?_conditional : (conditional u v w).failure? = none := by unfold conditional; split <;> rfl
@[simp] theorem failure?_member : (member v w).failure? = none := by unfold member; split <;> rfl
@[simp] theorem failure?_subscript : (subscript v w).failure? = none := by unfold subscript; split <;> rfl
@[simp] theorem failure?_slice : (slice u v w).failure? = none := by unfold slice; split <;> rfl
@[simp] theorem failure?_call : (call v w).failure? = none := by unfold call; split <;> rfl
@[simp] theorem failure?_callNamed : (callNamed v w).failure? = none := by unfold callNamed; split <;> rfl
@[simp] theorem failure?_callOptions : (callOptions v w).failure? = none := by unfold callOptions; split <;> rfl
@[simp] theorem failure?_argument : (argument v w).failure? = none := by unfold argument; split <;> rfl
@[simp] theorem failure?_parenthesized : (parenthesized v).failure? = none := by unfold parenthesized; split <;> rfl
@[simp] theorem failure?_ifElse : (ifElse u v w).failure? = none := by unfold ifElse; split <;> rfl
@[simp] theorem failure?_whileLoop : (whileLoop v w).failure? = none := by unfold whileLoop; split <;> rfl
@[simp] theorem failure?_doWhile : (doWhile v w).failure? = none := by unfold doWhile; split <;> rfl
@[simp] theorem failure?_evaluate : (evaluate v).failure? = none := by unfold evaluate; split <;> rfl
@[simp] theorem failure?_declare : (declare v w).failure? = none := by unfold declare; split <;> rfl
@[simp] theorem failure?_emit : (emit v).failure? = none := by unfold emit; split <;> rfl
@[simp] theorem failure?_tryCatch : (tryCatch u v w).failure? = none := by unfold tryCatch; split <;> rfl
@[simp] theorem failure?_specialFunction : (specialFunction u v w).failure? = none := by
  unfold specialFunction; split <;> rfl
@[simp] theorem failure?_contractDefinition : (contractDefinition u v w).failure? = none := by
  unfold contractDefinition; split <;> rfl
@[simp] theorem failure?_sized : (sized v).failure? = none := by unfold sized; split <;> rfl
@[simp] theorem failure?_word : (word v).failure? = none := by unfold word; split <;> rfl
@[simp] theorem failure?_more : (more v w).failure? = none := by unfold more; split <;> rfl
@[simp] theorem failure?_before : (before v w).failure? = none := by unfold before; split <;> rfl

end Failures

end Value

/-- A rule makes of moved values what it makes of the values themselves, moved. -/
theorem Rule.value_moved {m : Nonterminal} {rule : Rule} (h : rule ∈ Rule.all m) (f : Nat → Nat) (v : Nat → Value) :
    (rule.value v).moved f = rule.value fun i => (v i).moved f := by
  revert rule
  cases m <;>
    simp [Rule.all, Rule.same, Rule.dropped, Value.builtin, Value.otherPart, Value.topPart, Value.plainStatement,
      Value.moved]

/-- A rule makes no failure but of one that it takes in, unless it is that of an import. -/
theorem Rule.value_cases {m : Nonterminal} {rule : Rule} (h : rule ∈ Rule.all m) (hm : m ≠ .importDirective)
    (v : Nat → Value) : (rule.value v).failure? = none ∨ ∃ i, v i = rule.value v := by
  revert rule
  cases m <;>
    simp [Rule.all, Rule.same, Rule.dropped, Value.builtin, Value.otherPart, Value.topPart, Value.plainStatement,
      Value.functionType, Value.literal, Value.arrayLiteral, Value.block, Value.argumentsBlock, Value.forLoop,
      Value.returnValue, Value.revert, Value.revertNamed, Value.structDefinition, Value.functionDefinition,
      Value.sourceFile, Value.one] at hm ⊢

/-! ## Values without places -/

namespace Value

mutual

/-- A value without the places of its tokens. -/
def bare : Value → Value
  | .token t => .token ⟨t.token, 0, 0⟩
  | .failure e => .failure ⟨0, e.problem⟩
  | .name n _ => .name n 0
  | .many values => .many (bareAll values)
  | v => v

/-- Values without the places of their tokens. -/
def bareAll : List Value → List Value
  | [] => []
  | v :: vs => v.bare :: bareAll vs

end

mutual

theorem moved_zero : ∀ v : Value, v.moved (fun _ => 0) = v.bare
  | .token _ | .failure _ | .name _ _ | .absent | .storage _ | .expression _ | .namedArgument _ _ | .declaration _
  | .statement _ | .functionKind _ | .contractKind _ | .contractPart _ | .sourcePart _ | .sourceTree _ => rfl
  | .many vs => by rw [moved, bare, movedAll_zero vs]

theorem movedAll_zero : ∀ vs : List Value, movedAll (fun _ => 0) vs = bareAll vs
  | [] => rfl
  | v :: vs => by rw [movedAll, bareAll, moved_zero v, movedAll_zero vs]

end

theorem failure?_bare (v : Value) : v.bare.failure? = none ↔ v.failure? = none := by
  rw [← moved_zero, failure?_moved, Option.map_eq_none_iff]

end Value

/-- A rule makes of bare values what it makes of the values themselves, made bare. -/
theorem Rule.value_bare {m : Nonterminal} {rule : Rule} (h : rule ∈ Rule.all m) (v : Nat → Value) :
    (rule.value v).bare = rule.value fun i => (v i).bare := by
  simp only [← Value.moved_zero]
  exact Rule.value_moved h _ v

end Grammar

end SoliditySchema
