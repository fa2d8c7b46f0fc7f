/-
  SoliditySchema.Proofs.Schema.FirstFailure — a contract is built as a whole, or its first bad type is named.

  Members of structs and first declared variables of statements are what a contract contributes
  (`Contributes`, `Gathers`). Building goes through three traversals, over the parts, over the statements that
  declare something and over their variables; put together they stop at the first contributed variable whose
  type resolves to no name, in source order (`failureOf_ofContract`). What is not contributed may be put in or
  taken out (`ofContract_inserted`), and parts in a row are built one after the other
  (`ofContract_append`).
-/

import Mathlib.Logic.Relation
import SoliditySchema.Proofs.Schema.OfTree

namespace SoliditySchema

/-! ## The failure of a traversal -/

section Failure

variable {ε α β : Type}

/-- The error that a computation ends with, if it does. -/
def failureOf : Except ε α → Option ε
  | .ok _ => none
  | .error e => some e

theorem failureOf_eq_some {x : Except ε α} {e : ε} : failureOf x = some e ↔ x = .error e := by
  cases x <;> simp [failureOf]

theorem failureOf_eq_none {x : Except ε α} : failureOf x = none ↔ ∃ a, x = .ok a := by
  cases x <;> simp [failureOf]

theorem failureOf_map (f : α → β) (x : Except ε α) : failureOf (x.map f) = failureOf x := by cases x <;> rfl

/-- A traversal fails with the first failure on its way. -/
theorem failureOf_mapM (f : α → Except ε β) (xs : List α) :
    failureOf (xs.mapM f) = xs.findSome? fun x => failureOf (f x) := by
  induction xs with
  | nil => rfl
  | cons x xs ih =>
    rw [List.mapM_cons, List.findSome?_cons, ← ih]
    cases f x with
    | error e => rfl
    | ok y => cases xs.mapM f <;> rfl

/-- The first member of a list with a property. -/
def IsFirst (P : α → Prop) (xs : List α) (x : α) : Prop :=
  ∃ before after, xs = before ++ x :: after ∧ P x ∧ ∀ b ∈ before, ¬ P b

end Failure

/-! ## What a contract contributes -/

namespace Outline

/-- The variable that a statement contributes: that of its first slot that is not empty. -/
inductive Contributes : Statement → Variable → Prop where
  | first (n : Nat) (v : Variable) (behind : List (Option Variable)) :
      Contributes (.declare (List.replicate n none ++ some v :: behind)) v

/-- Variables under the name of their table. -/
structure Group where
  table : String
  declared : List Variable

/-- What a part contributes: a struct its members, a function what its statements contribute. -/
inductive Gathers : Part → Group → Prop where
  | struct (name : String) (members : List Variable) : Gathers (.structDefinition name members) ⟨name, members⟩
  | function (name : String) {statements : List Statement} {vs : List Variable}
      (h : Selected Contributes statements vs) : Gathers (.function name statements) ⟨name, vs⟩

/-- A contributed variable and the name of its table. -/
structure Contribution where
  table : String
  declared : Variable

def Group.contributions (g : Group) : List Contribution := g.declared.map (⟨g.table, ·⟩)

namespace Contribution

/-- The type of the variable resolves to no name. -/
def Unresolved (d : Contribution) : Prop := d.declared.type.resolvedName = none

/-- The column that is named when the variable is at fault. -/
def column (d : Contribution) : UnresolvedColumn := ⟨d.table, d.declared.name⟩

def unresolved? (d : Contribution) : Option UnresolvedColumn :=
  match d.declared.type.resolvedName with
  | some _ => none
  | none => some d.column

theorem unresolved?_eq_none {d : Contribution} : d.unresolved? = none ↔ ¬ d.Unresolved := by
  unfold unresolved? Unresolved
  cases d.declared.type.resolvedName <;> simp

theorem unresolved?_eq_some {d : Contribution} {u : UnresolvedColumn} :
    d.unresolved? = some u ↔ d.Unresolved ∧ u = d.column := by
  unfold unresolved? Unresolved
  cases d.declared.type.resolvedName <;> simp [eq_comm]

end Contribution

/-! ### Slots and statements -/

theorem slots_cases (slots : List (Option Variable)) :
    (∃ n, slots = List.replicate n none) ∨ ∃ n v behind, slots = List.replicate n none ++ some v :: behind := by
  induction slots with
  | nil => exact .inl ⟨0, rfl⟩
  | cons slot slots ih =>
    cases slot with
    | some v => exact .inr ⟨0, v, slots, rfl⟩
    | none =>
      rcases ih with ⟨n, rfl⟩ | ⟨n, v, behind, rfl⟩
      · exact .inl ⟨n + 1, rfl⟩
      · exact .inr ⟨n + 1, v, behind, rfl⟩

theorem findSome?_empty (n : Nat) : (List.replicate n (none : Option Variable)).findSome? id = none := by
  induction n with
  | zero => rfl
  | succ n ih => rw [List.replicate_succ, List.findSome?_cons]; exact ih

theorem firstVariable?_of_contributes {s : Statement} {v : Variable} (h : Contributes s v) : s.firstVariable? = some v := by
  cases h with
  | first n v behind =>
    show (List.replicate n none ++ some v :: behind).findSome? id = some v
    rw [List.findSome?_append, findSome?_empty]
    rfl

theorem firstVariable?_of_contributes_nothing {s : Statement} (h : ∀ v, ¬ Contributes s v) : s.firstVariable? = none := by
  cases s with
  | other => rfl
  | declare slots =>
    rcases slots_cases slots with ⟨n, rfl⟩ | ⟨n, v, behind, rfl⟩
    · exact findSome?_empty n
    · exact absurd (.first n v behind) (h v)

theorem contributes_unique {s : Statement} {v v' : Variable} (h : Contributes s v) (h' : Contributes s v') : v = v' := by
  have heq := (firstVariable?_of_contributes h).symm.trans (firstVariable?_of_contributes h')
  exact Option.some_inj.mp heq

theorem ofPart?_of_gathers {p : Part} {g : Group} (h : Gathers p g) :
    Table.ofPart? p = some (Table.ofVariables g.table g.declared) := by
  cases h with
  | struct => rfl
  | function name hselected =>
    have hvariables := hselected.filterMap_eq (f := Statement.firstVariable?) (g := id)
      (fun _ _ h => firstVariable?_of_contributes h) fun _ h => firstVariable?_of_contributes_nothing h
    rw [Table.ofPart?, hvariables, List.map_id]

theorem ofPart?_of_gathers_nothing {p : Part} (h : ∀ g, ¬ Gathers p g) : Table.ofPart? p = none := by
  cases p with
  | structDefinition name members => exact absurd (.struct name members) (h _)
  | ignored => rfl
  | function name statements =>
    obtain ⟨vs, hvs⟩ := Selected.exists_selected Contributes statements
    exact absurd (.function name hvs) (h _)

theorem gathers_unique {p : Part} {g g' : Group} (h : Gathers p g) (h' : Gathers p g') : g = g' := by
  cases h with
  | struct => cases h'; rfl
  | function name hselected =>
    cases h' with
    | function _ hselected' => rw [hselected.unique hselected' fun _ _ _ => contributes_unique]

end Outline

/-! ## The first failure -/

open Outline (Contribution Group Gathers Contributes)

theorem failureOf_ofVariable (table : String) (v : Outline.Variable) :
    failureOf (Column.ofVariable table v) = Contribution.unresolved? ⟨table, v⟩ := by
  unfold Column.ofVariable Contribution.unresolved?
  cases v.type.resolvedName <;> rfl

/-- A table fails with its first variable whose type resolves to no name. -/
theorem failureOf_ofVariables (g : Group) :
    failureOf (Table.ofVariables g.table g.declared) = g.contributions.findSome? Contribution.unresolved? := by
  rw [Table.ofVariables, failureOf_map, failureOf_mapM, Group.contributions, List.findSome?_map]
  exact congrArg (List.findSome? · g.declared) (funext (failureOf_ofVariable g.table))

/-- The tables that are built before the first failure are a traversal of the attempts. -/
theorem BuiltTables.ofAttempts_eq (attempts : List (Except UnresolvedColumn Table)) :
    attempts.mapM id =
      match (ofAttempts attempts).stopped with
      | some u => Except.error u
      | none => Except.ok (ofAttempts attempts).tables := by
  induction attempts with
  | nil => rfl
  | cons attempt attempts ih =>
    rw [List.mapM_cons, ih]
    cases attempt with
    | error u => rfl
    | ok t =>
      show _ = match (ofAttempts attempts).stopped with
        | some u => Except.error u
        | none => Except.ok (t :: (ofAttempts attempts).tables)
      cases (ofAttempts attempts).stopped <;> rfl

theorem Database.ofContract_eq (c : Outline.Contract) :
    ofContract c = ((c.parts.filterMap Table.ofPart?).mapM id).map fun tables => ⟨c.name, tables⟩ := by
  rw [BuiltTables.ofAttempts_eq, ofContract, BuiltTables.ofContract]
  cases (BuiltTables.ofAttempts (c.parts.filterMap Table.ofPart?)).stopped <;> rfl

/-- Building fails with the first attempt that does. -/
theorem Database.failureOf_ofContract (c : Outline.Contract) :
    failureOf (ofContract c) = (c.parts.filterMap Table.ofPart?).findSome? failureOf := by
  rw [ofContract_eq, failureOf_map, failureOf_mapM]
  rfl

theorem findSome?_groups (gs : List Group) :
    (gs.map fun g => Table.ofVariables g.table g.declared).findSome? failureOf =
      (gs.flatMap Group.contributions).findSome? Contribution.unresolved? := by
  induction gs with
  | nil => rfl
  | cons g gs ih =>
    rw [List.map_cons, List.findSome?_cons, failureOf_ofVariables, ih, List.flatMap_cons, List.findSome?_append]
    cases g.contributions.findSome? Contribution.unresolved? <;> rfl

/-- A contract fails exactly if it contributes a variable whose type resolves to no name, and then the first
such variable is named. -/
theorem Database.ofContract_of_gathers {c : Outline.Contract} {gs : List Group} (h : Selected Gathers c.parts gs) :
    (∀ u, ofContract c = .error u ↔ ∃ d, IsFirst Contribution.Unresolved (gs.flatMap Group.contributions) d ∧ u = d.column) ∧
    ((∃ db, ofContract c = .ok db) ↔ ∀ d ∈ gs.flatMap Group.contributions, ¬ d.Unresolved) := by
  have hparts := h.filterMap_eq (f := Table.ofPart?) (g := fun g => Table.ofVariables g.table g.declared)
    (fun _ _ h => Outline.ofPart?_of_gathers h) fun _ h => Outline.ofPart?_of_gathers_nothing h
  have hfailure := failureOf_ofContract c
  rw [hparts, findSome?_groups] at hfailure
  constructor
  · intro u
    rw [← failureOf_eq_some, hfailure, List.findSome?_eq_some_iff]
    constructor
    · intro ⟨before, d, after, hsplit, hd, hbefore⟩
      obtain ⟨hunresolved, hu⟩ := Contribution.unresolved?_eq_some.mp hd
      exact ⟨d, ⟨before, after, hsplit, hunresolved, fun b hb => Contribution.unresolved?_eq_none.mp (hbefore b hb)⟩, hu⟩
    · intro ⟨d, ⟨before, after, hsplit, hunresolved, hbefore⟩, hu⟩
      exact ⟨before, d, after, hsplit, Contribution.unresolved?_eq_some.mpr ⟨hunresolved, hu⟩,
        fun b hb => Contribution.unresolved?_eq_none.mpr (hbefore b hb)⟩
  · rw [← failureOf_eq_none, hfailure, List.findSome?_eq_none_iff]
    exact forall₂_congr fun d _ => Contribution.unresolved?_eq_none

/-! ## What is not contributed -/

namespace Outline

/-- An empty slot, or any slot behind one that is not empty, is put among some slots. -/
inductive SlotInserted : List (Option Variable) → List (Option Variable) → Prop where
  | empty (before after : List (Option Variable)) : SlotInserted (before ++ after) (before ++ none :: after)
  | behind (before : List (Option Variable)) {v : Variable} (slot : Option Variable) (after : List (Option Variable))
      (h : some v ∈ before) : SlotInserted (before ++ after) (before ++ slot :: after)

/-- A statement that contributes nothing, or a slot that does not count, is put among some statements. -/
inductive StatementInserted : List Statement → List Statement → Prop where
  | other (before after : List Statement) : StatementInserted (before ++ after) (before ++ .other :: after)
  | empty (before after : List Statement) (n : Nat) :
      StatementInserted (before ++ after) (before ++ .declare (List.replicate n none) :: after)
  | slot (before after : List Statement) {slots slots' : List (Option Variable)} (h : SlotInserted slots slots') :
      StatementInserted (before ++ .declare slots :: after) (before ++ .declare slots' :: after)

/-- An ignored part, or something in a function that contributes nothing, is put among some parts. -/
inductive Inserted : List Part → List Part → Prop where
  | ignored (before after : List Part) : Inserted (before ++ after) (before ++ .ignored :: after)
  | inside (before after : List Part) (name : String) {statements statements' : List Statement}
      (h : StatementInserted statements statements') :
      Inserted (before ++ .function name statements :: after) (before ++ .function name statements' :: after)

theorem SlotInserted.firstVariable? {slots slots' : List (Option Variable)} (h : SlotInserted slots slots') :
    Statement.firstVariable? (.declare slots) = Statement.firstVariable? (.declare slots') := by
  show slots.findSome? id = slots'.findSome? id
  cases h with
  | empty before after => rw [List.findSome?_append, List.findSome?_append]; rfl
  | @behind before v slot after hv =>
    have hsome : (before.findSome? id).isSome = true := List.findSome?_isSome_iff.mpr ⟨some v, hv, rfl⟩
    obtain ⟨w, hw⟩ := Option.isSome_iff_exists.mp hsome
    rw [List.findSome?_append, List.findSome?_append, hw]
    rfl

theorem StatementInserted.firstVariables {statements statements' : List Statement} (h : StatementInserted statements statements') :
    statements.filterMap Statement.firstVariable? = statements'.filterMap Statement.firstVariable? := by
  cases h with
  | other before after => rw [List.filterMap_append, List.filterMap_append]; rfl
  | empty before after n =>
    have hnone : Statement.firstVariable? (.declare (List.replicate n none)) = none := findSome?_empty n
    rw [List.filterMap_append, List.filterMap_append, List.filterMap_cons_none hnone]
  | slot before after hslot =>
    rw [List.filterMap_append, List.filterMap_append, List.filterMap_cons, List.filterMap_cons, hslot.firstVariable?]

theorem Inserted.attempts {ps ps' : List Part} (h : Inserted ps ps') :
    ps.filterMap Table.ofPart? = ps'.filterMap Table.ofPart? := by
  cases h with
  | ignored before after => rw [List.filterMap_append, List.filterMap_append]; rfl
  | @inside before after name statements statements' hinside =>
    have htable : Table.ofPart? (.function name statements) = Table.ofPart? (.function name statements') := by
      rw [Table.ofPart?, Table.ofPart?, hinside.firstVariables]
    rw [List.filterMap_append, List.filterMap_append, List.filterMap_cons, List.filterMap_cons, htable]

end Outline

/-- Parts and statements that contribute nothing, and slots that do not count, may be put in and taken out. -/
theorem Database.ofContract_inserted (name : String) {ps ps' : List Outline.Part}
    (h : Relation.EqvGen Outline.Inserted ps ps') : ofContract ⟨name, ps⟩ = ofContract ⟨name, ps'⟩ := by
  induction h with
  | rel ps ps' hinserted => rw [ofContract_eq, ofContract_eq, hinserted.attempts]
  | refl ps => rfl
  | symm ps ps' _ ih => exact ih.symm
  | trans ps ps' ps'' _ _ ih ih' => exact ih.trans ih'

/-- Parts in a row are built one after the other. -/
theorem Database.ofContract_append (name : String) (ps qs : List Outline.Part) :
    ofContract ⟨name, ps ++ qs⟩ = do
      let first ← ofContract ⟨name, ps⟩
      let second ← ofContract ⟨name, qs⟩
      return ⟨name, first.tables ++ second.tables⟩ := by
  rw [ofContract_eq, ofContract_eq, ofContract_eq, List.filterMap_append, List.mapM_append]
  cases (ps.filterMap Table.ofPart?).mapM id with
  | error u => rfl
  | ok tables => cases (qs.filterMap Table.ofPart?).mapM id <;> rfl

end SoliditySchema
