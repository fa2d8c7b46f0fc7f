/-
  SoliditySchema.Proofs.Schema.OfTree — the schema of a contract, read off its source tree.

  Between the tree and the schema stands the outline. Here it is left out: `Lists` says of a part of the
  tree which title and which declarations it lists, and `Gives` which declaration of a statement counts.
  The schema of the contract has a table for each part that lists something, with a column for each
  declaration (`ofContract_of_tree`).
-/

import Mathlib.Data.List.Forall2
import SoliditySchema.Outline.OfTree
import SoliditySchema.Schema.OfContract

namespace SoliditySchema

/-! ## Lists of which some members count -/

/-- `ys` are what those members of `xs` that are related to anything are related to, in order. -/
inductive Selected {α β : Type} (R : α → β → Prop) : List α → List β → Prop where
  | nil : Selected R [] []
  | keep {x : α} {y : β} {xs : List α} {ys : List β} (h : R x y) (rest : Selected R xs ys) :
      Selected R (x :: xs) (y :: ys)
  | skip {x : α} {xs : List α} {ys : List β} (h : ∀ y, ¬ R x y) (rest : Selected R xs ys) : Selected R (x :: xs) ys

namespace Selected

variable {α β γ : Type} {R : α → β → Prop}

theorem exists_selected (R : α → β → Prop) (xs : List α) : ∃ ys, Selected R xs ys := by
  induction xs with
  | nil => exact ⟨[], .nil⟩
  | cons x xs ih =>
    obtain ⟨ys, hys⟩ := ih
    by_cases h : ∃ y, R x y
    · obtain ⟨y, hy⟩ := h
      exact ⟨y :: ys, .keep hy hys⟩
    · exact ⟨ys, .skip (not_exists.mp h) hys⟩

theorem unique {xs : List α} {ys ys' : List β} (h : Selected R xs ys) (h' : Selected R xs ys')
    (hR : ∀ x y y', R x y → R x y' → y = y') : ys = ys' := by
  induction h generalizing ys' with
  | nil => cases h'; rfl
  | keep hy _ ih =>
    cases h' with
    | keep hy' rest' => rw [hR _ _ _ hy hy', ih rest']
    | skip hno _ => exact absurd hy (hno _)
  | skip hno _ ih =>
    cases h' with
    | keep hy' _ => exact absurd hy' (hno _)
    | skip _ rest' => exact ih rest'

/-- A function that tells which members count selects the same. -/
theorem filterMap_eq {f : α → Option γ} {g : β → γ} (hkeep : ∀ x y, R x y → f x = some (g y))
    (hskip : ∀ x, (∀ y, ¬ R x y) → f x = none) {xs : List α} {ys : List β} (h : Selected R xs ys) :
    xs.filterMap f = ys.map g := by
  induction h with
  | nil => rfl
  | keep hy _ ih => rw [List.filterMap_cons_some (hkeep _ _ hy), ih, List.map_cons]
  | skip hno _ ih => rw [List.filterMap_cons_none (hskip _ hno), ih]

end Selected

namespace Outline

/-! ## What a statement gives -/

/-- A list entry without a name, maybe empty. -/
def Unnamed (entry : Option Declaration) : Prop := ∀ d ∈ entry, d.name = none

/-- The declaration that a statement gives: the one that it is, or the leftmost with a name in a list that
it assigns to. -/
inductive Gives : SoliditySchema.Statement → Declaration → Prop where
  | declared (d : Declaration) (value : Option Expression) : Gives (.declare d value) d
  | leftmost {before after : List (Option Declaration)} {d : Declaration} (right : Expression)
      (hbefore : ∀ entry ∈ before, Unnamed entry) (hname : d.name ≠ none) :
      Gives (.evaluate (.assign (.list (before ++ some d :: after)) right)) d

theorem isNamed_iff (entry : Option Declaration) : Statement.isNamed entry = true ↔ ¬ Unnamed entry := by
  cases entry with
  | none => simp [Statement.isNamed, Unnamed]
  | some d => simp [Statement.isNamed, Unnamed, Option.isSome_iff_ne_none]

/-- A list with a named entry has a leftmost one. -/
theorem exists_leftmost {entries : List (Option Declaration)} (h : entries.any Statement.isNamed = true) :
    ∃ before d after, entries = before ++ some d :: after ∧ (∀ entry ∈ before, Unnamed entry) ∧ d.name ≠ none := by
  induction entries with
  | nil => cases h
  | cons entry entries ih =>
    by_cases hentry : Unnamed entry
    · have hno : Statement.isNamed entry = false := by
        rw [← Bool.not_eq_true, isNamed_iff]; exact not_not_intro hentry
      rw [List.any_cons, hno, Bool.false_or] at h
      obtain ⟨before, d, after, rfl, hbefore, hname⟩ := ih h
      refine ⟨entry :: before, d, after, rfl, fun e he => ?_, hname⟩
      rcases List.mem_cons.mp he with rfl | he
      · exact hentry
      · exact hbefore e he
    · cases entry with
      | none => exact absurd (fun d hd => by cases hd) hentry
      | some d =>
        refine ⟨[], d, entries, rfl, by simp, fun hname => hentry fun e he => ?_⟩
        rw [← Option.mem_some_iff.mp he, hname]

theorem slotOfEntry_unnamed {entry : Option Declaration} (h : Unnamed entry) : slotOfEntry entry = none := by
  cases entry with
  | none => rfl
  | some d =>
    have hname : d.name = none := h d rfl
    simp [slotOfEntry, Option.filter, hname]

/-- The first slot of a list is that of its leftmost named entry. -/
theorem findSome?_slots {before after : List (Option Declaration)} {d : Declaration}
    (hbefore : ∀ entry ∈ before, Unnamed entry) (hname : d.name ≠ none) :
    ((before ++ some d :: after).map slotOfEntry).findSome? id = some (Variable.ofDeclaration d) := by
  induction before with
  | nil =>
    have hslot : slotOfEntry (some d) = some (Variable.ofDeclaration d) := by
      simp [slotOfEntry, Option.filter, Option.isSome_iff_ne_none.mpr hname]
    rw [List.nil_append, List.map_cons, List.findSome?_cons, hslot]
    rfl
  | cons entry before ih =>
    rw [List.cons_append, List.map_cons, List.findSome?_cons, slotOfEntry_unnamed (hbefore entry (by simp))]
    exact ih fun e he => hbefore e (by simp [he])

theorem firstVariable?_of_gives {s : SoliditySchema.Statement} {d : Declaration} (h : Gives s d) :
    (Statement.ofTree s).firstVariable? = some (Variable.ofDeclaration d) := by
  cases h with
  | declared => rfl
  | leftmost right hbefore hname =>
    rename_i before after
    have hany : (before ++ some d :: after).any Statement.isNamed = true := by
      refine List.any_eq_true.mpr ⟨some d, by simp, ?_⟩
      rw [isNamed_iff]
      exact fun h => hname (h d rfl)
    rw [Statement.ofTree, if_pos hany]
    exact findSome?_slots hbefore hname

theorem firstVariable?_of_gives_nothing {s : SoliditySchema.Statement} (h : ∀ d, ¬ Gives s d) :
    (Statement.ofTree s).firstVariable? = none := by
  unfold Statement.ofTree
  split
  · rename_i d value
    exact absurd (.declared d value) (h d)
  · split
    · rename_i entries right hany
      obtain ⟨before, d, after, rfl, hbefore, hname⟩ := exists_leftmost hany
      exact absurd (.leftmost right hbefore hname) (h d)
    · rfl
  · rfl

theorem leftmost_unique {before before' after after' : List (Option Declaration)} {d d' : Declaration}
    (heq : before ++ some d :: after = before' ++ some d' :: after') (hbefore : ∀ entry ∈ before, Unnamed entry)
    (hname : d.name ≠ none) (hbefore' : ∀ entry ∈ before', Unnamed entry) (hname' : d'.name ≠ none) : d = d' := by
  induction before generalizing before' with
  | nil =>
    cases before' with
    | nil =>
      injection heq with heq
      exact Option.some_inj.mp heq
    | cons entry before' =>
      injection heq with heq
      exact absurd (hbefore' entry (by simp) d heq.symm) hname
  | cons entry before ih =>
    cases before' with
    | nil =>
      injection heq with heq
      exact absurd (hbefore entry (by simp) d' heq) hname'
    | cons entry' before' =>
      injection heq with _ heq
      exact ih heq (fun e he => hbefore e (by simp [he])) (fun e he => hbefore' e (by simp [he]))

theorem gives_unique {s : SoliditySchema.Statement} {d d' : Declaration} (h : Gives s d) (h' : Gives s d') : d = d' := by
  cases h with
  | declared => cases h'; rfl
  | leftmost right hbefore hname =>
    generalize hs : SoliditySchema.Statement.evaluate _ = s at h'
    cases h' with
    | declared => cases hs
    | leftmost right' hbefore' hname' =>
      injection hs with hs
      injection hs with hs _
      injection hs with hs
      exact leftmost_unique hs hbefore hname hbefore' hname'

end Outline

/-! ## What a part lists -/

/-- A title and the declarations under it. -/
structure Listing where
  title : String
  declarations : List Declaration

/-- The statements of a body; a body that is no block has none. -/
def bodyOf : Option Statement → List Statement
  | some (.block _ body) => body
  | _ => []

/-- The word that a function without a name is called by, if it is no modifier. -/
inductive CalledBy : FunctionKind → String → Prop where
  | constructor : CalledBy .constructor "constructor"
  | fallback : CalledBy .fallback "fallback"
  | receive : CalledBy .receive "receive"
  | function : CalledBy .function ""

/-- What a part of a contract lists: a struct its fields, and a function that is no modifier what the
top-level statements of its body give. -/
inductive Lists : ContractPart → Listing → Prop where
  | struct (name : Option Identifier) (fields : List Declaration) :
      Lists (.structDefinition name fields) ⟨Outline.nameText name, fields⟩
  | named {kind : FunctionKind} (name : Identifier) {body : Option Statement} {ds : List Declaration}
      (hkind : kind ≠ .modifier) (hbody : Selected Outline.Gives (bodyOf body) ds) :
      Lists (.functionDefinition kind (some name) body) ⟨name.text, ds⟩
  | unnamed {kind : FunctionKind} {title : String} {body : Option Statement} {ds : List Declaration}
      (hkind : CalledBy kind title) (hbody : Selected Outline.Gives (bodyOf body) ds) :
      Lists (.functionDefinition kind none body) ⟨title, ds⟩

theorem bodyStatements_eq {body : Option Statement} {ds : List Declaration}
    (h : Selected Outline.Gives (bodyOf body) ds) :
    (Outline.Part.bodyStatements body).filterMap (·.firstVariable?) = ds.map Outline.Variable.ofDeclaration := by
  have hstatements : Outline.Part.bodyStatements body = (bodyOf body).map Outline.Statement.ofTree := by
    cases body with
    | none => rfl
    | some s => cases s <;> rfl
  rw [hstatements, List.filterMap_map]
  exact h.filterMap_eq (fun _ _ h => Outline.firstVariable?_of_gives h) fun _ h => Outline.firstVariable?_of_gives_nothing h

theorem CalledBy.functionName_eq {kind : FunctionKind} {title : String} (h : CalledBy kind title) :
    Outline.Part.functionName kind none = some title := by
  cases h <;> rfl

theorem functionName_named {kind : FunctionKind} (h : kind ≠ .modifier) (name : Identifier) :
    Outline.Part.functionName kind (some name) = some name.text := by
  cases kind with
  | modifier => exact absurd rfl h
  | _ => rfl

theorem ofPart?_of_lists {part : ContractPart} {l : Listing} (h : Lists part l) :
    Table.ofPart? (Outline.Part.ofTree part) =
      some (Table.ofVariables l.title (l.declarations.map Outline.Variable.ofDeclaration)) := by
  cases h with
  | struct => rfl
  | named name hkind hbody => simp only [Outline.Part.ofTree, functionName_named hkind, Table.ofPart?, bodyStatements_eq hbody]
  | unnamed hkind hbody => simp only [Outline.Part.ofTree, hkind.functionName_eq, Table.ofPart?, bodyStatements_eq hbody]

theorem ofPart?_of_lists_nothing {part : ContractPart} (h : ∀ l, ¬ Lists part l) :
    Table.ofPart? (Outline.Part.ofTree part) = none := by
  cases part with
  | structDefinition name fields => exact absurd (.struct name fields) (h _)
  | other kind => rfl
  | functionDefinition kind name body =>
    obtain ⟨ds, hds⟩ := Selected.exists_selected Outline.Gives (bodyOf body)
    cases name with
    | some name =>
      cases kind with
      | modifier => rfl
      | _ => exact absurd (.named name (by simp) hds) (h _)
    | none =>
      cases kind with
      | modifier => rfl
      | function => exact absurd (.unnamed .function hds) (h _)
      | constructor => exact absurd (.unnamed .constructor hds) (h _)
      | fallback => exact absurd (.unnamed .fallback hds) (h _)
      | receive => exact absurd (.unnamed .receive hds) (h _)

theorem lists_unique {part : ContractPart} {l l' : Listing} (h : Lists part l) (h' : Lists part l') : l = l' := by
  have hbodies : ∀ {body : List Statement} {ds ds' : List Declaration},
      Selected Outline.Gives body ds → Selected Outline.Gives body ds' → ds = ds' := fun h h' =>
    h.unique h' fun _ _ _ => Outline.gives_unique
  cases h with
  | struct => cases h'; rfl
  | named name hkind hbody =>
    cases h' with
    | named _ _ hbody' => rw [hbodies hbody hbody']
  | unnamed hkind hbody =>
    cases h' with
    | unnamed hkind' hbody' =>
      have htitle := hkind.functionName_eq.symm.trans hkind'.functionName_eq
      rw [hbodies hbody hbody', Option.some_inj.mp htitle]

/-! ## Tables -/

/-- A declaration whose type has a name. -/
def Resolves (d : Declaration) : Prop := ∃ name, (TypeRef.ofExpression d.type).resolvedName = some name

/-- The column of a declaration. -/
def IsColumnOf (d : Declaration) (column : Column) : Prop :=
  column.name = Outline.nameText d.name ∧
  ∃ name, (TypeRef.ofExpression d.type).resolvedName = some name ∧ column.type = ColumnType.ofTypeName name

/-- The table of what a part lists. -/
def IsTableOf (l : Listing) (table : Table) : Prop :=
  table.name = l.title ∧ List.Forall₂ IsColumnOf l.declarations table.columns

theorem ofVariables_of_resolves (title : String) {ds : List Declaration} (h : ∀ d ∈ ds, Resolves d) :
    ∃ table, Table.ofVariables title (ds.map Outline.Variable.ofDeclaration) = .ok table ∧ IsTableOf ⟨title, ds⟩ table := by
  have hcolumns : ∃ columns, (ds.map Outline.Variable.ofDeclaration).mapM (Column.ofVariable title) = .ok columns ∧
      List.Forall₂ IsColumnOf ds columns := by
    induction ds with
    | nil => exact ⟨[], rfl, .nil⟩
    | cons d ds ih =>
      obtain ⟨columns, hcolumns, hall⟩ := ih fun e he => h e (List.mem_cons_of_mem _ he)
      obtain ⟨name, hname⟩ := h d List.mem_cons_self
      have hcolumn : Column.ofVariable title (Outline.Variable.ofDeclaration d) =
          .ok ⟨Outline.nameText d.name, ColumnType.ofTypeName name⟩ := by
        simp only [Column.ofVariable, Outline.Variable.ofDeclaration, hname]
      refine ⟨⟨Outline.nameText d.name, ColumnType.ofTypeName name⟩ :: columns, ?_, .cons ⟨rfl, name, hname, rfl⟩ hall⟩
      rw [List.map_cons, List.mapM_cons, hcolumn, hcolumns]
      rfl
  obtain ⟨columns, hmap, hall⟩ := hcolumns
  exact ⟨⟨title, columns⟩, by rw [Table.ofVariables, hmap]; rfl, rfl, hall⟩

theorem ofAttempts_of_resolves {ls : List Listing} (h : ∀ l ∈ ls, ∀ d ∈ l.declarations, Resolves d) :
    ∃ tables, BuiltTables.ofAttempts
        (ls.map fun l => Table.ofVariables l.title (l.declarations.map Outline.Variable.ofDeclaration)) = ⟨tables, none⟩ ∧
      List.Forall₂ IsTableOf ls tables := by
  induction ls with
  | nil => exact ⟨[], rfl, .nil⟩
  | cons l ls ih =>
    obtain ⟨tables, hbuilt, hall⟩ := ih fun e he => h e (List.mem_cons_of_mem _ he)
    obtain ⟨table, htable, his⟩ := ofVariables_of_resolves l.title (h l List.mem_cons_self)
    exact ⟨table :: tables, by rw [List.map_cons, htable, BuiltTables.ofAttempts, hbuilt], .cons his hall⟩

/-- The schema of a contract, from its tree. What its parts list is determined, and if all the declared
types have names the schema is there: it is named like the contract, and its tables are those of the
lists, one for each and in their order. -/
theorem ofContract_of_tree (c : ContractDefinition)
    (hresolves : ∀ ls, Selected Lists c.parts ls → ∀ l ∈ ls, ∀ d ∈ l.declarations, Resolves d) :
    ∃ ls db, (∀ ls', Selected Lists c.parts ls' ↔ ls' = ls) ∧
      Database.ofContract (Outline.Contract.ofTree c) = .ok db ∧
      db.name = Outline.nameText c.name ∧ List.Forall₂ IsTableOf ls db.tables := by
  obtain ⟨ls, hls⟩ := Selected.exists_selected Lists c.parts
  have hparts : (Outline.Contract.ofTree c).parts.filterMap Table.ofPart? =
      ls.map fun l => Table.ofVariables l.title (l.declarations.map Outline.Variable.ofDeclaration) := by
    rw [Outline.Contract.ofTree, List.filterMap_map]
    exact hls.filterMap_eq (fun _ _ h => ofPart?_of_lists h) fun _ h => ofPart?_of_lists_nothing h
  obtain ⟨tables, hbuilt, hall⟩ := ofAttempts_of_resolves (hresolves ls hls)
  refine ⟨ls, ⟨Outline.nameText c.name, tables⟩, fun ls' => ⟨fun h => ?_, fun h => by rw [h]; exact hls⟩, ?_, rfl, hall⟩
  · exact h.unique hls fun _ _ _ => lists_unique
  · simp only [Database.ofContract, BuiltTables.ofContract, hparts, hbuilt]
    rfl

/-- A name for a contract and its parts. -/
def pool : Identifier := ⟨"Pool", by decide +kernel, by decide⟩

/-- A name for variables. -/
def owner : Identifier := ⟨"owner", by decide +kernel, by decide⟩

/-- A contract with a struct, a modifier, and a function whose body holds a declaration, an assignment to a
list that begins with an empty entry and one without a name, and a nested declaration. -/
def poolContract : ContractDefinition :=
  ⟨.contract, some pool, [
    .structDefinition (some pool) [.mk (.builtin .bool) none (some owner), .mk (.builtin .string) none (some owner)],
    .functionDefinition .modifier (some owner) none,
    .functionDefinition .fallback none (some (.block false [
      .declare (.mk (.builtin .bool) none (some pool)) none,
      .evaluate (.assign (.list [none, some (.mk (.builtin .bool) none none),
        some (.mk (.builtin .address) none (some owner)), some (.mk (.builtin .bool) none (some pool))]) (.list [])),
      .block false [.declare (.mk (.builtin .bool) none (some owner)) none]]))]⟩

/-- What its parts list. -/
def poolListings : List Listing := [
  ⟨"Pool", [.mk (.builtin .bool) none (some owner), .mk (.builtin .string) none (some owner)]⟩,
  ⟨"fallback", [.mk (.builtin .bool) none (some pool), .mk (.builtin .address) none (some owner)]⟩]

theorem poolContract_lists : Selected Lists poolContract.parts poolListings := by
  have hleft : Outline.Gives (.evaluate (.assign (.list ([none, some (.mk (.builtin .bool) none none)] ++
      some (.mk (.builtin .address) none (some owner)) :: [some (.mk (.builtin .bool) none (some pool))])) (.list [])))
      (.mk (.builtin .address) none (some owner)) :=
    .leftmost _ (by simp [Outline.Unnamed, Declaration.name]) (by simp [Declaration.name])
  refine .keep (.struct _ _) (.skip ?_ (.keep (.unnamed .fallback ?_) .nil))
  · rintro l h
    cases h
    contradiction
  · refine .keep (.declared _ _) (.keep hleft (.skip ?_ .nil))
    rintro d h
    cases h

theorem poolContract_tables : ∃ db, Database.ofContract (Outline.Contract.ofTree poolContract) = .ok db ∧
    db.name = "Pool" ∧ List.Forall₂ IsTableOf poolListings db.tables := by
  obtain ⟨ls, db, hlists, hdb, hname, hall⟩ := ofContract_of_tree poolContract fun ls h => by
    rw [h.unique poolContract_lists fun _ _ _ => lists_unique]
    simp [poolListings, Resolves, Declaration.type, TypeRef.ofExpression, TypeRef.resolvedName]
  rw [← (hlists _).mp poolContract_lists] at hall
  exact ⟨db, hdb, hname, hall⟩

end SoliditySchema
