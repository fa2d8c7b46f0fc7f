/-
  SoliditySchema.Proofs.Outline.Names — the names in an outline.

  Every contract of an outline is that of a tree, whichever way the text was parsed (`parse_contracts`), and
  the names in a tree are identifiers. So the names of an outline are identifiers or empty, except that a
  function without a name may be named after its keyword, which is spelled like an identifier too
  (`Contract.names_ofTree`).
-/

import SoliditySchema.Outline.OfText
import SoliditySchema.Proofs.Identifier

namespace SoliditySchema.Outline

/-! ## The names that there are -/

/-- The names that a statement declares. -/
def Statement.names : Statement → List String
  | .declare slots => slots.filterMap fun slot => slot.map Variable.name
  | .other => []

/-- The names of a part and of what it declares. -/
def Part.names : Part → List String
  | .structDefinition name members => name :: members.map Variable.name
  | .function name statements => name :: statements.flatMap Statement.names
  | .ignored => []

/-- The names in a contract. -/
def Contract.names (c : Contract) : List String := c.name :: c.parts.flatMap Part.names

/-! ## Names of trees -/

theorem nameText_isName (name : Option Identifier) : IsName (nameText name) := by
  cases name with
  | none => exact .inl rfl
  | some name => exact name.isName

theorem Variable.ofDeclaration_isName (d : Declaration) : IsName (Variable.ofDeclaration d).name := nameText_isName d.name

theorem slotOfEntry_isName {entry : Option Declaration} {v : Variable} (h : slotOfEntry entry = some v) : IsName v.name := by
  obtain ⟨d, -, rfl⟩ := Option.map_eq_some_iff.mp h
  exact Variable.ofDeclaration_isName d

theorem Statement.names_ofTree (s : SoliditySchema.Statement) : ∀ name ∈ (ofTree s).names, IsName name := by
  intro name hname
  unfold ofTree at hname
  split at hname
  · rename_i d value
    rw [List.mem_singleton.mp hname]
    exact Variable.ofDeclaration_isName d
  · split at hname
    · obtain ⟨slot, hslot, hmap⟩ := List.mem_filterMap.mp hname
      obtain ⟨v, rfl, rfl⟩ := Option.map_eq_some_iff.mp hmap
      obtain ⟨entry, -, hentry⟩ := List.mem_map.mp hslot
      exact slotOfEntry_isName hentry
    · cases hname
  · cases hname

theorem Part.functionName_isName {kind : FunctionKind} {name : Option Identifier} {text : String}
    (h : functionName kind name = some text) : IsName text := by
  have hkeywords : ∀ k ∈ ["constructor", "fallback", "receive"], Text.isIdentifier k.toList = true := by decide
  unfold functionName at h
  split at h
  · cases h
  · injection h with h
    rw [← h]
    exact Identifier.isName _
  · injection h with h
    rw [← h]
    exact .inr (hkeywords _ (by simp))
  · injection h with h
    rw [← h]
    exact .inr (hkeywords _ (by simp))
  · injection h with h
    rw [← h]
    exact .inr (hkeywords _ (by simp))
  · injection h with h
    exact .inl h.symm

theorem Part.names_bodyStatements (body : Option SoliditySchema.Statement) :
    ∀ s ∈ bodyStatements body, ∀ name ∈ s.names, IsName name := by
  intro s hs
  unfold bodyStatements at hs
  split at hs
  · obtain ⟨tree, -, rfl⟩ := List.mem_map.mp hs
    exact Statement.names_ofTree tree
  · cases hs

theorem Part.names_ofTree (p : ContractPart) : ∀ name ∈ (ofTree p).names, IsName name := by
  intro name hname
  cases p with
  | structDefinition title fields =>
    rcases List.mem_cons.mp hname with rfl | hname
    · exact nameText_isName title
    · obtain ⟨v, hv, rfl⟩ := List.mem_map.mp hname
      obtain ⟨d, -, rfl⟩ := List.mem_map.mp hv
      exact Variable.ofDeclaration_isName d
  | functionDefinition kind title body =>
    simp only [ofTree] at hname
    split at hname
    · rename_i text htext
      rcases List.mem_cons.mp hname with rfl | hname
      · exact functionName_isName htext
      · obtain ⟨s, hs, hname⟩ := List.mem_flatMap.mp hname
        exact names_bodyStatements body s hs name hname
    · cases hname
  | other kind => cases hname

/-- The names in the outline of a contract are identifiers or empty. -/
theorem Contract.names_ofTree (c : ContractDefinition) : ∀ name ∈ (ofTree c).names, IsName name := by
  intro name hname
  rcases List.mem_cons.mp hname with rfl | hname
  · exact nameText_isName c.name
  · obtain ⟨p, hp, hname⟩ := List.mem_flatMap.mp hname
    obtain ⟨tree, -, rfl⟩ := List.mem_map.mp hp
    exact Part.names_ofTree tree name hname

/-! ## Outlines of texts -/

/-- All that stands at the top level of an outline is the outline of a tree. -/
def OfTrees (o : Outline) : Prop := ∀ node ∈ o.nodes, ∃ part, node = Node.ofTree part

theorem ofTrees_ofCleanText {text : List Char} {o : Outline} (h : ofCleanText text = .ok o) : OfTrees o := by
  unfold ofCleanText at h
  cases htree : SourceTree.ofText text with
  | error es => rw [htree] at h; cases h
  | ok tree =>
    rw [htree] at h
    injection h with h
    intro node hnode
    rw [← h] at hnode
    obtain ⟨part, -, rfl⟩ := List.mem_map.mp hnode
    exact ⟨part, rfl⟩

theorem ofTrees_ofItem {text : List Char} {item : Item} {o : Outline} (h : (ofItem text item).toOption = some o) :
    OfTrees o := by
  unfold ofItem at h
  cases hclean : ofCleanText item.text with
  | error es => rw [hclean] at h; cases h
  | ok u =>
    rw [hclean] at h
    injection h with h
    rw [← h]
    exact ofTrees_ofCleanText hclean

theorem ofTrees_recover {text : List Char} {whole : List Diagnostic} {o : Outline}
    (h : (recover text whole).result = .ok o) : OfTrees o := by
  simp only [recover] at h
  split at h
  · cases h
  · injection h with h
    intro node hnode
    rw [← h] at hnode
    obtain ⟨u, hu, hnode⟩ := List.mem_flatMap.mp hnode
    obtain ⟨result, hresult, hoption⟩ := List.mem_filterMap.mp hu
    obtain ⟨item, -, rfl⟩ := List.mem_map.mp hresult
    exact ofTrees_ofItem hoption node hnode

theorem ofTrees_parse {tolerant : Bool} {text : List Char} {o : Outline} (h : (parse tolerant text).result = .ok o) :
    OfTrees o := by
  unfold parse at h
  cases hclean : ofCleanText text with
  | ok u =>
    rw [hclean] at h
    injection h with h
    rw [← h]
    exact ofTrees_ofCleanText hclean
  | error es =>
    rw [hclean] at h
    cases tolerant with
    | true => exact ofTrees_recover h
    | false => cases h

/-- In strict and in tolerant mode, every contract that is found is the outline of one in a tree. -/
theorem parse_contracts {tolerant : Bool} {text : List Char} {o : Outline} (h : (parse tolerant text).result = .ok o) :
    ∀ c ∈ o.contracts, ∃ definition, c = Contract.ofTree definition := by
  intro c hc
  obtain ⟨node, hnode, hcontract⟩ := List.mem_filterMap.mp hc
  obtain ⟨part, rfl⟩ := ofTrees_parse h node hnode
  cases part with
  | contract definition => exact ⟨definition, (Option.some_inj.mp hcontract).symm⟩
  | other kind => cases hcontract

end SoliditySchema.Outline
