/-
  SoliditySchema.Proofs.Schema.ColumnType — a column type means what the declaration says.

  On the way to a column a type becomes a name, and whether the name was that of a built-in type is
  forgotten. Still nothing is mixed up: array suffixes drop out (`resolvedName_iff`), no dotted path of
  identifiers is spelled like the 256-bit unsigned integer (`path_ne_uint`), and of the built-in types only that
  one is (`spelling_uint`). So a column is an integer exactly if the source says `uint` or `uint256`
  (`columns_of_declarations`).
-/

import Mathlib.Data.List.Induction
import SoliditySchema.Outline.OfText
import SoliditySchema.Proofs.Schema.FirstFailure

namespace SoliditySchema

/-! ## Types and their names -/

/-- A type without its array suffixes. -/
def Expression.element : Expression → Expression
  | .subscript base _ => base.element
  | e => e

/-- An identifier, or a path of identifiers with dots between them. -/
inductive IsPath : Expression → Prop where
  | single (name : Identifier) : IsPath (.variable name)
  | member {base : Expression} (name : Identifier) (h : IsPath base) : IsPath (.member base name)

/-- The name of a type without array suffixes: the spelling of a built-in type, or a dotted path. -/
inductive Names : Expression → String → Prop where
  | builtin (type : BuiltinType) : Names (.builtin type) type.spelling
  | path {e : Expression} {path : String} (h : e.path? = some path) : Names e path

theorem isPath_iff {e : Expression} : IsPath e ↔ ∃ path, e.path? = some path := by
  constructor
  · intro h
    induction h with
    | single name => exact ⟨name.text, rfl⟩
    | member name _ ih =>
      obtain ⟨path, hpath⟩ := ih
      exact ⟨path ++ "." ++ name.text, by rw [Expression.path?, hpath]; rfl⟩
  · intro ⟨path, hpath⟩
    fun_induction Expression.path? e generalizing path with
    | case1 name => exact .single name
    | case2 base name ih =>
      obtain ⟨path', hpath', -⟩ := Option.map_eq_some_iff.mp hpath
      exact .member name (ih path' hpath')
    | case3 => cases hpath

/-- Array suffixes do not matter to the name of a type. -/
theorem resolvedName_iff {e : Expression} {name : String} :
    (TypeRef.ofExpression e).resolvedName = some name ↔ Names e.element name := by
  fun_induction Expression.element e with
  | case1 base index ih => exact ih
  | case2 e hbase =>
    have hpath : e.path? = some name → Names e name := .path
    cases e with
    | builtin type =>
      constructor
      · intro h
        rw [← Option.some_inj.mp h]
        exact .builtin type
      · intro h
        cases h with
        | builtin => rfl
        | path h => cases h
    | «variable» id =>
      constructor
      · exact hpath
      · intro h
        cases h with
        | path h => exact h
    | member base id =>
      constructor
      · intro h
        unfold TypeRef.ofExpression at h
        split at h
        · rename_i path hmember
          rw [← Option.some_inj.mp h]
          exact .path hmember
        · cases h
      · intro h
        cases h with
        | path h =>
          unfold TypeRef.ofExpression
          rw [h]
          rfl
    | subscript base index => exact absurd rfl (hbase base index)
    | _ =>
      constructor
      · intro h
        cases h
      · intro h
        cases h with
        | path h => cases h

/-! ## The 256-bit unsigned integer -/

/-- A name that `ColumnType.ofTypeName` takes for the 256-bit unsigned integer. -/
def IsUint (name : String) : Prop := name = "uint256" ∨ name = "uint"

theorem ofTypeName_integer {name : String} : ColumnType.ofTypeName name = .integer ↔ IsUint name := by
  unfold ColumnType.ofTypeName IsUint
  split <;> simp_all

theorem ofTypeName_string {name : String} : ColumnType.ofTypeName name = .string ↔ ¬ IsUint name := by
  unfold ColumnType.ofTypeName IsUint
  split <;> simp_all

/-- No path is spelled like it: an identifier is no word for a sized type, and a longer path has a dot. -/
theorem path_ne_uint {e : Expression} {path : String} (h : e.path? = some path) : ¬ IsUint path := by
  unfold Expression.path? at h
  split at h
  · rename_i name
    have hname : name.text = path := Option.some_inj.mp h
    have hsized := name.unsized
    rw [hname] at hsized
    intro huint
    rcases huint with rfl | rfl
    · exact absurd hsized (by decide)
    · exact absurd hsized (by decide)
  · rename_i base name
    obtain ⟨front, -, rfl⟩ := Option.map_eq_some_iff.mp h
    have hdot : '.' ∈ (front ++ "." ++ name.text).toList := by simp
    intro huint
    rcases huint with heq | heq
    · rw [heq] at hdot
      exact absurd hdot (by decide)
    · rw [heq] at hdot
      exact absurd hdot (by decide)
  · cases h

theorem toString_eq_256 {n : Nat} : (toString n).toList = ['2', '5', '6'] ↔ n = 256 := by
  constructor
  · intro h
    have hdigits : Nat.toDigits 10 n = ['2', '5', '6'] := by rw [← Nat.toList_repr]; exact h
    have hvalue := Nat.ofDigitChars_ten_toDigits (n := n)
    rw [hdigits] at hvalue
    exact hvalue.symm
  · rintro rfl
    rfl

/-- Of the sized types only that one is spelled so. -/
theorem sized_spelling_uint {type : SizedType} : IsUint type.spelling ↔ type = .uint 256 := by
  have hlist : ∀ s : String, IsUint s ↔ s.toList = ['u', 'i', 'n', 't', '2', '5', '6'] ∨ s.toList = ['u', 'i', 'n', 't'] :=
    fun s => or_congr String.toList_inj.symm String.toList_inj.symm
  rw [hlist]
  cases type with
  | uint bits =>
    have hsplit : (SizedType.uint bits).spelling.toList = ['u', 'i', 'n', 't'] ++ (toString bits).toList := String.toList_append
    rw [hsplit, SizedType.uint.injEq, ← toString_eq_256]
    simp
  | int bits =>
    have hsplit : (SizedType.int bits).spelling.toList = ['i', 'n', 't'] ++ (toString bits).toList := String.toList_append
    rw [hsplit]
    simp
  | bytes size =>
    have hsplit : (SizedType.bytes size).spelling.toList = ['b', 'y', 't', 'e', 's'] ++ (toString size).toList := String.toList_append
    rw [hsplit]
    simp

theorem spelling_uint {type : BuiltinType} : IsUint type.spelling ↔ type = .sized (.uint 256) := by
  cases type with
  | sized type => rw [BuiltinType.spelling, sized_spelling_uint, BuiltinType.sized.injEq]
  | _ => simp [BuiltinType.spelling, IsUint]

theorem names_uint {e : Expression} {name : String} (h : Names e name) : IsUint name ↔ e = .builtin (.sized (.uint 256)) := by
  cases h with
  | builtin type => rw [spelling_uint, Expression.builtin.injEq]
  | path hpath =>
    refine iff_of_false (path_ne_uint hpath) ?_
    rintro rfl
    cases hpath

theorem names_other {e : Expression} {name : String} (h : Names e name) :
    ¬ IsUint name ↔ (∃ type, e = .builtin type ∧ type ≠ .sized (.uint 256)) ∨ IsPath e := by
  cases h with
  | builtin type =>
    have hpath : ¬ IsPath (.builtin type) := by
      intro h
      cases h
    rw [spelling_uint]
    simp [hpath]
  | path hpath => exact iff_of_true (path_ne_uint hpath) (.inr (isPath_iff.mpr ⟨_, hpath⟩))

/-! ## Columns -/

/-- A type, without its array suffixes, that has no name. -/
def Nameless (e : Expression) : Prop :=
  (∃ key value, e = .mapping key value) ∨ (∃ parameters returns, e = .functionType parameters returns) ∨
  (∀ type, e ≠ .builtin type) ∧ ¬ IsPath e

/-- The column says of a declaration what it says itself. -/
structure ColumnMeans (d : Declaration) (column : Column) : Prop where
  name : column.name = Outline.nameText d.name
  integer : column.type = .integer ↔ d.type.element = .builtin (.sized (.uint 256))
  string : column.type = .string ↔
    (∃ type, d.type.element = .builtin type ∧ type ≠ .sized (.uint 256)) ∨ IsPath d.type.element

theorem resolvedName_eq_none {e : Expression} : (TypeRef.ofExpression e).resolvedName = none ↔ Nameless e.element := by
  have hnames : (TypeRef.ofExpression e).resolvedName = none ↔ ∀ name, ¬ Names e.element name := by
    rw [Option.eq_none_iff_forall_ne_some]
    exact forall_congr' fun name => not_congr resolvedName_iff
  rw [hnames]
  generalize e.element = b
  constructor
  · intro h
    refine .inr (.inr ⟨?_, fun hpath => ?_⟩)
    · rintro type rfl
      exact h _ (.builtin type)
    · obtain ⟨path, hpath⟩ := isPath_iff.mp hpath
      exact h path (.path hpath)
  · intro h name hname
    obtain ⟨key, value, rfl⟩ | ⟨parameters, returns, rfl⟩ | ⟨hbuiltin, hpath⟩ := h
    · cases hname with
      | path h => cases h
    · cases hname with
      | path h => cases h
    · cases hname with
      | builtin type => exact hbuiltin type rfl
      | path h => exact hpath (isPath_iff.mpr ⟨name, h⟩)

theorem columnMeans_of_isColumnOf {d : Declaration} {column : Column} (h : IsColumnOf d column) : ColumnMeans d column := by
  obtain ⟨hname, name, hresolved, htype⟩ := h
  have hnames : Names d.type.element name := resolvedName_iff.mp hresolved
  refine ⟨hname, ?_, ?_⟩
  · rw [htype, ofTypeName_integer, names_uint hnames]
  · rw [htype, ofTypeName_string, names_other hnames]

/-! ## The words of a source text -/

namespace SizedType

theorem digit_value {c : Char} (h : Text.isAsciiDigit c = true) : c.toNat - 48 < 10 ∧ Nat.digitChar (c.toNat - 48) = c := by
  have hrange : 48 ≤ c.toNat ∧ c.toNat ≤ 57 := by simpa [Text.isAsciiDigit] using h
  have hlt : c.toNat - 48 < 10 := by omega
  refine ⟨hlt, Char.toNat_inj.mp ?_⟩
  rw [Nat.toNat_digitChar_of_lt_ten hlt]
  omega

/-- Digits that do not begin with a zero are the decimal form of their value. -/
theorem toDigits_value {ds : List Char} (hne : ds ≠ []) (hdigits : ∀ c ∈ ds, Text.isAsciiDigit c = true)
    (hzero : ds.head? ≠ some '0') : Nat.toDigits 10 (Nat.ofDigitChars 10 ds 0) = ds := by
  induction ds using List.reverseRecOn with
  | nil => exact absurd rfl hne
  | append_singleton ds c ih =>
    obtain ⟨hlt, hc⟩ := digit_value (hdigits c (by simp))
    have hlast : Nat.toDigits 10 (c.toNat - 48) = [c] := by rw [Nat.toDigits_of_lt_base hlt, hc]
    have hvalue : Nat.ofDigitChars 10 (ds ++ [c]) 0 = 10 * Nat.ofDigitChars 10 ds 0 + (c.toNat - 48) := by
      rw [Nat.ofDigitChars_append, Nat.ofDigitChars_cons, Nat.ofDigitChars_nil]
      rfl
    rw [hvalue]
    by_cases hds : ds = []
    · subst hds
      simpa using hlast
    · have hhead : ds.head? ≠ some '0' := by
        rwa [List.head?_append_of_ne_nil _ hds] at hzero
      have hfront := ih hds (fun e he => hdigits e (by simp [he])) hhead
      have hpos : 0 < Nat.ofDigitChars 10 ds 0 := by
        rcases Nat.eq_zero_or_pos (Nat.ofDigitChars 10 ds 0) with h0 | hpos
        · rw [h0, Nat.toDigits_zero] at hfront
          exact absurd (by rw [← hfront]; rfl) hhead
        · exact hpos
      rw [← Nat.toDigits_append_toDigits (by decide) hpos hlt, hfront, hlast]

theorem toDigits_of_numeral {ds : List Char} {n : Nat} (h : numeral? ds = some n) : ds = Nat.toDigits 10 n := by
  unfold numeral? at h
  split at h
  · cases h
  · cases h
  · rename_i hne hzero
    split at h
    · rename_i hall
      have hvalue : Nat.ofDigitChars 10 ds 0 = n := by
        rw [Nat.ofDigitChars_eq_foldl]
        exact Option.some_inj.mp h
      have hhead : ds.head? ≠ some '0' := by
        intro h0
        obtain ⟨rest, hrest⟩ := List.head?_eq_some_iff.mp h0
        exact hzero rest hrest
      rw [← hvalue, toDigits_value hne (List.all_eq_true.mp hall) hhead]
    · cases h

/-- The words for that type. -/
theorem ofWord?_uint {word : List Char} :
    ofWord? word = some (.uint 256) ↔ word = "uint".toList ∨ word = "uint256".toList := by
  constructor
  · intro h
    unfold ofWord? at h
    split at h
    · rename_i ds
      obtain ⟨n, hbits, hn⟩ := Option.map_eq_some_iff.mp h
      obtain rfl := SizedType.uint.inj hn
      unfold bits? at hbits
      split at hbits
      · exact .inl rfl
      · obtain ⟨hnumeral, -⟩ := Option.filter_eq_some_iff.mp hbits
        rw [toDigits_of_numeral hnumeral]
        exact .inr rfl
    · obtain ⟨n, -, hn⟩ := Option.map_eq_some_iff.mp h
      cases hn
    · obtain ⟨n, -, hn⟩ := Option.map_eq_some_iff.mp h
      cases hn
    · cases h
  · intro h
    rcases h with rfl | rfl
    · rfl
    · rfl

end SizedType

/-! ## Contracts of a source text -/

/-- The contract that a top-level part is, if it is one. -/
def SourcePart.definition? : SourcePart → Option ContractDefinition
  | .contract c => some c
  | .other _ => none

/-- The contracts in the tree of a text, and none if the text does not parse. -/
def definitionsOf (text : List Char) : List ContractDefinition :=
  match SourceTree.ofText text with
  | .ok tree => tree.parts.filterMap SourcePart.definition?
  | .error _ => []

/-- The contracts of a text, or in tolerant mode, if the text does not parse, those of its items that do. -/
def definitionsIn (tolerant : Bool) (text : List Char) : List ContractDefinition :=
  match SourceTree.ofText text with
  | .ok tree => tree.parts.filterMap SourcePart.definition?
  | .error _ => if tolerant then (Item.ofText text).flatMap fun item => definitionsOf item.text else []

theorem contracts_ofTree (tree : SourceTree) :
    (Outline.ofTree tree).contracts = (tree.parts.filterMap SourcePart.definition?).map Outline.Contract.ofTree := by
  rw [Outline.contracts, Outline.ofTree, List.filterMap_map, List.map_filterMap]
  refine List.filterMap_congr fun part _ => ?_
  cases part <;> rfl

theorem contracts_ofItems (text : List Char) (items : List Item) :
    ((items.map (Outline.ofItem text)).filterMap Except.toOption).flatMap Outline.contracts =
      (items.flatMap fun item => definitionsOf item.text).map Outline.Contract.ofTree := by
  induction items with
  | nil => rfl
  | cons item items ih =>
    rw [List.map_cons, List.flatMap_cons, List.map_append, ← ih, Outline.ofItem, Outline.ofCleanText, definitionsOf]
    cases SourceTree.ofText item.text with
    | error es => rfl
    | ok tree =>
      show (Outline.ofTree tree).contracts ++ _ = _
      rw [contracts_ofTree]
      rfl

/-- The contracts of an outline are those of the text. -/
theorem contracts_of_parse {tolerant : Bool} {text : List Char} {outline : Outline}
    (h : (Outline.parse tolerant text).result = .ok outline) :
    outline.contracts = (definitionsIn tolerant text).map Outline.Contract.ofTree := by
  unfold Outline.parse Outline.ofCleanText at h
  unfold definitionsIn
  cases htree : SourceTree.ofText text with
  | ok tree =>
    rw [htree] at h
    injection h with h
    rw [← h]
    exact contracts_ofTree tree
  | error es =>
    rw [htree] at h
    cases tolerant with
    | false => cases h
    | true =>
      simp only [if_true]
      rw [← contracts_ofItems text]
      simp only [Outline.recover, Except.map, if_true] at h
      split at h
      · cases h
      · injection h with h
        rw [← h]
        exact List.filterMap_flatMap

/-! ## Schemas of a source text -/

theorem ofVariable_error_iff {title : String} {d : Declaration} {u : UnresolvedColumn} :
    Column.ofVariable title (Outline.Variable.ofDeclaration d) = .error u ↔
      Nameless d.type.element ∧ u = ⟨title, Outline.nameText d.name⟩ := by
  rw [← failureOf_eq_some, failureOf_ofVariable, Outline.Contribution.unresolved?_eq_some, ← resolvedName_eq_none]
  rfl

theorem isColumnOf_of_ofVariable {title : String} {d : Declaration} {column : Column}
    (h : Column.ofVariable title (Outline.Variable.ofDeclaration d) = .ok column) : IsColumnOf d column := by
  unfold Column.ofVariable at h
  split at h
  · rename_i name hname
    injection h with h
    rw [← h]
    exact ⟨rfl, name, hname, rfl⟩
  · cases h

theorem attempts_of_lists {c : ContractDefinition} {ls : List Listing} (h : Selected Lists c.parts ls) :
    (Outline.Contract.ofTree c).parts.filterMap Table.ofPart? =
      ls.map fun l => Table.ofVariables l.title (l.declarations.map Outline.Variable.ofDeclaration) := by
  rw [Outline.Contract.ofTree, List.filterMap_map]
  exact h.filterMap_eq (fun _ _ h => ofPart?_of_lists h) fun _ h => ofPart?_of_lists_nothing h

/-- What a part lists, as variables under the name of their table. -/
def Listing.group (l : Listing) : Outline.Group := ⟨l.title, l.declarations.map Outline.Variable.ofDeclaration⟩

/-- A contract fails exactly if some declared type is nameless. -/
theorem ofContract_error_iff {c : ContractDefinition} {ls : List Listing} (h : Selected Lists c.parts ls) :
    (∃ u, Database.ofContract (Outline.Contract.ofTree c) = .error u) ↔
      ∃ l ∈ ls, ∃ d ∈ l.declarations, Nameless d.type.element := by
  have hfailure := Database.failureOf_ofContract (Outline.Contract.ofTree c)
  have hgroups : ls.map (fun l => Table.ofVariables l.title (l.declarations.map Outline.Variable.ofDeclaration)) =
      (ls.map Listing.group).map fun g => Table.ofVariables g.table g.declared := by
    rw [List.map_map]
    rfl
  rw [attempts_of_lists h, hgroups, findSome?_groups] at hfailure
  constructor
  · intro ⟨u, hu⟩
    rw [← failureOf_eq_some, hfailure] at hu
    obtain ⟨contribution, hmem, hunresolved⟩ := List.exists_of_findSome?_eq_some hu
    obtain ⟨g, hg, hmem⟩ := List.mem_flatMap.mp hmem
    obtain ⟨l, hl, rfl⟩ := List.mem_map.mp hg
    obtain ⟨v, hv, rfl⟩ := List.mem_map.mp hmem
    obtain ⟨d, hd, rfl⟩ := List.mem_map.mp hv
    exact ⟨l, hl, d, hd, resolvedName_eq_none.mp (Outline.Contribution.unresolved?_eq_some.mp hunresolved).1⟩
  · intro ⟨l, hl, d, hd, hnameless⟩
    have hmem : (⟨l.title, Outline.Variable.ofDeclaration d⟩ : Outline.Contribution) ∈
        (ls.map Listing.group).flatMap Outline.Group.contributions :=
      List.mem_flatMap.mpr ⟨l.group, List.mem_map_of_mem hl, List.mem_map_of_mem (List.mem_map_of_mem hd)⟩
    cases hbuilt : Database.ofContract (Outline.Contract.ofTree c) with
    | error u => exact ⟨u, rfl⟩
    | ok db =>
      rw [hbuilt] at hfailure
      have hresolved := List.findSome?_eq_none_iff.mp hfailure.symm _ hmem
      exact absurd (resolvedName_eq_none.mpr hnameless) (Outline.Contribution.unresolved?_eq_none.mp hresolved)

/-- The tables of a contract that can be built. -/
theorem tables_of_lists {c : ContractDefinition} {ls : List Listing} (h : Selected Lists c.parts ls) {db : Database}
    (hdb : Database.ofContract (Outline.Contract.ofTree c) = .ok db) : List.Forall₂ IsTableOf ls db.tables := by
  have hresolves : ∀ l ∈ ls, ∀ d ∈ l.declarations, Resolves d := by
    intro l hl d hd
    refine Option.ne_none_iff_exists'.mp fun hnone => ?_
    obtain ⟨u, hu⟩ := (ofContract_error_iff h).mpr ⟨l, hl, d, hd, resolvedName_eq_none.mp hnone⟩
    rw [hdb] at hu
    cases hu
  obtain ⟨tables, hbuilt, hall⟩ := ofAttempts_of_resolves hresolves
  simp only [Database.ofContract, BuiltTables.ofContract, attempts_of_lists h, hbuilt] at hdb
  injection hdb with hdb
  rw [← hdb]
  exact hall

/-- Of a source text that parses. What the parts of a contract list is determined. A listed declaration has no
column exactly if its type, without array suffixes, is nameless, and a contract in which there is such a
declaration fails; else the declaration has a column, which is an integer exactly if the type is `uint`, that is
`uint256`, and a string if it is any other built-in type or a dotted path. -/
theorem columns_of_declarations {tolerant : Bool} {text : List Char} {outline : Outline}
    (h : (Outline.parse tolerant text).result = .ok outline) :
    outline.contracts = (definitionsIn tolerant text).map Outline.Contract.ofTree ∧
    (∀ word, SizedType.ofWord? word = some (.uint 256) ↔ word = "uint".toList ∨ word = "uint256".toList) ∧
    ∀ c ∈ definitionsIn tolerant text, ∃ ls, (∀ ls', Selected Lists c.parts ls' ↔ ls' = ls) ∧
      (∀ l ∈ ls, ∀ d ∈ l.declarations,
        (∀ column, Column.ofVariable l.title (Outline.Variable.ofDeclaration d) = .ok column → ColumnMeans d column) ∧
        ∀ u, Column.ofVariable l.title (Outline.Variable.ofDeclaration d) = .error u ↔
          Nameless d.type.element ∧ u = ⟨l.title, Outline.nameText d.name⟩) ∧
      ((∃ u, Database.ofContract (Outline.Contract.ofTree c) = .error u) ↔
        ∃ l ∈ ls, ∃ d ∈ l.declarations, Nameless d.type.element) ∧
      ∀ db, Database.ofContract (Outline.Contract.ofTree c) = .ok db →
        List.Forall₂ (fun l table => table.name = l.title ∧ List.Forall₂ ColumnMeans l.declarations table.columns)
          ls db.tables := by
  refine ⟨contracts_of_parse h, fun _ => SizedType.ofWord?_uint, fun c _ => ?_⟩
  obtain ⟨ls, hls⟩ := Selected.exists_selected Lists c.parts
  refine ⟨ls, fun ls' => ⟨fun h => ?_, fun h => by rw [h]; exact hls⟩, fun l _ d _ => ⟨?_, ?_⟩,
    ofContract_error_iff hls, fun db hdb => ?_⟩
  · exact h.unique hls fun _ _ _ => lists_unique
  · intro column hcolumn
    exact columnMeans_of_isColumnOf (isColumnOf_of_ofVariable hcolumn)
  · intro u
    exact ofVariable_error_iff
  · refine (tables_of_lists hls hdb).imp fun l table htable => ⟨htable.1, ?_⟩
    exact htable.2.imp fun d column => columnMeans_of_isColumnOf

/-- A struct with a member `uint[][2] x`. -/
def arrayMember : List Char := "contract A\x7bstruct S\x7buint[][2]x;\x7d\x7d".toList

/-- The declaration of such a member. -/
def arrayDeclaration (size : Expression) (name : Identifier) : Declaration :=
  .mk (.subscript (.subscript (.builtin (.sized (.uint 256))) none) (some size)) none (some name)

/-- The one part of the one contract is a struct with such a member. -/
def isArrayMember : List ContractDefinition → Bool
  | [⟨_, _, [.structDefinition (some title)
      [.mk (.subscript (.subscript (.builtin (.sized (.uint 256))) none) (some _)) none (some name)]]⟩] =>
    title.text == "S" && name.text == "x"
  | _ => false

theorem definitionsIn_arrayMember : ∃ kind contract title size name,
    definitionsIn false arrayMember = [⟨kind, contract, [.structDefinition (some title) [arrayDeclaration size name]]⟩] ∧
      title.text = "S" ∧ name.text = "x" := by
  have htree : isArrayMember (definitionsIn false arrayMember) = true := by decide +kernel
  unfold isArrayMember at htree
  split at htree
  · rename_i kind contract title size name htree'
    rw [Bool.and_eq_true, beq_iff_eq, beq_iff_eq] at htree
    exact ⟨kind, contract, title, size, name, htree', htree⟩
  · cases htree

/-- The column of that member is an integer. -/
theorem columns_of_member : ∃ outline, (Outline.parse false arrayMember).result = .ok outline ∧
    (definitionsIn false arrayMember).map Outline.Contract.ofTree =
      [⟨"A", [.structDefinition "S" [⟨"x", .array (.array (.builtin "uint256"))⟩]]⟩] ∧
    ∃ c ∈ definitionsIn false arrayMember, ∃ title size name,
      c.parts = [.structDefinition (some title) [arrayDeclaration size name]] ∧
      ∃ db, Database.ofContract (Outline.Contract.ofTree c) = .ok db ∧ db.tables = [⟨"S", [⟨"x", .integer⟩]⟩] := by
  have houtline : (Outline.parse false arrayMember).result.toOption =
      some ⟨[.contract ⟨"A", [.structDefinition "S" [⟨"x", .array (.array (.builtin "uint256"))⟩]]⟩]⟩ := by decide +kernel
  cases hparsed : (Outline.parse false arrayMember).result with
  | error ds => rw [hparsed] at houtline; cases houtline
  | ok outline =>
    rw [hparsed] at houtline
    obtain rfl := Option.some_inj.mp houtline
    obtain ⟨hcontracts, -, hcolumns⟩ := columns_of_declarations hparsed
    obtain ⟨kind, contract, title, size, name, htree, htitle, hname⟩ := definitionsIn_arrayMember
    refine ⟨_, rfl, hcontracts.symm, _, by rw [htree]; exact List.mem_cons_self, title, size, name, rfl, ?_⟩
    obtain ⟨ls, hls, -, hfails, htables⟩ := hcolumns _ (by rw [htree]; exact List.mem_cons_self)
    obtain rfl : [⟨title.text, [arrayDeclaration size name]⟩] = ls := (hls _).mp (.keep (.struct (some title) _) .nil)
    cases hbuilt : Database.ofContract (Outline.Contract.ofTree ⟨kind, contract, [.structDefinition (some title)
        [arrayDeclaration size name]]⟩) with
    | error u =>
      -- the only declared type has a name
      obtain ⟨l, hl, d, hd, hnameless⟩ := hfails.mp ⟨u, hbuilt⟩
      obtain rfl := List.mem_singleton.mp hl
      obtain rfl := List.mem_singleton.mp hd
      obtain ⟨_, _, h⟩ | ⟨_, _, h⟩ | ⟨h, -⟩ := hnameless
      · cases h
      · cases h
      · exact absurd rfl (h (.sized (.uint 256)))
    | ok db =>
      refine ⟨db, rfl, ?_⟩
      obtain ⟨⟨tableName, columns⟩, tables, ⟨htable, hcolumns⟩, hrest, hall⟩ :=
        List.forall₂_cons_left_iff.mp (htables db hbuilt)
      obtain ⟨⟨columnName, type⟩, more, hmeans, hmore, rfl⟩ := List.forall₂_cons_left_iff.mp hcolumns
      obtain rfl := List.forall₂_nil_left_iff.mp hrest
      obtain rfl := List.forall₂_nil_left_iff.mp hmore
      obtain rfl : tableName = "S" := htable.trans htitle
      obtain rfl : columnName = "x" := hmeans.name.trans hname
      obtain rfl : type = .integer := hmeans.integer.mpr rfl
      exact hall

end SoliditySchema
