/-
  SoliditySchema.Proofs.FileTree — an entry of the root directory and the paths that lead to it.

  A path that is one ordinary name leads to the entry of that name in the root directory, so reading it says
  that nothing is there exactly if the root has no such entry (`read_eq_notFound_iff`). A path that nowhere takes
  the name in the root directory reads the same whatever that entry is (`read_congr_but`): the walks in two trees
  that differ in the entry stand side by side all the way.
-/

import SoliditySchema.FileTree

namespace SoliditySchema.FileTree

/-- A path that is the name of an entry: short enough, without slashes, and none of the names with a meaning
of their own. -/
structure IsEntryName (path : String) : Prop where
  plain : path.toList.contains '\x00' = false
  components : FileTree.components path.toList = [path.toList]
  relative : path.toList.head? ≠ some '/'
  noDirectory : path.toList.getLast? ≠ some '/'
  ordinary : path.toList ≠ [] ∧ path.toList ≠ ['.'] ∧ path.toList ≠ ['.', '.']
  short : path.utf8ByteSize ≤ longestName

theorem read_entryName {path : String} (h : IsEntryName path) (t : FileTree) :
    t.read path =
      match FileNode.nodeAt? t.entries path with
      | some node => textOf (.inside [.directory t.entries] node)
      | none => .error .notFound := by
  have hshort := h.short
  have hpath : ¬ longestPath < path.utf8ByteSize := by
    have : longestName ≤ longestPath := by decide
    omega
  have hname : ¬ longestName < path.utf8ByteSize := by omega
  have hstep : step (.inside [] (.directory t.entries)) path.toList =
      match FileNode.nodeAt? t.entries path with
      | some node => .ok (.inside [.directory t.entries] node)
      | none => .error .notFound := by
    cases hnode : FileNode.nodeAt? t.entries path <;>
      simp only [step, if_neg h.ordinary.2.1, if_neg h.ordinary.2.2, String.ofList_toList, if_neg hname, hnode]
  simp only [read, h.plain, Bool.false_eq_true, if_false, if_neg h.ordinary.1, if_neg hpath, if_neg h.relative,
    if_neg h.noDirectory, h.components, List.append_nil, List.foldlM_cons, List.foldlM_nil, hstep]
  cases FileNode.nodeAt? t.entries path with
  | none => rfl
  | some node => rfl

theorem textOf_inside_ne_notFound (above : List FileNode) (node : FileNode) :
    textOf (.inside above node) ≠ .error .notFound := by
  cases node with
  | file content =>
    simp only [textOf]
    split
    · intro h; cases h
    · intro h; cases h
  | directory es => intro h; cases h

/-- There is nothing at a name exactly if the root directory has no entry of it. -/
theorem read_eq_notFound_iff {path : String} (h : IsEntryName path) (t : FileTree) :
    t.read path = .error .notFound ↔ FileNode.nodeAt? t.entries path = none := by
  rw [read_entryName h]
  cases FileNode.nodeAt? t.entries path with
  | none => simp
  | some node =>
    constructor
    · intro hread
      exact absurd hread (textOf_inside_ne_notFound _ node)
    · intro hnone
      cases hnone

/-! ## Trees that differ in one entry -/

/-- Two file systems have the same entries in their root directories, but perhaps for one name. -/
def AgreeBut (name : String) (t t' : FileTree) : Prop :=
  ∀ other, other ≠ name → FileNode.nodeAt? t'.entries other = FileNode.nodeAt? t.entries other

/-- Where the walk along a path begins. -/
def start (t : FileTree) (path : String) : Spot :=
  if path.toList.head? = some '/' then .outside (some []) else .inside [] (.directory t.entries)

/-- The steps of the walk along a path. -/
def steps (path : String) : List (List Char) :=
  components path.toList ++ (if path.toList.getLast? = some '/' then [['.']] else [])

/-- Some step of a walk takes a name in the root directory. -/
def Takes (t : FileTree) (name : String) (spot : Spot) (steps : List (List Char)) : Prop :=
  ∃ before after, steps = before ++ name.toList :: after ∧
    before.foldlM step spot = .ok (.inside [] (.directory t.entries))

/-- A path names the entry of the root directory with a name, or goes on from it. -/
def LeadsThrough (t : FileTree) (name path : String) : Prop := Takes t name (t.start path) (steps path)

/-- Two places, on a walk in each file system, that are the same but for the root directory. -/
inductive Beside (t t' : FileTree) : Spot → Spot → Prop
  | same (spot : Spot) : Beside t t' spot spot
  | root : Beside t t' (.inside [] (.directory t.entries)) (.inside [] (.directory t'.entries))
  | below (above : List FileNode) (node : FileNode) :
      Beside t t' (.inside (above ++ [.directory t.entries]) node) (.inside (above ++ [.directory t'.entries]) node)

section AgreeBut

variable {t t' : FileTree} {name : String}

/-- One step of both walks fails in the same way or stays side by side. -/
theorem Beside.step (hagree : AgreeBut name t t') {a b : Spot} (h : Beside t t' a b) {c : List Char}
    (hc : a = .inside [] (.directory t.entries) → c ≠ name.toList) :
    (∃ e, FileTree.step a c = .error e ∧ FileTree.step b c = .error e) ∨
    ∃ a' b', FileTree.step a c = .ok a' ∧ FileTree.step b c = .ok b' ∧ Beside t t' a' b' := by
  cases h with
  | same spot =>
    cases hstep : FileTree.step a c with
    | error e => exact .inl ⟨e, rfl, rfl⟩
    | ok next => exact .inr ⟨next, next, rfl, rfl, .same next⟩
  | root =>
    have hother : String.ofList c ≠ name := by
      intro hname
      refine hc rfl ?_
      rw [← hname, String.toList_ofList]
    simp only [FileTree.step, hagree _ hother]
    by_cases hstay : c = ['.']
    · simp only [if_pos hstay]
      exact .inr ⟨_, _, rfl, rfl, .root⟩
    by_cases hback : c = ['.', '.']
    · simp only [if_neg hstay, if_pos hback]
      exact .inr ⟨_, _, rfl, rfl, .same _⟩
    by_cases hlong : longestName < (String.ofList c).utf8ByteSize
    · simp only [if_neg hstay, if_neg hback, if_pos hlong]
      exact .inl ⟨_, rfl, rfl⟩
    simp only [if_neg hstay, if_neg hback, if_neg hlong]
    cases FileNode.nodeAt? t.entries (String.ofList c) with
    | none => exact .inl ⟨_, rfl, rfl⟩
    | some node => exact .inr ⟨_, _, rfl, rfl, .below [] node⟩
  | below above node =>
    cases node with
    | file content => exact .inl ⟨_, rfl, rfl⟩
    | directory es =>
      simp only [FileTree.step]
      by_cases hstay : c = ['.']
      · simp only [if_pos hstay]
        exact .inr ⟨_, _, rfl, rfl, .below above _⟩
      by_cases hback : c = ['.', '.']
      · simp only [if_neg hstay, if_pos hback]
        cases above with
        | nil => exact .inr ⟨_, _, rfl, rfl, .root⟩
        | cons parent more => exact .inr ⟨_, _, rfl, rfl, .below more parent⟩
      by_cases hlong : longestName < (String.ofList c).utf8ByteSize
      · simp only [if_neg hstay, if_neg hback, if_pos hlong]
        exact .inl ⟨_, rfl, rfl⟩
      simp only [if_neg hstay, if_neg hback, if_neg hlong]
      cases FileNode.nodeAt? es (String.ofList c) with
      | none => exact .inl ⟨_, rfl, rfl⟩
      | some next => exact .inr ⟨_, _, rfl, rfl, .below (.directory es :: above) next⟩

theorem Beside.textOf {a b : Spot} (h : Beside t t' a b) : FileTree.textOf a = FileTree.textOf b := by
  cases h with
  | same spot => rfl
  | root => rfl
  | below above node => cases node <;> rfl

theorem Beside.walk (hagree : AgreeBut name t t') {steps : List (List Char)} {a b : Spot} (h : Beside t t' a b)
    (hsteps : ¬ Takes t name a steps) :
    (steps.foldlM FileTree.step a >>= FileTree.textOf) = (steps.foldlM FileTree.step b >>= FileTree.textOf) := by
  induction steps generalizing a b with
  | nil => exact h.textOf
  | cons c steps ih =>
    have hc : a = .inside [] (.directory t.entries) → c ≠ name.toList := by
      intro hroot hname
      exact hsteps ⟨[], steps, by rw [hname]; rfl, congrArg Except.ok hroot⟩
    rw [List.foldlM_cons, List.foldlM_cons]
    rcases h.step hagree hc with ⟨e, ha, hb⟩ | ⟨a', b', ha, hb, hnext⟩
    · rw [ha, hb]
    · rw [ha, hb]
      apply ih hnext
      intro htakes
      obtain ⟨before, after, hsplit, hbefore⟩ := htakes
      refine hsteps ⟨c :: before, after, by rw [hsplit, List.cons_append], ?_⟩
      rw [List.foldlM_cons, ha]
      exact hbefore

/-- A path that does not lead through an entry reads the same whatever that entry is. -/
theorem read_congr_but (hagree : AgreeBut name t t') {path : String} (hpath : ¬ LeadsThrough t name path) :
    t'.read path = t.read path := by
  have hstart : Beside t t' (t.start path) (t'.start path) := by
    unfold start
    split
    · exact .same _
    · exact .root
  have hwalk := hstart.walk hagree hpath
  unfold start steps at hwalk
  unfold read
  dsimp only
  rw [← hwalk]

end AgreeBut

end SoliditySchema.FileTree
