/-
  SoliditySchema.Proofs.Token.Operator — the longest operator is read.

  `Operator.atStart?` takes the first spelling of a list that a text begins with. The list is sorted by
  length, so that is the longest one (`atStart?_iff`). Any longer spelling begins with one that is longer by
  one character, so the operator depends on no more than one character behind it (`atStart?_append`).
-/

import Mathlib.Data.List.Basic
import SoliditySchema.Token.Operator

namespace SoliditySchema.Operator

theorem mem_all (o : Operator) : o ∈ all := by cases o <;> decide

theorem spelling_inj {o o' : Operator} (h : o.spelling = o'.spelling) : o = o' := by
  have hinj : ∀ o ∈ all, ∀ o' ∈ all, o.spelling = o'.spelling → o = o' := by decide
  exact hinj o (mem_all o) o' (mem_all o') h

/-- A text begins with an operator and with none that is longer. -/
def IsLongest (o : Operator) (cs : List Char) : Prop :=
  o.spelling.toList <+: cs ∧
    ∀ o' : Operator, o'.spelling.toList <+: cs → o'.spelling.toList.length ≤ o.spelling.toList.length

theorem longest_of_atStart {cs : List Char} {o : Operator} (h : atStart? cs = some o) : IsLongest o cs := by
  have hsorted : all.Pairwise fun o o' => o'.spelling.toList.length ≤ o.spelling.toList.length := by decide
  obtain ⟨hp, before, after, hall, hbefore⟩ := List.find?_eq_some_iff_append.mp h
  refine ⟨List.isPrefixOf_iff_prefix.mp hp, fun o' ho' => ?_⟩
  have hmem := mem_all o'
  rw [hall] at hmem hsorted
  rcases List.mem_append.mp hmem with hmem | hmem
  · have hnot := hbefore o' hmem
    rw [List.isPrefixOf_iff_prefix.mpr ho'] at hnot
    cases hnot
  · rcases List.mem_cons.mp hmem with rfl | hmem
    · exact Nat.le_refl _
    · exact (List.pairwise_cons.mp (List.pairwise_append.mp hsorted).2.1).1 o' hmem

/-- The longest operator is read. -/
theorem atStart?_iff {cs : List Char} {o : Operator} : atStart? cs = some o ↔ IsLongest o cs := by
  refine ⟨longest_of_atStart, fun ⟨hp, hmax⟩ => ?_⟩
  cases hfind : atStart? cs with
  | none =>
    have hnot := List.find?_eq_none.mp hfind o (mem_all o)
    rw [List.isPrefixOf_iff_prefix.mpr hp] at hnot
    exact absurd rfl hnot
  | some o' =>
    obtain ⟨hp', hmax'⟩ := longest_of_atStart hfind
    have hlength : o.spelling.toList.length = o'.spelling.toList.length :=
      Nat.le_antisymm (hmax' o hp) (hmax o' hp')
    have heq := List.IsPrefix.eq_of_length (List.prefix_of_prefix_length_le hp hp' (Nat.le_of_eq hlength)) hlength
    rw [spelling_inj (String.toList_inj.mp heq)]

/-- A longer spelling begins with one that is longer by one character. -/
theorem exists_next {o o' : Operator} (hp : o.spelling.toList <+: o'.spelling.toList)
    (hlt : o.spelling.toList.length < o'.spelling.toList.length) :
    ∃ o'' : Operator, o''.spelling.toList = o'.spelling.toList.take (o.spelling.toList.length + 1) := by
  have hnext : ∀ o ∈ all, ∀ o' ∈ all, o.spelling.toList.isPrefixOf o'.spelling.toList →
      o.spelling.toList.length < o'.spelling.toList.length →
      ∃ o'' ∈ all, o''.spelling.toList = o'.spelling.toList.take (o.spelling.toList.length + 1) := by decide
  obtain ⟨o'', -, h⟩ := hnext o (mem_all o) o' (mem_all o') (List.isPrefixOf_iff_prefix.mpr hp) hlt
  exact ⟨o'', h⟩

theorem newline_not_mem (o : Operator) : '\n' ∉ o.spelling.toList := by
  have hall : ∀ o ∈ all, '\n' ∉ o.spelling.toList := by decide
  exact hall o (mem_all o)

/-- An operator is read before every text with the same first character; the end of the text counts as a
line feed. -/
theorem atStart?_append {o : Operator} {u v : List Char} (hv : v.headD '\n' = u.headD '\n')
    (h : atStart? (o.spelling.toList ++ u) = some o) : atStart? (o.spelling.toList ++ v) = some o := by
  obtain ⟨-, hmax⟩ := longest_of_atStart h
  refine atStart?_iff.mpr ⟨List.prefix_append _ _, fun o' ho' => ?_⟩
  by_contra hlt
  rw [Nat.not_le] at hlt
  have hp : o.spelling.toList <+: o'.spelling.toList :=
    List.prefix_of_prefix_length_le (List.prefix_append _ _) ho' (Nat.le_of_lt hlt)
  obtain ⟨o'', ho''⟩ := exists_next hp hlt
  obtain ⟨e, z, hz⟩ : ∃ e z, o'.spelling.toList = o.spelling.toList ++ e :: z := by
    obtain ⟨z, hz⟩ := hp
    cases z with
    | nil => rw [← hz] at hlt; simp at hlt
    | cons e z => exact ⟨e, z, hz.symm⟩
  have hspelling : o''.spelling.toList = o.spelling.toList ++ [e] := by
    rw [ho'', hz, List.take_append, List.take_of_length_le (Nat.le_succ _)]
    simp
  -- the character after the operator is seen in both texts
  obtain ⟨v', rfl⟩ : ∃ v', v = e :: v' := by
    rw [hz, List.prefix_append_right_inj] at ho'
    obtain ⟨v', hv'⟩ := ho'
    exact ⟨z ++ v', hv'.symm⟩
  obtain ⟨u', rfl⟩ : ∃ u', u = e :: u' := by
    cases u with
    | nil =>
      have he : e = '\n' := hv
      refine absurd ?_ (newline_not_mem o'')
      rw [hspelling, he]
      simp
    | cons d u' => exact ⟨u', by rw [show e = d from hv]⟩
  have hle := hmax o'' ⟨u', by rw [hspelling]; simp⟩
  rw [hspelling, List.length_append, List.length_singleton] at hle
  omega

end SoliditySchema.Operator
