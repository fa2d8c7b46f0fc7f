/-
  SoliditySchema.Proofs.Text.Line — the lines of a text.

  A text that was written line by line falls into its lines again, if no line has a newline of its own.
-/

import SoliditySchema.Text.Line

namespace SoliditySchema.Text

/-- The lines of a text, each up to its newline. What stands behind the last newline is no line. -/
def lines (text : String) : List String := (text.toList.splitOn '\n').dropLast.map String.ofList

theorem unlines_cons (line : String) (ls : List String) : unlines (line :: ls) = line ++ "\n" ++ unlines ls := by
  rw [← String.toList_inj]
  simp [unlines]

theorem toList_unlines_cons (line : String) (ls : List String) :
    (unlines (line :: ls)).toList = line.toList ++ '\n' :: (unlines ls).toList := by
  rw [unlines_cons]
  simp

theorem unlines_append (ls ls' : List String) : unlines (ls ++ ls') = unlines ls ++ unlines ls' := by
  induction ls with
  | nil => exact String.empty_append.symm
  | cons line ls ih => rw [List.cons_append, unlines_cons, ih, unlines_cons, ← String.append_assoc]

/-- Written lines end in a newline. -/
theorem getLast?_unlines {ls : List String} (h : ls ≠ []) : (unlines ls).toList.getLast? = some '\n' := by
  rcases List.eq_nil_or_concat ls with hnil | ⟨ls, line, hls⟩
  · exact absurd hnil h
  · rw [hls, List.concat_eq_append, unlines_append, unlines_cons]
    simp [unlines]

theorem splitOn_unlines {ls : List String} (h : ∀ line ∈ ls, '\n' ∉ line.toList) :
    (unlines ls).toList.splitOn '\n' = ls.map String.toList ++ [[]] := by
  induction ls with
  | nil => rfl
  | cons line ls ih =>
    rw [toList_unlines_cons, List.splitOn_append_cons_self_of_not_mem (h line (by simp)),
      ih fun l hl => h l (by simp [hl])]
    rfl

/-- Lines are found again in their text. -/
theorem lines_unlines {ls : List String} (h : ∀ line ∈ ls, '\n' ∉ line.toList) : lines (unlines ls) = ls := by
  rw [lines, splitOn_unlines h, List.dropLast_concat, List.map_map]
  exact List.map_id'' (fun _ => String.ofList_toList) ls

/-- A number is written in digits alone. -/
theorem newline_not_mem_toDigits (n : Nat) : '\n' ∉ Nat.toDigits 10 n := by
  intro hmem
  have hdigit := Nat.isDigit_of_mem_toDigits (by decide) (by decide) hmem
  exact absurd hdigit (by decide)

end SoliditySchema.Text
