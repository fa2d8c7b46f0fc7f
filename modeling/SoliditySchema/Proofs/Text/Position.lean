/-
  SoliditySchema.Proofs.Text.Position — places between characters.

  A boundary is an offset between two characters, written as the byte length of what stands before it; its
  place is the one right after that text (`lineColumn_append`). Places are ordered by lines and within a line
  by columns, and more text leads to later places (`lineColumn_lt`). Where a text begins later, the places of
  its first line move along their line by the columns before it, the others only by lines
  (`afterText_eq_movedTo`).
-/

import SoliditySchema.Proofs.Text.Slice

namespace SoliditySchema.Text

/-- An offset between two characters of a text, or at one of its ends. -/
def IsBoundary (text : List Char) (offset : Nat) : Prop :=
  ∃ before after, text = before ++ after ∧ offset = byteLength before

/-- The place of a boundary. -/
theorem lineColumn_append (before after : List Char) :
    lineColumn (before ++ after) (byteLength before) = Position.first.afterText before := by
  rw [lineColumn, takeBytes?_append]
  rfl

namespace Position

/-! ## The order of places -/

/-- Places in the order of a text: by lines, and by columns within a line. -/
instance : LE Position := ⟨fun p q => p.line < q.line ∨ p.line = q.line ∧ p.column ≤ q.column⟩

theorem le_def {p q : Position} : p ≤ q ↔ p.line < q.line ∨ p.line = q.line ∧ p.column ≤ q.column := Iff.rfl

instance (p q : Position) : Decidable (p ≤ q) :=
  inferInstanceAs (Decidable (p.line < q.line ∨ p.line = q.line ∧ p.column ≤ q.column))

/-- The strict order of places. -/
instance : LT Position := ⟨fun p q => p.line < q.line ∨ p.line = q.line ∧ p.column < q.column⟩

theorem lt_def {p q : Position} : p < q ↔ p.line < q.line ∨ p.line = q.line ∧ p.column < q.column := Iff.rfl

theorem le_refl (p : Position) : p ≤ p := .inr ⟨rfl, Nat.le_refl _⟩

theorem le_trans {p q r : Position} (hpq : p ≤ q) (hqr : q ≤ r) : p ≤ r := by
  rw [le_def] at hpq hqr ⊢
  omega

theorem lt_of_lt_of_le {p q r : Position} (hpq : p < q) (hqr : q ≤ r) : p < r := by
  rw [lt_def] at hpq ⊢
  rw [le_def] at hqr
  omega

theorem lt_of_le_of_lt {p q r : Position} (hpq : p ≤ q) (hqr : q < r) : p < r := by
  rw [lt_def] at hqr ⊢
  rw [le_def] at hpq
  omega

theorem not_le_of_lt {p q : Position} (h : p < q) : ¬ q ≤ p := by
  rw [lt_def] at h
  rw [le_def]
  omega

theorem le_of_lt {p q : Position} (h : p < q) : p ≤ q := by
  rw [lt_def] at h
  rw [le_def]
  omega

theorem lt_after (p : Position) (c : Char) : p < p.after c := by
  unfold after
  split
  · exact .inl (Nat.lt_succ_self _)
  · exact .inr ⟨rfl, Nat.lt_succ_self _⟩

theorem afterText_append (p : Position) (a b : List Char) : p.afterText (a ++ b) = (p.afterText a).afterText b :=
  List.foldl_append

/-- More text leads to a later place. -/
theorem le_afterText (p : Position) (cs : List Char) : p ≤ p.afterText cs := by
  induction cs generalizing p with
  | nil => exact le_refl p
  | cons c cs ih => exact le_trans (le_of_lt (lt_after p c)) (ih (p.after c))

theorem lt_afterText (p : Position) {cs : List Char} (h : cs ≠ []) : p < p.afterText cs := by
  cases cs with
  | nil => exact absurd rfl h
  | cons c cs => exact lt_of_lt_of_le (lt_after p c) (le_afterText (p.after c) cs)

/-! ## Texts that begin later -/

/-- The place `p` of a text when the text begins at `base`. -/
def movedTo (p base : Position) : Position :=
  if p.line = 1 then ⟨base.line, base.column + p.column - 1⟩ else ⟨base.line + p.line - 1, p.column⟩

/-- Lines and columns are counted from 1. -/
theorem one_le_afterText {p : Position} (hline : 1 ≤ p.line) (hcolumn : 1 ≤ p.column) (cs : List Char) :
    1 ≤ (p.afterText cs).line ∧ 1 ≤ (p.afterText cs).column := by
  induction cs generalizing p with
  | nil => exact ⟨hline, hcolumn⟩
  | cons c cs ih =>
    have hafter : 1 ≤ (p.after c).line ∧ 1 ≤ (p.after c).column := by
      unfold after
      split <;> simp only <;> omega
    exact ih hafter.1 hafter.2

theorem after_movedTo {base p : Position} (hline : 1 ≤ p.line) (hcolumn : 1 ≤ p.column) (c : Char) :
    (p.movedTo base).after c = (p.after c).movedTo base := by
  by_cases hc : c = '\n'
  · have hnext : ¬ p.line + 1 = 1 := by omega
    simp only [after, if_pos hc, movedTo, if_neg hnext]
    split
    · rename_i hfirst
      simp only [hfirst]
      rfl
    · have : base.line + p.line - 1 + 1 = base.line + (p.line + 1) - 1 := by omega
      simp only [this]
  · simp only [after, if_neg hc, movedTo]
    split
    · have : base.column + p.column - 1 + 1 = base.column + (p.column + 1) - 1 := by omega
      simp only [this]
    · rfl

/-- What stands behind a text that begins at `base` is where it would be behind the same text alone, moved. -/
theorem afterText_eq_movedTo (base : Position) (cs : List Char) : base.afterText cs = (first.afterText cs).movedTo base := by
  have hgeneral : ∀ (p : Position), 1 ≤ p.line → 1 ≤ p.column →
      (p.movedTo base).afterText cs = (p.afterText cs).movedTo base := by
    induction cs with
    | nil => exact fun _ _ _ => rfl
    | cons c cs ih =>
      intro p hline hcolumn
      have hafter := one_le_afterText hline hcolumn [c]
      show ((p.movedTo base).after c).afterText cs = ((p.after c).afterText cs).movedTo base
      rw [after_movedTo hline hcolumn]
      exact ih (p.after c) hafter.1 hafter.2
  have hfirst : first.movedTo base = base := by
    show (⟨base.line, base.column + 1 - 1⟩ : Position) = base
    rw [Nat.add_sub_cancel]
  have := hgeneral first (Nat.le_refl 1) (Nat.le_refl 1)
  rwa [hfirst] at this

end Position

/-! ## A part of a text -/

/-- Of two boundaries the later one stands behind more text. -/
theorem IsBoundary.exists_more {text : List Char} {m n : Nat} (hm : IsBoundary text m) (hn : IsBoundary text n)
    (h : m ≤ n) : ∃ a more b, text = a ++ (more ++ b) ∧ m = byteLength a ∧ n = byteLength (a ++ more) := by
  obtain ⟨a, b, htext, rfl⟩ := hm
  obtain ⟨c, d, hsame, rfl⟩ := hn
  rw [htext] at hsame
  rcases List.append_eq_append_iff.mp hsame with ⟨more, hc, hb⟩ | ⟨more, ha, -⟩
  · exact ⟨a, more, d, by rw [htext, hb], rfl, by rw [hc]⟩
  · -- the shorter text is not longer in bytes, so nothing is missing
    have hlength := congrArg byteLength ha
    rw [byteLength_append] at hlength
    have hnil : more = [] := byteLength_eq_zero.mp (by omega)
    exact ⟨a, [], b, htext, rfl, by rw [ha, hnil, List.append_nil, List.append_nil]⟩

/-- The place of the later boundary is that of the earlier one with the text between them. -/
theorem lineColumn_more (a more b : List Char) :
    lineColumn (a ++ (more ++ b)) (byteLength (a ++ more)) =
      (lineColumn (a ++ (more ++ b)) (byteLength a)).afterText more := by
  rw [lineColumn_append, ← Position.afterText_append, ← List.append_assoc, lineColumn_append]

/-- Of two boundaries the later one has the later place. -/
theorem lineColumn_le {text : List Char} {m n : Nat} (hm : IsBoundary text m) (hn : IsBoundary text n) (h : m ≤ n) :
    lineColumn text m ≤ lineColumn text n := by
  obtain ⟨a, more, b, rfl, rfl, rfl⟩ := hm.exists_more hn h
  rw [lineColumn_more]
  exact Position.le_afterText _ more

theorem lineColumn_lt {text : List Char} {m n : Nat} (hm : IsBoundary text m) (hn : IsBoundary text n) (h : m < n) :
    lineColumn text m < lineColumn text n := by
  obtain ⟨a, more, b, rfl, rfl, rfl⟩ := hm.exists_more hn (Nat.le_of_lt h)
  have hne : more ≠ [] := by
    rintro rfl
    rw [List.append_nil] at h
    exact Nat.lt_irrefl _ h
  rw [lineColumn_more]
  exact Position.lt_afterText _ hne

section Part

variable {part : List Char} {offset : Nat} (h : IsBoundary part offset)

include h

theorem IsBoundary.le_byteLength : offset ≤ byteLength part := by
  obtain ⟨a, b, rfl, rfl⟩ := h
  rw [byteLength_append]
  exact Nat.le_add_right _ _

variable (before rest : List Char)

/-- A boundary of a part is one of the text around it. -/
theorem IsBoundary.of_part : IsBoundary (before ++ (part ++ rest)) (byteLength before + offset) := by
  obtain ⟨a, b, rfl, rfl⟩ := h
  exact ⟨before ++ a, b ++ rest, by simp, (byteLength_append before a).symm⟩

/-- The place of a boundary of a part, in the text around it. -/
theorem lineColumn_part :
    lineColumn (before ++ (part ++ rest)) (byteLength before + offset) =
      (lineColumn part offset).movedTo (lineColumn (before ++ (part ++ rest)) (byteLength before)) := by
  obtain ⟨a, b, rfl, rfl⟩ := h
  have hbase := lineColumn_append before (a ++ b ++ rest)
  have hplace := lineColumn_append (before ++ a) (b ++ rest)
  have htext : before ++ a ++ (b ++ rest) = before ++ (a ++ b ++ rest) := by simp
  rw [htext, byteLength_append, Position.afterText_append] at hplace
  rw [hplace, hbase, lineColumn_append, ← Position.afterText_eq_movedTo]

end Part

end SoliditySchema.Text
