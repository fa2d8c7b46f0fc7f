/-
  SoliditySchema.Proofs.Json.Input — what reading takes from an input.

  Only what is left of a text decides what is read; the offset is of no account but for faults. So `Reads`
  speaks of the texts before and behind: from any input that is left with the one text a value is read,
  and the input after it is left with the other.

  A text literal may be spelled in many ways (`Spells`). Every spelling of a text is read as that text
  (`reads_text`).
-/

import Mathlib.Data.List.TakeWhile
import SoliditySchema.Json.Input

namespace SoliditySchema.Json

/-- From what is left of a text a value is read, and the rest is left. -/
def Reads {α : Type} (read : Reader α) (text : List Char) (value : α) (rest : List Char) : Prop :=
  ∀ i : Input, i.rest = text → ∃ j, read i = .ok (value, j) ∧ j.rest = rest

/-- From what is left of a text the beginning is taken, and the rest is left. -/
def Passes (take : Input → Except Fault Input) (text rest : List Char) : Prop :=
  ∀ i : Input, i.rest = text → ∃ j, take i = .ok j ∧ j.rest = rest

theorem Reads.map {α β : Type} {read : Reader α} {text rest : List Char} {value : α} (h : Reads read text value rest)
    (f : α → β) : Reads (fun i => (read i).map fun p => (f p.1, p.2)) text (f value) rest := by
  intro i hi
  obtain ⟨j, hj, hrest⟩ := h i hi
  exact ⟨j, by simp only [hj, Except.map], hrest⟩

namespace Input

/-! ## Blanks -/

/-- A text of blanks alone. -/
def Blanks (b : List Char) : Prop := ∀ c ∈ b, isBlank c = true

theorem Blanks.nil : Blanks [] := fun _ h => nomatch h

theorem Blanks.of_spaces (n : Nat) : Blanks (List.replicate n ' ') := by
  intro c hc
  rw [List.eq_of_mem_replicate hc]
  rfl

@[simp] theorem rest_skip (i : Input) (n : Nat) : (i.skip n).rest = i.rest.drop n := rfl

theorem rest_skipBlanks {i : Input} {b rest : List Char} {c : Char} (hb : Blanks b) (hc : isBlank c = false)
    (hi : i.rest = b ++ c :: rest) : i.skipBlanks.rest = c :: rest := by
  have htake : i.rest.takeWhile isBlank = b := by
    rw [hi, List.takeWhile_append_of_pos hb, List.takeWhile_cons_of_neg (by rw [hc]; exact Bool.false_ne_true),
      List.append_nil]
  rw [skipBlanks, rest_skip, htake, hi, List.drop_left]

theorem rest_skipBlanks_of_blanks {i : Input} (hb : Blanks i.rest) : i.skipBlanks.rest = [] := by
  have htake : i.rest.takeWhile isBlank = i.rest := List.takeWhile_eq_self_iff.mpr hb
  rw [skipBlanks, rest_skip, htake, List.drop_length]

/-- Behind the blanks it begins with, an input is at the next character. -/
theorem peek?_skipBlanks {i : Input} {b rest : List Char} {c : Char} (hb : Blanks b) (hc : isBlank c = false)
    (hi : i.rest = b ++ c :: rest) : i.skipBlanks.peek? = some c := by
  rw [peek?, rest_skipBlanks hb hc hi, List.head?_cons]

/-! ## Text literals -/

/-- What may stand between the quotes of a literal for a text: a character for itself, a backslash with a
letter, four hexadecimal digits, or twice four for the halves of a character. -/
inductive Spells : List Char → List Char → Prop
  | nil : Spells [] []
  | plain {c : Char} {t cs : List Char} : c ≠ '"' → c ≠ '\\' → 32 ≤ c.toNat → Spells t cs → Spells (c :: t) (c :: cs)
  | simple {e c : Char} {t cs : List Char} : simpleEscape? e = some c → Spells t cs → Spells ('\\' :: e :: t) (c :: cs)
  | code {x₁ x₂ x₃ x₄ : Char} {n : Nat} {t cs : List Char} : hexValue4? x₁ x₂ x₃ x₄ = some n →
      isLowHalf n = false → isHighHalf n = false → Spells t cs →
      Spells ('\\' :: 'u' :: x₁ :: x₂ :: x₃ :: x₄ :: t) (Char.ofNat n :: cs)
  | halves {x₁ x₂ x₃ x₄ y₁ y₂ y₃ y₄ : Char} {high low : Nat} {t cs : List Char} :
      hexValue4? x₁ x₂ x₃ x₄ = some high → isHighHalf high = true →
      hexValue4? y₁ y₂ y₃ y₄ = some low → isLowHalf low = true → Spells t cs →
      Spells ('\\' :: 'u' :: x₁ :: x₂ :: x₃ :: x₄ :: '\\' :: 'u' :: y₁ :: y₂ :: y₃ :: y₄ :: t) (joinHalves high low :: cs)

/-- No character is both halves of one. -/
theorem lowHalf_of_highHalf {n : Nat} (h : isHighHalf n = true) : isLowHalf n = false := by
  simp only [isHighHalf, isLowHalf, Bool.and_eq_true, decide_eq_true_eq, Bool.and_eq_false_iff,
    decide_eq_false_iff_not] at h ⊢
  omega

theorem ne_u_of_simpleEscape? {e c : Char} (h : simpleEscape? e = some c) : e ≠ 'u' := by
  intro he
  rw [he] at h
  cases h

section Steps

-- Each lemma of this section is one equation of `textContent`.
attribute [local simp] textContent

variable {offset : Nat} {t cs : List Char}

theorem textContent_plain {c : Char} (hquote : c ≠ '"') (hslash : c ≠ '\\') (hcode : 32 ≤ c.toNat) :
    textContent offset (c :: t) = prepend c (textContent (offset + c.utf8Size) t) := by
  rw [textContent, if_neg hslash, if_neg (Nat.not_lt.mpr hcode)]
  · exact hquote
  · intro x₁ x₂ x₃ x₄ rest h
    exact absurd h hslash
  · intro e rest h
    exact absurd h hslash

theorem textContent_simple {e c : Char} (he : simpleEscape? e = some c) :
    textContent offset ('\\' :: e :: t) = prepend c (textContent (offset + 2) t) := by
  rw [textContent, he]
  intro x₁ x₂ x₃ x₄ rest h
  exact absurd h (ne_u_of_simpleEscape? he)

theorem textContent_code {x₁ x₂ x₃ x₄ : Char} {n : Nat} (hn : hexValue4? x₁ x₂ x₃ x₄ = some n)
    (hlow : isLowHalf n = false) (hhigh : isHighHalf n = false) :
    textContent offset ('\\' :: 'u' :: x₁ :: x₂ :: x₃ :: x₄ :: t) =
      prepend (Char.ofNat n) (textContent (offset + 6) t) := by
  rw [textContent, hn]
  simp only [hlow, hhigh, Bool.false_eq_true, if_false]

theorem textContent_halves {x₁ x₂ x₃ x₄ y₁ y₂ y₃ y₄ : Char} {high low : Nat}
    (hx : hexValue4? x₁ x₂ x₃ x₄ = some high) (hhigh : isHighHalf high = true)
    (hy : hexValue4? y₁ y₂ y₃ y₄ = some low) (hlow : isLowHalf low = true) :
    textContent offset ('\\' :: 'u' :: x₁ :: x₂ :: x₃ :: x₄ :: '\\' :: 'u' :: y₁ :: y₂ :: y₃ :: y₄ :: t) =
      prepend (joinHalves high low) (textContent (offset + 12) t) := by
  rw [textContent, hx]
  simp only [lowHalf_of_highHalf hhigh, hhigh, hy, hlow, Bool.false_eq_true, if_false, if_true]

theorem prepend_ok {r : Except Fault (List Char × Input)} {j : Input} (c : Char) (h : r = .ok (cs, j)) :
    prepend c r = .ok (c :: cs, j) := by
  rw [h]
  rfl

end Steps

/-- A spelling and a closing quote are read as the text. -/
theorem textContent_of_spells {t cs : List Char} (h : Spells t cs) (offset : Nat) (rest : List Char) :
    ∃ j : Input, textContent offset (t ++ '"' :: rest) = .ok (cs, j) ∧ j.rest = rest := by
  induction h generalizing offset with
  | nil => exact ⟨⟨rest, offset + 1⟩, by rw [List.nil_append, textContent], rfl⟩
  | plain hquote hslash hcode _ ih =>
    obtain ⟨j, hj, hrest⟩ := ih _
    exact ⟨j, (textContent_plain hquote hslash hcode).trans (prepend_ok _ hj), hrest⟩
  | simple he _ ih =>
    obtain ⟨j, hj, hrest⟩ := ih _
    exact ⟨j, (textContent_simple he).trans (prepend_ok _ hj), hrest⟩
  | code hn hlow hhigh _ ih =>
    obtain ⟨j, hj, hrest⟩ := ih _
    exact ⟨j, (textContent_code hn hlow hhigh).trans (prepend_ok _ hj), hrest⟩
  | halves hx hhigh hy hlow _ ih =>
    obtain ⟨j, hj, hrest⟩ := ih _
    exact ⟨j, (textContent_halves hx hhigh hy hlow).trans (prepend_ok _ hj), hrest⟩

/-- A literal behind its opening quote. -/
theorem reads_text {t : List Char} {s : String} (h : Spells t s.toList) (rest : List Char) :
    Reads text (t ++ '"' :: rest) s rest := by
  intro i hi
  obtain ⟨j, hj, hrest⟩ := textContent_of_spells h i.offset rest
  refine ⟨j, ?_, hrest⟩
  rw [text, hi, hj]
  show Except.ok (String.ofList s.toList, j) = .ok (s, j)
  rw [String.ofList_toList]

end Input

end SoliditySchema.Json
