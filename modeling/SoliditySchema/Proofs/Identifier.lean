/-
  SoliditySchema.Proofs.Identifier — what an identifier has no characters of.

  The classes of characters that begin and continue an identifier have nothing in common with white space,
  quotes or punctuation. So a name that is an identifier, or is empty, cannot end what it is put into.
-/

import Mathlib.Tactic.Tauto
import SoliditySchema.Identifier
import SoliditySchema.Text.Blank

namespace SoliditySchema

namespace Text

/-! ## Classes of characters -/

/-- No two ranges of two classes have a code point in common. -/
def disjoint (ranges others : List (Nat × Nat)) : Bool :=
  ranges.all fun r => others.all fun s => Nat.blt s.2 r.1 || Nat.blt r.2 s.1

theorem inRanges_of_disjoint {ranges others : List (Nat × Nat)} (h : disjoint ranges others = true) {c : Char}
    (hc : inRanges ranges c = true) : inRanges others c = false := by
  obtain ⟨r, hr, hcr⟩ := List.any_eq_true.mp hc
  cases hother : inRanges others c with
  | false => rfl
  | true =>
    obtain ⟨s, hs, hcs⟩ := List.any_eq_true.mp hother
    have hapart := List.all_eq_true.mp (List.all_eq_true.mp h r hr) s hs
    simp only [Bool.and_eq_true, decide_eq_true_eq, Bool.or_eq_true, Nat.blt_eq] at hcr hcs hapart
    omega

set_option maxRecDepth 20000 in
theorem startRanges_disjoint : disjoint startRanges blankRanges = true := by decide

set_option maxRecDepth 20000 in
theorem continueRanges_disjoint : disjoint continueRanges blankRanges = true := by decide

/-- The code points of ASCII letters, digits, the underscore and the dollar sign. -/
def asciiRanges : List (Nat × Nat) := [(36, 36), (48, 57), (65, 90), (95, 95), (97, 122)]

theorem asciiRanges_disjoint : disjoint asciiRanges blankRanges = true := by decide

theorem ascii_of_continue {c : Char} (hc : c.toNat < 128) (h : isIdentifierContinue c = true) :
    inRanges asciiRanges c = true := by
  simp only [isIdentifierContinue, hc, if_true, isAsciiLetter, isAsciiDigit, Bool.or_eq_true, Bool.and_eq_true,
    decide_eq_true_eq, beq_iff_eq] at h
  have hunder : c = '_' → c.toNat = 95 := fun h => by rw [h]; rfl
  have hdollar : c = '$' → c.toNat = 36 := fun h => by rw [h]; rfl
  simp only [inRanges, asciiRanges, List.any_cons, List.any_nil, Bool.or_false, Bool.or_eq_true, Bool.and_eq_true,
    decide_eq_true_eq]
  rcases h with ((h | h) | h) | h
  · omega
  · omega
  · have := hunder h; omega
  · have := hdollar h; omega

theorem continue_of_start_ascii {c : Char} (hc : c.toNat < 128) (h : isIdentifierStart c = true) :
    isIdentifierContinue c = true := by
  simp only [isIdentifierStart, hc, if_true, Bool.or_eq_true] at h
  simp only [isIdentifierContinue, hc, if_true, Bool.or_eq_true]
  tauto

/-- A character of an identifier is in one of its classes. -/
theorem range_of_identifier {cs : List Char} (h : isIdentifier cs = true) {c : Char} (hc : c ∈ cs) :
    (c.toNat < 128 ∧ inRanges asciiRanges c = true) ∨
      128 ≤ c.toNat ∧ (inRanges startRanges c = true ∨ inRanges continueRanges c = true) := by
  cases cs with
  | nil => cases h
  | cons d cs =>
    obtain ⟨hstart, hrest⟩ := Bool.and_eq_true_iff.mp h
    have hclass : isIdentifierStart c = true ∨ isIdentifierContinue c = true := by
      rcases List.mem_cons.mp hc with rfl | hc
      · exact .inl hstart
      · exact .inr (List.all_eq_true.mp hrest c hc)
    by_cases hascii : c.toNat < 128
    · refine .inl ⟨hascii, ascii_of_continue hascii ?_⟩
      exact hclass.elim (continue_of_start_ascii hascii) id
    · refine .inr ⟨by omega, ?_⟩
      simpa only [isIdentifierStart, isIdentifierContinue, hascii, if_false] using hclass

theorem not_blank_of_identifier {cs : List Char} (h : isIdentifier cs = true) {c : Char} (hc : c ∈ cs) :
    isBlank c = false := by
  rcases range_of_identifier h hc with ⟨-, h⟩ | ⟨-, h | h⟩
  · exact inRanges_of_disjoint asciiRanges_disjoint h
  · exact inRanges_of_disjoint startRanges_disjoint h
  · exact inRanges_of_disjoint continueRanges_disjoint h

/-- The newline, the quotes and the punctuation of the renderings. -/
def marks : List Char := ['\n', '"', '\'', '\x60', ',', ':', ';', '(', ')']

theorem not_mark_of_identifier {cs : List Char} (h : isIdentifier cs = true) {c : Char} (hc : c ∈ cs) : c ∉ marks := by
  intro hmark
  have hascii : marks.all (fun c => decide (c.toNat < 128)) = true := by decide
  have hapart : marks.any (inRanges asciiRanges) = false := by decide
  have hlow := of_decide_eq_true (List.all_eq_true.mp hascii c hmark)
  rcases range_of_identifier h hc with ⟨-, h⟩ | ⟨hhigh, -⟩
  · exact List.any_eq_false.mp hapart c hmark h
  · omega

end Text

/-- A name of a schema: an identifier, or nothing. -/
def IsName (name : String) : Prop := name = "" ∨ Text.isIdentifier name.toList = true

theorem Identifier.isName (name : Identifier) : IsName name.text := .inr name.spelled

/-- A name has no blanks, no quotes and no punctuation. -/
theorem IsName.clean {name : String} (h : IsName name) {c : Char} (hc : c ∈ name.toList) :
    Text.isBlank c = false ∧ c ∉ Text.marks := by
  rcases h with rfl | h
  · cases hc
  · exact ⟨Text.not_blank_of_identifier h hc, Text.not_mark_of_identifier h hc⟩

theorem IsName.not_mem {name : String} (h : IsName name) {c : Char} (hc : c ∈ Text.marks) : c ∉ name.toList :=
  fun hmem => (h.clean hmem).2 hc

end SoliditySchema
