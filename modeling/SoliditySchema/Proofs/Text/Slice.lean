/-
  SoliditySchema.Proofs.Text.Slice — byte offsets of a text that fall between its characters.

  An offset is written as the byte length of what stands before it. Dropping, taking and slicing at such
  offsets gives back the characters, and the bytes from there on are those of the rest.
-/

import SoliditySchema.Text.Slice

namespace SoliditySchema.Text

/-! ## Lengths -/

@[simp] theorem byteLength_nil : byteLength [] = 0 := rfl
@[simp] theorem byteLength_cons (c : Char) (cs : List Char) :
    byteLength (c :: cs) = c.utf8Size + byteLength cs := rfl

@[simp] theorem byteLength_append (a b : List Char) : byteLength (a ++ b) = byteLength a + byteLength b := by
  induction a with
  | nil => simp
  | cons c a ih => simp only [List.cons_append, byteLength_cons, ih]; omega

theorem byteLength_pos {cs : List Char} (h : cs ≠ []) : 0 < byteLength cs := by
  cases cs with
  | nil => exact absurd rfl h
  | cons c cs => have := c.utf8Size_pos; simp only [byteLength_cons]; omega

theorem byteLength_eq_zero {cs : List Char} : byteLength cs = 0 ↔ cs = [] := by
  constructor
  · intro h
    by_cases hn : cs = []
    · exact hn
    · have := byteLength_pos hn; omega
  · rintro rfl; rfl

/-! ## Parts -/

theorem takeBytes?_append (a b : List Char) : takeBytes? (a ++ b) (byteLength a) = some a := by
  induction a with
  | nil => cases b <;> rfl
  | cons c a ih =>
    have hc := c.utf8Size_pos
    obtain ⟨n, hn⟩ : ∃ n, byteLength (c :: a) = n + 1 := ⟨byteLength (c :: a) - 1, by simp only [byteLength_cons]; omega⟩
    have hle : c.utf8Size ≤ n + 1 := by simp only [byteLength_cons] at hn; omega
    have hsub : n + 1 - c.utf8Size = byteLength a := by simp only [byteLength_cons] at hn; omega
    simp only [List.cons_append, hn, takeBytes?, hle, if_true, hsub, ih, Option.map_some]

theorem dropBytes?_append (a b : List Char) : dropBytes? (a ++ b) (byteLength a) = some b := by
  induction a with
  | nil => cases b <;> rfl
  | cons c a ih =>
    have hc := c.utf8Size_pos
    obtain ⟨n, hn⟩ : ∃ n, byteLength (c :: a) = n + 1 := ⟨byteLength (c :: a) - 1, by simp only [byteLength_cons]; omega⟩
    have hle : c.utf8Size ≤ n + 1 := by simp only [byteLength_cons] at hn; omega
    have hsub : n + 1 - c.utf8Size = byteLength a := by simp only [byteLength_cons] at hn; omega
    simp only [List.cons_append, hn, dropBytes?, hle, if_true, hsub, ih]

theorem slice?_append (a b c : List Char) :
    slice? (a ++ (b ++ c)) (byteLength a) (byteLength a + byteLength b) = some b := by
  have hsub : byteLength a + byteLength b - byteLength a = byteLength b := by omega
  simp only [slice?, Nat.le_add_right, if_true, dropBytes?_append, Option.bind_some, hsub, takeBytes?_append]

/-! ## Searching -/

/-- A pattern is found behind the shortest text that does not have it, or it is nowhere. -/
theorem find?_cases {pattern : List Char} (hp : pattern ≠ []) (cs : List Char) :
    (∃ x rest, cs = x ++ (pattern ++ rest) ∧ ¬ pattern <:+: x ∧ find? pattern cs = some (byteLength x)) ∨
    (¬ pattern <:+: cs ∧ find? pattern cs = none) := by
  induction cs with
  | nil => exact .inr ⟨fun h => hp (List.infix_nil.mp h), by rw [find?, if_neg hp]⟩
  | cons c cs ih =>
    by_cases hfront : pattern <+: c :: cs
    · obtain ⟨rest, hrest⟩ := hfront
      refine .inl ⟨[], rest, hrest.symm, fun h => hp (List.infix_nil.mp h), ?_⟩
      rw [find?, if_pos (List.isPrefixOf_iff_prefix.mpr ⟨rest, hrest⟩)]
      rfl
    · have hfind : find? pattern (c :: cs) = (find? pattern cs).map (c.utf8Size + ·) := by
        rw [find?, if_neg fun h => hfront (List.isPrefixOf_iff_prefix.mp h)]
      rcases ih with ⟨x, rest, rfl, hx, hf⟩ | ⟨hcs, hf⟩
      · refine .inl ⟨c :: x, rest, rfl, fun h => ?_, by rw [hfind, hf]; rfl⟩
        rcases List.infix_cons_iff.mp h with h | h
        · exact hfront (h.trans ⟨pattern ++ rest, rfl⟩)
        · exact hx h
      · refine .inr ⟨fun h => ?_, by rw [hfind, hf]; rfl⟩
        exact (List.infix_cons_iff.mp h).elim hfront hcs

/-! ## Bytes -/

theorem bytes_cons (c : Char) (cs : List Char) : bytes (c :: cs) = String.utf8EncodeChar c ++ bytes cs := by
  simp [bytes]

theorem bytes_append (a b : List Char) : bytes (a ++ b) = bytes a ++ bytes b := by simp [bytes]

@[simp] theorem length_bytes (cs : List Char) : (bytes cs).length = byteLength cs := by
  induction cs with
  | nil => rfl
  | cons c cs ih => rw [bytes_cons, List.length_append, String.length_utf8EncodeChar, ih, byteLength_cons]

theorem drop_bytes (a b : List Char) : (bytes (a ++ b)).drop (byteLength a) = bytes b := by
  rw [bytes_append, ← length_bytes a, List.drop_left]

/-- Whatever stands before the rest, the bytes from its offset on are its bytes. -/
theorem drop_bytes_of_dropBytes? {cs rest : List Char} {n : Nat} (h : dropBytes? cs n = some rest) :
    (bytes cs).drop n = bytes rest := by
  induction cs generalizing n with
  | nil =>
    cases n with
    | zero => injection h with h; rw [← h]; rfl
    | succ n => cases h
  | cons c cs ih =>
    cases n with
    | zero => injection h with h; rw [← h]; rfl
    | succ n =>
      unfold dropBytes? at h
      split at h
      · rename_i hle
        have hn : n + 1 = (String.utf8EncodeChar c).length + (n + 1 - c.utf8Size) := by
          rw [String.length_utf8EncodeChar]; omega
        rw [bytes_cons, hn, ← List.drop_drop, List.drop_left, ih h]
      · cases h

/-- A character below U+0080 is one byte, its code. -/
theorem encode_ascii {c : Char} (h : c.toNat < 128) : String.utf8EncodeChar c = [c.toUInt8] := by
  have hv : c.val.toNat ≤ 127 := by have : c.val.toNat = c.toNat := rfl; omega
  have hs : c.utf8Size = 1 := Char.utf8Size_eq_one_iff.mpr (by simpa [UInt32.le_iff_toNat_le] using hv)
  exact String.utf8EncodeChar_eq_singleton hs

/-- Every byte of a character from U+0080 on is at least 128. -/
theorem encode_high {c : Char} (h : 128 ≤ c.toNat) {b : UInt8} (hb : b ∈ String.utf8EncodeChar c) :
    128 ≤ b.toNat := by
  have hv : c.toNat = c.val.toNat := rfl
  unfold String.utf8EncodeChar at hb
  simp only at hb
  split at hb
  · omega
  · split at hb
    · simp only [List.mem_cons, List.not_mem_nil, or_false] at hb
      rcases hb with rfl | rfl <;> simp only [UInt8.toNat_ofNat'] <;> omega
    · split at hb
      · simp only [List.mem_cons, List.not_mem_nil, or_false] at hb
        rcases hb with rfl | rfl | rfl <;> simp only [UInt8.toNat_ofNat'] <;> omega
      · simp only [List.mem_cons, List.not_mem_nil, or_false] at hb
        rcases hb with rfl | rfl | rfl | rfl <;> simp only [UInt8.toNat_ofNat'] <;> omega

end SoliditySchema.Text
