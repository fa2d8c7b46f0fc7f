/-
  SoliditySchema.Proofs.Item.Cutting — cutting a text loses nothing and invents nothing.

  The items of a text tile it up to a blank rest: each begins where the one before it ends, and each is the
  part of the text at its place. An item is its own only item, and the items behind a cut are those of the
  text behind it, so cutting can be taken up again at any cut.
-/

import Mathlib.Data.List.Chain
import SoliditySchema.Proofs.Item.ByteWalk

namespace SoliditySchema.Item

open Cursor Text

/-- Items that tile a text: in order, with no gap, up to a blank rest. -/
structure Tiles (text : List Char) (items : List Item) : Prop where
  first : ∀ item ∈ items.head?, item.start = 0
  next : items.IsChain fun a b => b.start = a.start + byteLength a.text
  part : ∀ item ∈ items, slice? text item.start (item.start + byteLength item.text) = some item.text
  visible : ∀ item ∈ items, isBlankText item.text = false
  whole : ∃ tail, text = items.flatMap Item.text ++ tail ∧ isBlankText tail = true

/-- The same piece, found behind `n` more bytes. -/
def shift (n : Nat) (item : Item) : Item := { item with start := n + item.start }

/-! ## Consecutive pieces -/

theorem place_start (n : Nat) (ps : List (List Char)) : ∀ item ∈ (place n ps).head?, item.start = n := by
  intro item h
  cases ps with
  | nil => cases h
  | cons p ps =>
    rw [place, List.head?_cons, Option.mem_some_iff] at h
    rw [← h]

theorem place_chain (n : Nat) (ps : List (List Char)) :
    (place n ps).IsChain fun a b => b.start = a.start + byteLength a.text := by
  induction ps generalizing n with
  | nil => exact List.isChain_nil
  | cons p ps ih =>
    rw [place, List.isChain_cons]
    exact ⟨place_start _ ps, ih _⟩

/-- A piece is the part of the text at its place. -/
theorem slice?_place (before : List Char) (ps : List (List Char)) (rest : List Char) :
    ∀ item ∈ place (byteLength before) ps,
      slice? (before ++ (ps.flatten ++ rest)) item.start (item.start + byteLength item.text) = some item.text := by
  induction ps generalizing before with
  | nil => intro item h; cases h
  | cons p ps ih =>
    intro item h
    rw [place, ← byteLength_append] at h
    rw [List.flatten_cons, List.append_assoc]
    rcases List.mem_cons.mp h with rfl | h
    · exact slice?_append before p (ps.flatten ++ rest)
    · have := ih (before ++ p) item h
      rwa [List.append_assoc] at this

theorem place_shift (m n : Nat) (ps : List (List Char)) : place (m + n) ps = (place n ps).map (shift m) := by
  induction ps generalizing n with
  | nil => rfl
  | cons p ps ih => rw [place, place, List.map_cons, Nat.add_assoc, ih]; rfl

/-- Where consecutive pieces are parted, those behind are the rest of the pieces at their places. -/
theorem place_parted {n : Nat} {ps : List (List Char)} {as bs : List Item} (h : place n ps = as ++ bs) :
    ps = as.map Item.text ++ bs.map Item.text ∧ bs = place (n + byteLength (as.map Item.text).flatten) (bs.map Item.text) := by
  have hps : ps = as.map Item.text ++ bs.map Item.text := by
    rw [← List.map_append, ← h, map_text_place]
  refine ⟨hps, ?_⟩
  have hparts := h
  rw [hps, place_append] at hparts
  have hlen : (place n (as.map Item.text)).length = as.length := by
    rw [← List.length_map (f := Item.text), map_text_place, List.length_map]
  exact (List.append_inj_right hparts hlen).symm

/-- What stands before a piece says where it begins. -/
theorem mem_place {n : Nat} {ps : List (List Char)} {item : Item} (h : item ∈ place n ps) :
    ∃ as bs, ps = as ++ item.text :: bs ∧ item.start = n + byteLength as.flatten := by
  induction ps generalizing n with
  | nil => cases h
  | cons p ps ih =>
    rw [place] at h
    rcases List.mem_cons.mp h with rfl | h
    · exact ⟨[], ps, rfl, rfl⟩
    · obtain ⟨as, bs, hps, hstart⟩ := ih h
      refine ⟨p :: as, bs, by rw [hps, List.cons_append], ?_⟩
      rw [hstart, List.flatten_cons, byteLength_append, Nat.add_assoc]

/-- A piece ends before any later one begins. -/
theorem place_pairwise (n : Nat) (ps : List (List Char)) :
    (place n ps).Pairwise fun a b => a.start + byteLength a.text ≤ b.start := by
  induction ps generalizing n with
  | nil => exact .nil
  | cons p ps ih =>
    rw [place, List.pairwise_cons]
    refine ⟨?_, ih _⟩
    intro item hitem
    obtain ⟨as, bs, -, hstart⟩ := mem_place hitem
    rw [hstart]
    exact Nat.le_add_right _ _

/-! ## The pieces that count -/

theorem kept_flatten (ps : List (List Char)) (tail : List Char) :
    ∃ rest, ps.flatten ++ tail = (kept ps tail).flatten ++ rest ∧ isBlankText rest = true := by
  cases h : isBlankText tail with
  | true => exact ⟨tail, by simp [kept, h], h⟩
  | false => exact ⟨[], by simp [kept, h], rfl⟩

theorem kept_visible {ps : List (List Char)} {tail : List Char} (hp : ∀ p ∈ ps, Closes .start p) :
    ∀ p ∈ kept ps tail, isBlankText p = false := by
  intro p h
  rcases List.mem_append.mp h with h | h
  · exact (hp p h).not_blank
  · split at h
    · cases h
    · rename_i ht
      rw [List.mem_singleton.mp h]
      exact Bool.eq_false_iff.mpr ht

/-- A piece that counts is its own only item. -/
theorem kept_alone {ps : List (List Char)} {tail : List Char} (hp : ∀ p ∈ ps, Closes .start p)
    (ht : Unbroken .start tail) : ∀ p ∈ kept ps tail, ofText p = [⟨0, p⟩] := by
  intro p h
  have hblank := kept_visible hp p h
  rcases List.mem_append.mp h with h | h
  · have := @ofText_cut [p] [] (fun q hq => hp q (by rw [List.mem_singleton.mp hq]; exact h)) trivial
    simpa [kept, place, isBlankText] using this
  · split at h
    · cases h
    · rw [List.mem_singleton.mp h] at hblank ⊢
      have := @ofText_cut [] tail (by simp) ht
      simpa [kept, hblank, place] using this

/-- The pieces behind a cut are those that count in the text behind it. -/
theorem kept_parted {ps : List (List Char)} {tail : List Char} (hp : ∀ p ∈ ps, Closes .start p)
    (ht : Unbroken .start tail) {as bs : List (List Char)} (h : kept ps tail = as ++ bs) :
    ∃ (qs : List (List Char)) (rest : List Char), bs = kept qs rest ∧ (∀ q ∈ qs, Closes .start q) ∧
      Unbroken .start rest ∧ ps.flatten ++ tail = as.flatten ++ (qs.flatten ++ rest) := by
  induction as generalizing ps with
  | nil => exact ⟨ps, tail, h.symm, hp, ht, rfl⟩
  | cons a as ih =>
    cases ps with
    | cons p ps =>
      rw [kept, List.cons_append, List.cons_append] at h
      injection h with hpa hrest
      obtain ⟨qs, rest, hbs, hqs, hr, htext⟩ := ih (fun q hq => hp q (by simp [hq])) hrest
      refine ⟨qs, rest, hbs, hqs, hr, ?_⟩
      rw [List.flatten_cons, List.flatten_cons, List.append_assoc, List.append_assoc, htext, hpa]
    | nil =>
      -- only the rest after the last cut is left, and it is the whole of `as`
      rw [kept, List.nil_append, List.cons_append] at h
      split at h
      · cases h
      · injection h with hta hnil
        obtain ⟨rfl, rfl⟩ := List.append_eq_nil_iff.mp hnil.symm
        exact ⟨[], [], rfl, by simp, trivial, by simp [hta]⟩

/-! ## The items of a text -/

/-- The items of a text are consecutive pieces from its beginning on. -/
theorem ofText_eq_place (text : List Char) : ∃ ps rest, text = ps.flatten ++ rest ∧ ofText text = place 0 ps := by
  obtain ⟨ps, tail, rfl, hp, ht⟩ := exists_cut text
  obtain ⟨rest, hrest, -⟩ := kept_flatten ps tail
  exact ⟨kept ps tail, rest, hrest, ofText_cut hp ht⟩

/-- An item stands in its text where it says. -/
theorem mem_ofText {text : List Char} {item : Item} (h : item ∈ ofText text) :
    ∃ before rest, text = before ++ (item.text ++ rest) ∧ item.start = byteLength before := by
  obtain ⟨ps, rest, htext, hitems⟩ := ofText_eq_place text
  rw [hitems] at h
  obtain ⟨as, bs, hps, hstart⟩ := mem_place h
  refine ⟨as.flatten, bs.flatten ++ rest, ?_, by rw [hstart, Nat.zero_add]⟩
  rw [htext, hps]
  simp

/-- The walk over the bytes of a text always has a result, and the items it finds tile the text. Each of
them is its own only item, and wherever they are parted, those behind are the items of the text behind. -/
theorem ofText_tiles (text : List Char) :
    ofBytes? text = some (ofText text) ∧ Tiles text (ofText text) ∧
    (∀ item ∈ ofText text, ofText item.text = [⟨0, item.text⟩]) ∧
    ∀ as bs, ofText text = as ++ bs →
      ∃ rest, dropBytes? text (byteLength (as.flatMap Item.text)) = some rest ∧
        bs = (ofText rest).map (shift (byteLength (as.flatMap Item.text))) := by
  refine ⟨ofBytes?_eq text, ?_⟩
  obtain ⟨ps, tail, rfl, hp, ht⟩ := exists_cut text
  rw [ofText_cut hp ht]
  have htexts : (place 0 (kept ps tail)).map Item.text = kept ps tail := map_text_place 0 _
  have hmem : ∀ item ∈ place 0 (kept ps tail), item.text ∈ kept ps tail := fun item h => by
    rw [← htexts]; exact List.mem_map_of_mem h
  obtain ⟨rest, hrest, hblank⟩ := kept_flatten ps tail
  refine ⟨?_, fun item h => kept_alone hp ht _ (hmem item h), fun as bs h => ?_⟩
  · constructor
    · exact place_start 0 _
    · exact place_chain 0 _
    · rw [hrest]
      exact slice?_place [] (kept ps tail) rest
    · exact fun item h => kept_visible hp _ (hmem item h)
    · exact ⟨rest, by rw [List.flatMap_def, htexts, hrest], hblank⟩
  · obtain ⟨hkept, hbs⟩ := place_parted h
    obtain ⟨qs, rest, hq, hqs, hr, htext⟩ := kept_parted hp ht hkept
    rw [List.flatMap_def, htext]
    refine ⟨qs.flatten ++ rest, dropBytes?_append _ _, ?_⟩
    rw [ofText_cut hqs hr, ← hq, ← place_shift, Nat.add_zero, ← Nat.zero_add (byteLength _)]
    exact hbs

end SoliditySchema.Item
