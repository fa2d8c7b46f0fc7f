/-
  SoliditySchema.Proofs.Outline.Warnings — where warnings are given.

  An item that does not parse is skipped with the errors that it has when it stands alone, moved to its place
  in the text (`errorsWithin_eq`). An error of an item is found between two of its characters, so its warning
  stands between the beginning and the end of the item, and the warnings of a text are in order (`warnings_moved`).
-/

import SoliditySchema.Proofs.Grammar.Places
import SoliditySchema.Proofs.Outline.Recovery

namespace SoliditySchema

/-- A diagnostic of a text when the text begins at `base`. -/
def Diagnostic.movedTo (d : Diagnostic) (base : Text.Position) : Diagnostic := ⟨d.place.movedTo base, d.message⟩

namespace Outline

open Text

/-- The diagnostics of an item alone in strict mode, moved to where the item stands in a text. -/
def movedErrors (text : List Char) (item : Item) : List Diagnostic :=
  (errorsOf (parse false item.text).result).map fun d => d.movedTo (lineColumn text item.start)

/-- An error of a text without an outline is found between its characters. -/
theorem ofCleanText_boundaries {text : List Char} {es : List SyntaxError} (h : ofCleanText text = .error es) :
    ∀ e ∈ es, IsBoundary text e.start := SourceTree.ofText_boundaries (ofCleanText_error_iff.mp h)

/-- What is wrong with an item is what is wrong with it alone, moved to its place. -/
theorem errorsWithin_eq {text : List Char} {item : Item} (h : item ∈ Item.ofText text) :
    errorsWithin text item = movedErrors text item := by
  obtain ⟨before, rest, htext, hstart⟩ := Item.mem_ofText h
  unfold errorsWithin movedErrors
  cases hclean : ofCleanText item.text with
  | ok u => rw [strict_ok hclean]; rfl
  | error es =>
    rw [strict_error hclean]
    show es.map (Diagnostic.ofError text item.start) =
      (es.map (Diagnostic.ofError item.text 0)).map fun d => d.movedTo (lineColumn text item.start)
    rw [List.map_map]
    apply List.map_congr_left
    intro e he
    have hplace := lineColumn_part (ofCleanText_boundaries hclean e he) before rest
    rw [← htext, ← hstart] at hplace
    show (⟨lineColumn text (item.start + e.start), e.problem.message⟩ : Diagnostic) =
      ⟨(lineColumn item.text (0 + e.start)).movedTo (lineColumn text item.start), e.problem.message⟩
    rw [hplace, Nat.zero_add]

/-- The place of a warning for an item: a boundary of the text that is in the item. -/
theorem exists_boundary {text : List Char} {item : Item} (h : item ∈ Item.ofText text) {d : Diagnostic}
    (hd : d ∈ movedErrors text item) :
    ∃ n, d.place = lineColumn text n ∧ IsBoundary text n ∧ item.start ≤ n ∧ n ≤ item.start + byteLength item.text := by
  obtain ⟨before, rest, htext, hstart⟩ := Item.mem_ofText h
  rw [← errorsWithin_eq h, errorsWithin] at hd
  cases hclean : ofCleanText item.text with
  | ok u => rw [hclean] at hd; cases hd
  | error es =>
    rw [hclean] at hd
    obtain ⟨e, he, rfl⟩ := List.mem_map.mp hd
    have hboundary := ofCleanText_boundaries hclean e he
    refine ⟨item.start + e.start, rfl, ?_, Nat.le_add_right _ _, Nat.add_le_add_left hboundary.le_byteLength _⟩
    rw [htext, hstart]
    exact hboundary.of_part before rest

theorem isBoundary_start {text : List Char} {item : Item} (h : item ∈ Item.ofText text) : IsBoundary text item.start := by
  obtain ⟨before, rest, htext, hstart⟩ := Item.mem_ofText h
  exact ⟨before, item.text ++ rest, htext, hstart⟩

theorem isBoundary_end {text : List Char} {item : Item} (h : item ∈ Item.ofText text) :
    IsBoundary text (item.start + byteLength item.text) := by
  obtain ⟨before, rest, htext, hstart⟩ := Item.mem_ofText h
  exact ⟨before ++ item.text, rest, by rw [htext, List.append_assoc], by rw [hstart, byteLength_append]⟩

/-- A text that does not parse is warned about item by item: for each item that does not parse alone its
diagnostics, with their messages, moved to where it stands. Each warning is placed within its item, and none of
an earlier item behind one of a later item. -/
theorem warnings_moved {text : List Char} (hfail : ¬ Parses text) :
    warnings (parse true text) = (Item.ofText text).flatMap (movedErrors text) ∧
    (∀ item ∈ Item.ofText text, movedErrors text item = [] ↔ Parses item.text) ∧
    (∀ item ∈ Item.ofText text, ∀ d ∈ movedErrors text item,
      lineColumn text item.start ≤ d.place ∧ d.place ≤ lineColumn text (item.start + byteLength item.text)) ∧
    (Item.ofText text).Pairwise fun a b => ∀ d ∈ movedErrors text a, ∀ e ∈ movedErrors text b, d.place ≤ e.place := by
  obtain ⟨ps, rest, htext, hitems⟩ := Item.ofText_eq_place text
  refine ⟨?_, ?_, ?_, ?_⟩
  · rw [(tolerant_of_items hfail hitems).1, ← hitems]
    exact List.flatMap_congr fun item h => errorsWithin_eq h
  · intro item h
    rw [← errorsWithin_eq h]
    constructor
    · intro hnil
      by_contra hitem
      exact errorsWithin_ne_nil text item hitem hnil
    · intro hitem
      obtain ⟨u, hu⟩ := parses_iff.mp hitem
      rw [errorsWithin, hu]
  · intro item h d hd
    obtain ⟨n, hplace, hn, hstart, hend⟩ := exists_boundary h hd
    rw [hplace]
    exact ⟨lineColumn_le (isBoundary_start h) hn hstart, lineColumn_le hn (isBoundary_end h) hend⟩
  · have hapart : (Item.ofText text).Pairwise fun a b => a.start + byteLength a.text ≤ b.start := by
      rw [hitems]
      exact Item.place_pairwise 0 ps
    refine hapart.imp_of_mem ?_
    intro a b ha hb hab d hd e he
    obtain ⟨m, hd, hm, -, hmend⟩ := exists_boundary ha hd
    obtain ⟨n, he, hn, hnstart, -⟩ := exists_boundary hb he
    rw [hd, he]
    exact lineColumn_le hm hn (by omega)

/-- Two contracts that do not parse, the second behind a character of two bytes and with its error on a later
line than its beginning. -/
def twoBrokenContracts : List Char := "contract A \x7b uint x = ; \x7d /* é */ contract B \x7b uint y\n  = ; \x7d".toList

theorem warnings_twoBrokenContracts : ¬ Parses twoBrokenContracts ∧
    warnings (parse true twoBrokenContracts) =
      [⟨⟨1, 23⟩, "unrecognised token ';'"⟩, ⟨⟨2, 5⟩, "unrecognised token ';'"⟩] := by
  have hfail : ¬ Parses twoBrokenContracts := outline?_eq_none.mp (by decide +kernel)
  have hplaced : (Item.ofText twoBrokenContracts).flatMap (movedErrors twoBrokenContracts) =
      [⟨⟨1, 23⟩, "unrecognised token ';'"⟩, ⟨⟨2, 5⟩, "unrecognised token ';'"⟩] := by decide +kernel
  exact ⟨hfail, (warnings_moved hfail).1.trans hplaced⟩

end Outline

end SoliditySchema
