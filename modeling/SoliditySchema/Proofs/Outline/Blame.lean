/-
  SoliditySchema.Proofs.Outline.Blame — recovery blames only what is broken.

  If each item of a file parses alone, no warning stands before the end of the file, whatever text follows it on
  a new line (`warnings_of_items`). An item of the whole is one of the file, or begins behind the file, or is what
  was left of the file behind its last cut, together with text behind it (`mem_ofText_behind`). What was left
  parses, so the errors of that item are found behind it.

  The items of a file need not parse alone: the braces of an import, of a `using` directive or of call options
  in a constant are closed before the semicolon of the definition, so it is cut in two, and both halves are
  reported (`halves_are_reported`). In a regular file that is all that can go wrong: before a broken text its
  definitions are blamed exactly if they are not whole (`warnings_behind`).
-/

import SoliditySchema.Proofs.Grammar.Behind
import SoliditySchema.Proofs.Outline.Whole
import SoliditySchema.Proofs.Outline.Warnings

namespace SoliditySchema

namespace Item

open Cursor Text

/-- A line feed ends no item. -/
theorem step_newline (s : Cursor) : (s.step '\n').2 = false := by
  cases h : (s.step '\n').2 with
  | false => rfl
  | true =>
    rcases (step_ends h).2.2 with ⟨hc, -⟩ | ⟨hc, -⟩
    · exact absurd hc (by decide)
    · exact absurd hc (by decide)

/-- With a line and more text behind it a text keeps its items but for what was left behind the last cut, which goes
on with the text behind. -/
theorem mem_ofText_behind {ps : List (List Char)} {tail : List Char} (hp : ∀ p ∈ ps, Closes .start p)
    (ht : Unbroken .start tail) {z : List Char} {item : Item} (h : item ∈ ofText (ps.flatten ++ tail ++ '\n' :: z)) :
    item ∈ ofText (ps.flatten ++ tail) ∨ (∃ y, item = ⟨byteLength ps.flatten, tail ++ '\n' :: y⟩) ∨
      byteLength (ps.flatten ++ tail) ≤ item.start := by
  obtain ⟨q, qs, hq⟩ : ∃ q qs, pieces .start (tail ++ '\n' :: z) = (tail ++ '\n' :: q) :: qs := by
    obtain ⟨q, qs, hq⟩ := List.exists_cons_of_ne_nil (pieces_ne_nil ((Cursor.start.after tail).step '\n').1 z)
    refine ⟨q, qs, ?_⟩
    rw [pieces_of_unbroken ht, pieces_cons, step_newline, hq]
    rfl
  have hplace := List.mem_of_mem_filter h
  rw [List.append_assoc, pieces_append hp, hq, place_append, place, Nat.zero_add] at hplace
  rcases List.mem_append.mp hplace with hfirst | hplace
  · left
    rw [ofText_cut hp ht, kept, place_append]
    exact List.mem_append_left _ hfirst
  · right
    rcases List.mem_cons.mp hplace with rfl | hlater
    · exact Or.inl ⟨q, rfl⟩
    · obtain ⟨as, bs, -, hstart⟩ := mem_place hlater
      right
      rw [hstart, byteLength_append, byteLength_append]
      omega

/-- What closes an item at the beginning of a text is one, whatever follows. -/
theorem mem_ofText_of_closes {ps : List (List Char)} {p : List Char} (h : ∀ q ∈ ps ++ [p], Closes .start q)
    (z : List Char) : ⟨byteLength ps.flatten, p⟩ ∈ ofText ((ps ++ [p]).flatten ++ z) := by
  rw [ofText, pieces_append h, List.append_assoc, place_append, List.mem_filter, Nat.zero_add]
  exact ⟨List.mem_append_right _ List.mem_cons_self, by rw [(h p (by simp)).not_blank]; rfl⟩

end Item

namespace Outline

open Cursor Text

/-- An item that begins with a text that parses, and goes on on a new line, has its errors behind that text. -/
theorem error_behind {text x y : List Char} {n : Nat} (hitem : ⟨n, x ++ '\n' :: y⟩ ∈ Item.ofText text) (hx : Parses x)
    {d : Diagnostic} (hd : d ∈ movedErrors text ⟨n, x ++ '\n' :: y⟩) : lineColumn text (n + byteLength x) ≤ d.place := by
  rw [← errorsWithin_eq hitem, errorsWithin] at hd
  obtain ⟨before, rest, htext, rfl⟩ := Item.mem_ofText hitem
  cases hclean : ofCleanText (x ++ '\n' :: y) with
  | ok u => rw [hclean] at hd; cases hd
  | error es =>
    rw [hclean] at hd
    obtain ⟨e, he, rfl⟩ := List.mem_map.mp hd
    obtain ⟨u, hu⟩ := parses_iff.mp hx
    obtain ⟨tree, htree, -⟩ := ofCleanText_ok_iff.mp hu
    have hbehind := SourceTree.ofText_behind htree (ofCleanText_error_iff.mp hclean) e he
    have hboundary := (ofCleanText_boundaries hclean e he).of_part before rest
    rw [htext]
    exact lineColumn_le ⟨before ++ x, '\n' :: y ++ rest, by simp, (byteLength_append before x).symm⟩ hboundary
      (Nat.add_le_add_left hbehind _)

/-- Behind a file whose items parse alone no warning stands before the end of the file. -/
theorem warnings_of_items {t : List Char} (hitems : ∀ item ∈ Item.ofText t, Parses item.text) (b : List Char) :
    ∀ d ∈ warnings (parse true (t ++ '\n' :: b)), lineColumn (t ++ '\n' :: b) (byteLength t) ≤ d.place := by
  intro d hd
  by_cases hparses : Parses (t ++ '\n' :: b)
  · -- a text that parses is not warned about
    obtain ⟨u, hu⟩ := parses_iff.mp hparses
    rw [strict_ok hu] at hd
    cases hd
  obtain ⟨hwarnings, hnone, hwithin, -⟩ := warnings_moved hparses
  rw [hwarnings] at hd
  obtain ⟨item, hitem, hd⟩ := List.mem_flatMap.mp hd
  obtain ⟨ps, tail, rfl, hp, ht⟩ := Item.exists_cut t
  rcases Item.mem_ofText_behind hp ht hitem with hfile | ⟨y, rfl⟩ | hbehind
  · -- nor is an item of the file
    rw [(hnone item hitem).mpr (hitems item hfile)] at hd
    cases hd
  · rw [byteLength_append]
    exact error_behind hitem ((items_parse_iff_pieces hp ht).mp hitems tail List.mem_cons_self) hd
  · refine Position.le_trans (lineColumn_le ?_ (isBoundary_start hitem) hbehind) (hwithin item hitem d hd).1
    exact ⟨ps.flatten ++ tail, '\n' :: b, rfl, rfl⟩

/-- A regular file fails together with a broken text on a new line. -/
theorem Regular.fails_behind {t b : List Char} (h : Regular t) (hparses : Parses t) (hb : ¬ Parses b) :
    ¬ Parses (t ++ '\n' :: b) := by
  obtain ⟨phase, w, hlexes, ps, hps, rfl⟩ := exists_lexes hparses
  obtain ⟨rfl, -⟩ := h.cut_together hlexes
  exact Outline.fails_behind hlexes (fun _ => hps.cancel) hb

/-- Where the definitions of a regular file are not whole, one of them is reported before a broken text. -/
theorem exists_warning {t b : List Char} (hparses : Parses t) (h : Regular t) (hb : ¬ Parses b)
    (hnot : ¬ DefinitionsWhole t) :
    ∃ d ∈ warnings (parse true (t ++ '\n' :: b)), d.place < lineColumn (t ++ '\n' :: b) (byteLength t) := by
  obtain ⟨hwarnings, hnone, hwithin, -⟩ := warnings_moved (h.fails_behind hparses hb)
  obtain ⟨ps, p, z, rfl, hcloses, hp, hz⟩ := exists_broken hparses h hnot
  rw [List.append_assoc] at hwarnings hnone hwithin ⊢
  have hitem := Item.mem_ofText_of_closes hcloses (z ++ '\n' :: b)
  obtain ⟨d, hd⟩ := List.exists_mem_of_ne_nil _ (mt (hnone _ hitem).mp hp)
  have hlt : byteLength ps.flatten + byteLength p < byteLength ((ps ++ [p]).flatten ++ z) := by
    have := byteLength_pos hz
    simp only [List.flatten_append, List.flatten_singleton, byteLength_append]
    omega
  refine ⟨d, hwarnings ▸ List.mem_flatMap.mpr ⟨_, hitem, hd⟩, ?_⟩
  refine Position.lt_of_le_of_lt (hwithin _ hitem d hd).2 (lineColumn_lt (isBoundary_end hitem) ?_ hlt)
  exact ⟨(ps ++ [p]).flatten ++ z, '\n' :: b, (List.append_assoc ..).symm, rfl⟩

/-- Behind a file whose items parse alone, whatever follows on a new line, no warning stands before the end of the
file: none of its definitions is reported. Of a regular file that parses the items parse alone exactly if its
definitions are whole; and before a broken text none of them is reported exactly then. -/
theorem warnings_behind {t : List Char} :
    ((∀ item ∈ Item.ofText t, Parses item.text) → ∀ b, ∀ d ∈ warnings (parse true (t ++ '\n' :: b)),
      lineColumn (t ++ '\n' :: b) (byteLength t) ≤ d.place) ∧
    (Parses t → Regular t →
      ((∀ item ∈ Item.ofText t, Parses item.text) ↔ DefinitionsWhole t) ∧
      ∀ b, ¬ Parses b → ((∀ d ∈ warnings (parse true (t ++ '\n' :: b)),
        lineColumn (t ++ '\n' :: b) (byteLength t) ≤ d.place) ↔ DefinitionsWhole t)) := by
  refine ⟨warnings_of_items, fun hparses hregular => ?_⟩
  have hitems := items_parse_iff hparses hregular
  refine ⟨hitems, fun b hb => ?_⟩
  constructor
  · intro hbehind
    by_contra hnot
    obtain ⟨d, hd, hlt⟩ := exists_warning hparses hregular hb hnot
    exact Position.not_le_of_lt hlt (hbehind d hd)
  · intro hwhole
    exact warnings_of_items (hitems.mpr hwhole) b

/-- Behind a contract and a comment a broken contract is all that is warned about. -/
theorem a_broken_contract_is_blamed :
    let before := "contract A \x7b\x7d // end".toList
    let bad := "contract B \x7b uint x = ; \x7d".toList
    (∀ item ∈ Item.ofText before, Parses item.text) ∧ Parses before ∧ Regular before ∧ DefinitionsWhole before ∧
      ¬ Parses bad ∧ warnings (parse true (before ++ '\n' :: bad)) = [⟨⟨2, 23⟩, "unrecognised token ';'"⟩] ∧
      ∀ d ∈ warnings (parse true (before ++ '\n' :: bad)),
        lineColumn (before ++ '\n' :: bad) (byteLength before) ≤ d.place := by
  intro before bad
  have hsome : ∀ item ∈ Item.ofText before, (outline? item.text).isSome = true := by decide +kernel
  have hitems : ∀ item ∈ Item.ofText before, Parses item.text := by
    intro item hitem
    by_contra hfails
    have hthis := hsome item hitem
    rw [outline?_eq_none.mpr hfails] at hthis
    cases hthis
  have hparses : Parses before :=
    parses_iff.mpr ⟨_, ok_of_toOption (show _ = some ⟨[.contract ⟨"A", []⟩]⟩ by decide +kernel)⟩
  have htokens : tokensIn before = emptyContract ⟨"A", by decide, by decide⟩ := by decide +kernel
  have hregular : Regular before := (regular_emptyContract (by decide) htokens).1
  have hbad : ¬ Parses bad := outline?_eq_none.mp (by decide +kernel)
  obtain ⟨hbehind, hwhole⟩ := @warnings_behind before
  obtain ⟨hiff, hblamed⟩ := hwhole hparses hregular
  exact ⟨hitems, hparses, hregular, (hblamed bad hbad).mp (hbehind hitems bad), hbad, by decide +kernel,
    (hblamed bad hbad).mpr (hiff.mp hitems)⟩

/-- Before a broken contract both halves of an import are reported, though the import parses: a brace of it is closed
before its end. -/
theorem halves_are_reported :
    let before := "import \x7bA\x7d from \"a.sol\";".toList
    let bad := "contract B \x7b uint x = ; \x7d".toList
    Parses before ∧ Regular before ∧ ¬ DefinitionsWhole before ∧
      warnings (parse true (before ++ '\n' :: bad)) =
        [⟨⟨1, 11⟩, "unexpected end of file"⟩, ⟨⟨1, 17⟩, "unrecognised token '\"a.sol\"'"⟩,
          ⟨⟨2, 23⟩, "unrecognised token ';'"⟩] := by
  intro before bad
  have hparses : Parses before :=
    parses_iff.mpr ⟨_, ok_of_toOption (show _ = some ⟨[.ignored]⟩ by decide +kernel)⟩
  have hcut : IsCut (tokensIn before)
      [[.keyword .kwImport, .operator .openBrace, .identifier ⟨"A", by decide, by decide⟩, .operator .closeBrace],
        [.identifier ⟨"from", by decide, by decide⟩, .text false "a.sol", .operator .semicolon]] [] := by
    refine ⟨by decide +kernel, ?_, trivial⟩
    simp only [List.forall_mem_cons, List.not_mem_nil, false_implies, implies_true, and_true]
    exact ⟨⟨['a', '\x7b', 'a'], '\x7d', rfl, ⟨rfl, rfl, rfl, trivial⟩, rfl⟩, ['a', 'a'], ';', rfl, ⟨rfl, rfl, trivial⟩, rfl⟩
  have hregular : Regular before := by
    refine .of_cut (by decide) (fun raw hraw => ?_) hcut (by decide)
    rw [hcut.whole] at hraw
    simp at hraw
  have hhalf : ⟨0, "import \x7bA\x7d".toList⟩ ∈ Item.ofText before := by decide +kernel
  have hfails : ¬ Parses "import \x7bA\x7d".toList := outline?_eq_none.mp (by decide +kernel)
  refine ⟨hparses, hregular, fun hwhole => ?_, by decide +kernel⟩
  have hitem := (items_parse_iff hparses hregular).mpr hwhole _ hhalf
  exact hfails hitem

end Outline

end SoliditySchema
