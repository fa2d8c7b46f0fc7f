/-
  SoliditySchema.Proofs.Outline.Recovery — tolerant parsing of a text that is put together from pieces.

  A piece is complete when more text after it does not change that it is an item. A text made of complete
  pieces, and maybe a last piece that need not be, has those pieces for its items (`ofText_pieces`). If the
  text does not parse as a whole, what comes of it is then decided piece by piece: the outlines of the
  pieces that parse, one after the other, or if there are none the errors of all of them (`parse_pieces`).
-/

import SoliditySchema.Outline.OfText
import SoliditySchema.Proofs.Item.Cutting
import SoliditySchema.Proofs.Grammar.Reading

namespace SoliditySchema

namespace Item

open Cursor Text

/-- A text that is an item of its own, also with more text after it. -/
def IsComplete (x : List Char) : Prop := ofText (x ++ ['a']) = [⟨0, x⟩, ⟨byteLength x, ['a']⟩]

/-- A text with something in it that is one item. -/
def IsSingle (y : List Char) : Prop := isBlankText y = false ∧ ofText y = [⟨0, y⟩]

theorem IsComplete.closes {x : List Char} (h : IsComplete x) : Closes .start x := by
  obtain ⟨ps, tail, htext, hp, ht⟩ := exists_cut (x ++ ['a'])
  have hkept : kept ps tail = [x, ['a']] := by
    rw [IsComplete, htext, ofText_cut hp ht] at h
    have := congrArg (List.map Item.text) h
    rwa [map_text_place] at this
  unfold kept at hkept
  split at hkept
  · -- the letter alone closes no item
    have ha : Closes .start ['a'] := hp _ (by rw [List.append_nil] at hkept; rw [hkept]; simp)
    obtain ⟨y, hy | hy⟩ := ha.last
    · have := congrArg List.getLast? hy
      simp at this
    · have := congrArg List.getLast? hy
      simp at this
  · have hps : ps = [x] := by
      have := congrArg List.dropLast hkept
      simpa using this
    exact hp x (by rw [hps]; simp)

theorem closes_or_unbroken_of_single {y : List Char} (h : IsSingle y) : Closes .start y ∨ Unbroken .start y := by
  obtain ⟨ps, tail, rfl, hp, ht⟩ := exists_cut y
  have hkept : kept ps tail = [ps.flatten ++ tail] := by
    have := h.2
    rw [ofText_cut hp ht] at this
    have := congrArg (List.map Item.text) this
    rwa [map_text_place] at this
  cases ps with
  | nil => exact Or.inr ht
  | cons p ps =>
    rw [kept, List.cons_append] at hkept
    injection hkept with hhead hrest
    obtain ⟨rfl, -⟩ := List.append_eq_nil_iff.mp hrest
    exact Or.inl (by rw [← hhead]; exact hp p (by simp))

/-- The items of complete texts in a row, maybe with a last one that need not be complete. -/
theorem ofText_pieces {xs : List (List Char)} {y : Option (List Char)} (hx : ∀ x ∈ xs, IsComplete x)
    (hy : ∀ z ∈ y, IsSingle z) : ofText (xs ++ y.toList).flatten = place 0 (xs ++ y.toList) := by
  have hxs : ∀ x ∈ xs, Closes .start x := fun x h => (hx x h).closes
  cases y with
  | none =>
    have := ofText_cut hxs (unbroken_nil _)
    simpa [kept, isBlankText] using this
  | some z =>
    have hz : IsSingle z := hy z rfl
    rcases closes_or_unbroken_of_single hz with hc | hu
    · have hps : ∀ p ∈ xs ++ [z], Closes .start p := by
        intro p hp
        rcases List.mem_append.mp hp with hp | hp
        · exact hxs p hp
        · rw [List.mem_singleton.mp hp]; exact hc
      have := ofText_cut hps (unbroken_nil _)
      simpa [kept, isBlankText] using this
    · have := ofText_cut hxs hu
      simpa [kept, hz.1] using this

end Item

namespace Outline

/-! ## A text alone, in strict mode -/

/-- The text parses in strict mode. -/
def Parses (text : List Char) : Prop := ∃ u, (parse false text).result = .ok u

/-- The nodes of a text that parses in strict mode, and none of one that does not. -/
def strictNodes (text : List Char) : List Node :=
  match (parse false text).result with
  | .ok u => u.nodes
  | .error _ => []

/-- The errors of a text, as they are placed when it stands at byte `start` of `whole`. -/
def errorsWithin (whole : List Char) (item : Item) : List Diagnostic :=
  match ofCleanText item.text with
  | .ok _ => []
  | .error es => es.map (Diagnostic.ofError whole item.start)

/-- The errors of which a warning is given. -/
def warnings (p : Parsed) : List Diagnostic := p.events.filterMap Event.skipped?

theorem strict_ok {text : List Char} {u : Outline} (h : ofCleanText text = .ok u) (tolerant : Bool) :
    parse tolerant text = ⟨[], .ok u⟩ := by rw [parse, h]

theorem strict_error {text : List Char} {es : List SyntaxError} (h : ofCleanText text = .error es) :
    parse false text = ⟨[], .error (es.map (Diagnostic.ofError text 0))⟩ := by
  rw [parse, h]
  rfl

theorem parses_iff {text : List Char} : Parses text ↔ ∃ u, ofCleanText text = .ok u := by
  constructor
  · rintro ⟨u, hu⟩
    cases h : ofCleanText text with
    | ok v => exact ⟨v, rfl⟩
    | error es => rw [strict_error h] at hu; cases hu
  · rintro ⟨u, hu⟩
    exact ⟨u, by rw [strict_ok hu]⟩

theorem strictNodes_ok {text : List Char} {u : Outline} (h : ofCleanText text = .ok u) : strictNodes text = u.nodes := by
  rw [strictNodes, strict_ok h]

theorem strictNodes_of_fails {text : List Char} (h : ¬ Parses text) : strictNodes text = [] := by
  unfold strictNodes
  split
  · rename_i u hu
    exact absurd ⟨u, hu⟩ h
  · rfl

theorem ofCleanText_ok_iff {text : List Char} {u : Outline} :
    ofCleanText text = .ok u ↔ ∃ tree, SourceTree.ofText text = .ok tree ∧ ofTree tree = u := by
  unfold ofCleanText
  cases SourceTree.ofText text <;> simp [Except.map]

theorem ofCleanText_error_iff {text : List Char} {es : List SyntaxError} :
    ofCleanText text = .error es ↔ SourceTree.ofText text = .error es := by
  unfold ofCleanText
  cases SourceTree.ofText text <;> simp [Except.map]

theorem ofCleanText_error {text : List Char} {es : List SyntaxError} (h : ofCleanText text = .error es) : es ≠ [] :=
  SourceTree.ofText_error (ofCleanText_error_iff.mp h)

theorem ok_of_toOption {ε α : Type} {x : Except ε α} {a : α} (h : x.toOption = some a) : x = .ok a := by
  cases x with
  | error e => cases h
  | ok b => rw [Option.some_inj.mp h]

theorem ofCleanText_nil : ofCleanText [] = .ok ⟨[]⟩ := ok_of_toOption (by decide +kernel)

/-! ## The items of a text, one by one -/

theorem errorsOf_ofItem (text : List Char) (item : Item) : errorsOf (ofItem text item) = errorsWithin text item := by
  rw [ofItem, errorsWithin]
  cases ofCleanText item.text <;> rfl

theorem toOption_ofItem (text : List Char) (item : Item) :
    (ofItem text item).toOption = (ofCleanText item.text).toOption := by
  rw [ofItem]
  cases ofCleanText item.text <;> rfl

/-- The outline of a piece, if it parses. -/
def outline? (p : List Char) : Option Outline := (ofCleanText p).toOption

theorem outline?_eq_none {p : List Char} : outline? p = none ↔ ¬ Parses p := by
  rw [outline?, parses_iff]
  cases ofCleanText p <;> simp [Except.toOption]

/-- The outlines that are kept, whatever the places of the items are. -/
theorem kept_outlines (text : List Char) (n : Nat) (ps : List (List Char)) :
    ((Item.place n ps).map (ofItem text)).filterMap Except.toOption = ps.filterMap outline? := by
  have htexts : (Item.place n ps).map Item.text = ps := Item.map_text_place n ps
  rw [List.filterMap_map]
  conv => rhs; rw [← htexts, List.filterMap_map]
  exact List.filterMap_congr fun item _ => toOption_ofItem text item

theorem flatMap_nodes (ps : List (List Char)) :
    (ps.filterMap outline?).flatMap Outline.nodes = ps.flatMap strictNodes := by
  induction ps with
  | nil => rfl
  | cons p ps ih =>
    rw [List.flatMap_cons, ← ih]
    cases h : ofCleanText p with
    | ok u =>
      have hp : outline? p = some u := by rw [outline?, h]; rfl
      rw [List.filterMap_cons_some hp, List.flatMap_cons, strictNodes_ok h]
    | error es =>
      have hp : outline? p = none := by rw [outline?, h]; rfl
      rw [List.filterMap_cons_none hp, strictNodes_of_fails (outline?_eq_none.mp hp), List.nil_append]

theorem no_outline_iff (ps : List (List Char)) : ps.filterMap outline? = [] ↔ ∀ p ∈ ps, ¬ Parses p := by
  rw [List.filterMap_eq_nil_iff]
  exact forall₂_congr fun p _ => outline?_eq_none

theorem errorsWithin_ne_nil (text : List Char) (item : Item) (h : ¬ Parses item.text) : errorsWithin text item ≠ [] := by
  unfold errorsWithin
  split
  · rename_i u hu
    exact absurd (parses_iff.mpr ⟨u, hu⟩) h
  · rename_i es hes
    simpa using ofCleanText_error hes

/-- What recovering comes to, when the text fails and its items are known. -/
theorem tolerant_of_items {text : List Char} {ps : List (List Char)} (hfail : ¬ Parses text)
    (hitems : Item.ofText text = Item.place 0 ps) :
    warnings (parse true text) = (Item.place 0 ps).flatMap (errorsWithin text) ∧
    ((∃ p ∈ ps, Parses p) → (parse true text).result = .ok ⟨ps.flatMap strictNodes⟩) ∧
    ((∀ p ∈ ps, ¬ Parses p) → ps ≠ [] →
      (parse true text).result = .error ((Item.place 0 ps).flatMap (errorsWithin text)) ∧
      (Item.place 0 ps).flatMap (errorsWithin text) ≠ []) := by
  obtain ⟨es, hes⟩ : ∃ es, ofCleanText text = .error es := by
    cases h : ofCleanText text with
    | ok u => exact absurd (parses_iff.mpr ⟨u, h⟩) hfail
    | error es => exact ⟨es, rfl⟩
  have hskipped : ((Item.ofText text).map (ofItem text)).flatMap errorsOf = (Item.place 0 ps).flatMap (errorsWithin text) := by
    rw [hitems, List.flatMap_map]
    exact congrArg (List.flatMap · _) (funext (errorsOf_ofItem text))
  have hkept := kept_outlines text 0 ps
  rw [← hitems] at hkept
  have hparse : parse true text =
      ⟨.recovering es.length :: (recover text (es.map (Diagnostic.ofError text 0))).events,
        (recover text (es.map (Diagnostic.ofError text 0))).result⟩ := by rw [parse, hes]; rfl
  rw [hparse]
  simp only [warnings, recover, hskipped, hkept]
  refine ⟨?_, fun hp => ?_, fun hp hne => ?_⟩
  · rw [List.filterMap_cons]
    simp only [Event.skipped?, List.filterMap_map]
    exact List.filterMap_some
  · have hsome : ps.filterMap outline? ≠ [] := by
      rw [Ne, no_outline_iff]
      obtain ⟨p, hmem, hp⟩ := hp
      exact fun h => h p hmem hp
    split
    · contradiction
    · rw [flatMap_nodes]
  · have hnone : ps.filterMap outline? = [] := (no_outline_iff ps).mpr hp
    have herrors : (Item.place 0 ps).flatMap (errorsWithin text) ≠ [] := by
      cases ps with
      | nil => exact absurd rfl hne
      | cons p ps =>
        have hfirst : errorsWithin text ⟨0, p⟩ ≠ [] := errorsWithin_ne_nil text ⟨0, p⟩ (hp p List.mem_cons_self)
        rw [Item.place, List.flatMap_cons]
        exact List.append_ne_nil_of_left_ne_nil hfirst _
    simp only [hnone, if_neg herrors]
    exact ⟨trivial, herrors⟩

/-! ## A text made of pieces -/

theorem ne_nil_of_fails {ps : List (List Char)} (h : ¬ Parses ps.flatten) : ps ≠ [] := by
  rintro rfl
  exact h (parses_iff.mpr ⟨⟨[]⟩, ofCleanText_nil⟩)

/-- What is left of a text that fails: the nodes of its pieces that parse, if there are any. -/
theorem result_ok_iff {text : List Char} {ps : List (List Char)} (hfail : ¬ Parses text)
    (hitems : Item.ofText text = Item.place 0 ps) (hne : ps ≠ []) (u : Outline) :
    (parse true text).result = .ok u ↔ (∃ p ∈ ps, Parses p) ∧ u.nodes = ps.flatMap strictNodes := by
  obtain ⟨-, hok, herror⟩ := tolerant_of_items hfail hitems
  by_cases hp : ∃ p ∈ ps, Parses p
  · rw [hok hp]
    constructor
    · intro h
      injection h with h
      exact ⟨hp, by rw [← h]⟩
    · rintro ⟨-, h⟩
      rw [← h]
  · have hnone : ∀ p ∈ ps, ¬ Parses p := fun p hmem h => hp ⟨p, hmem, h⟩
    rw [(herror hnone hne).1]
    constructor
    · intro h
      cases h
    · rintro ⟨h, -⟩
      exact absurd h hp

/-- Complete texts in a row, maybe with one more text behind them, in tolerant mode.

If they parse as a whole, that is the outline, and there is no warning. Else there is an outline exactly if
one of them parses alone, and it has the nodes of those that do; to put another failing piece in the place of
one changes nothing. If none of them parses the errors of all of them are given, at their places in the
text, and a warning for each. -/
theorem parse_pieces {xs : List (List Char)} {y : Option (List Char)} (hx : ∀ x ∈ xs, Item.IsComplete x)
    (hy : ∀ z ∈ y, Item.IsSingle z) (text : List Char) (htext : text = (xs ++ y.toList).flatten) :
    (∀ u, (parse false text).result = .ok u → parse true text = ⟨[], .ok u⟩) ∧
    (¬ Parses text →
      ((∃ u, (parse true text).result = .ok u) ↔ ∃ p ∈ xs ++ y.toList, Parses p) ∧
      (∀ u, (parse true text).result = .ok u → u.nodes = (xs ++ y.toList).flatMap strictNodes) ∧
      (∀ as x x' bs text', xs = as ++ x :: bs → ¬ Parses x → Item.IsComplete x' → ¬ Parses x' →
        text' = (as ++ x' :: bs ++ y.toList).flatten → ¬ Parses text' →
        ∀ u, (parse true text').result = .ok u ↔ (parse true text).result = .ok u) ∧
      ((∀ p ∈ xs ++ y.toList, ¬ Parses p) →
        ∃ ds, (parse true text).result = .error ds ∧ ds ≠ [] ∧ warnings (parse true text) = ds ∧
          ds = (Item.place 0 (xs ++ y.toList)).flatMap (errorsWithin text))) := by
  subst htext
  constructor
  · intro u hu
    obtain ⟨v, hv⟩ := parses_iff.mp ⟨u, hu⟩
    rw [strict_ok hv] at hu
    injection hu with hu
    rw [strict_ok hv, hu]
  intro hfail
  have hitems := Item.ofText_pieces hx hy
  have hne := ne_nil_of_fails hfail
  refine ⟨⟨?_, ?_⟩, ?_, ?_, ?_⟩
  · rintro ⟨u, hu⟩
    exact ((result_ok_iff hfail hitems hne u).mp hu).1
  · intro hp
    exact ⟨⟨_⟩, (result_ok_iff hfail hitems hne ⟨_⟩).mpr ⟨hp, rfl⟩⟩
  · intro u hu
    exact ((result_ok_iff hfail hitems hne u).mp hu).2
  · rintro as x x' bs text' rfl hxfail hx' hxfail' rfl hfail' u
    have hxs' : ∀ z ∈ as ++ x' :: bs, Item.IsComplete z := by
      intro z hz
      rcases List.mem_append.mp hz with hz | hz
      · exact hx z (List.mem_append_left _ hz)
      · rcases List.mem_cons.mp hz with rfl | hz
        · exact hx'
        · exact hx z (List.mem_append_right _ (List.mem_cons_of_mem _ hz))
    have hitems' := Item.ofText_pieces hxs' hy
    rw [result_ok_iff hfail hitems hne, result_ok_iff hfail' hitems' (ne_nil_of_fails hfail')]
    -- a piece that fails neither parses nor has nodes
    have hany : (∃ p ∈ as ++ x' :: bs ++ y.toList, Parses p) ↔ ∃ p ∈ as ++ x :: bs ++ y.toList, Parses p := by
      simp only [List.append_assoc, List.cons_append, List.mem_append, List.mem_cons, or_and_right, exists_or,
        exists_eq_left, hxfail, hxfail', false_or]
    have hnodes : (as ++ x' :: bs ++ y.toList).flatMap strictNodes = (as ++ x :: bs ++ y.toList).flatMap strictNodes := by
      simp only [List.append_assoc, List.cons_append, List.flatMap_append, List.flatMap_cons,
        strictNodes_of_fails hxfail, strictNodes_of_fails hxfail']
    rw [hany, hnodes]
  · intro hnone
    obtain ⟨hwarn, -, herror⟩ := tolerant_of_items hfail hitems
    obtain ⟨hresult, hds⟩ := herror hnone hne
    exact ⟨_, hresult, hds, hwarn, rfl⟩

/-- A contract that does not parse is skipped, and the contract before it and the text behind it are not
touched by it. -/
theorem a_broken_contract_is_skipped :
    let good := "contract A {}".toList
    let bad := "contract B { uint x = ; }".toList
    let rest := " uint".toList
    (∀ x ∈ [good, bad], Item.IsComplete x) ∧ (∀ z ∈ some rest, Item.IsSingle z) ∧
      ¬ Parses (good ++ bad ++ rest) ∧ Parses good ∧ ¬ Parses bad ∧
      ∃ u, (parse true (good ++ bad ++ rest)).result = .ok u := by
  intro good bad rest
  have hx : ∀ x ∈ [good, bad], Item.IsComplete x := by unfold Item.IsComplete; decide +kernel
  have hy : ∀ z ∈ some rest, Item.IsSingle z := by unfold Item.IsSingle; decide +kernel
  have hfail : ¬ Parses (good ++ bad ++ rest) := outline?_eq_none.mp (by decide +kernel)
  have hgood : Parses good := parses_iff.mpr ⟨_, ok_of_toOption (show _ = some ⟨[.contract ⟨"A", []⟩]⟩ by decide +kernel)⟩
  have hbad : ¬ Parses bad := outline?_eq_none.mp (by decide +kernel)
  refine ⟨hx, hy, hfail, hgood, hbad, ?_⟩
  exact ((parse_pieces hx hy (good ++ bad ++ rest) (by decide)).2 hfail).1.mpr ⟨good, by simp, hgood⟩

end Outline

end SoliditySchema
