/-
  SoliditySchema.Proofs.Extraction.Leftovers — a text in which nothing is recovered.

  A text is silent if it holds only comments and white space. Such a text parses, and it is the only kind
  that parses to no node (`ofCleanText_nil_iff`). An item of white space alone is never made, but one of
  comments is, and it counts as an item that parses. So a broken text without a single node to recover fails,
  with its errors, exactly if none of its items is silent; with a silent item behind the broken ones it ends
  well, and the report is empty (`nothing_recovered`).
-/

import SoliditySchema.Proofs.Extraction.Outcome
import SoliditySchema.Proofs.Outline.Broken

namespace SoliditySchema

open Grammar

namespace Outline

/-! ## Silent texts -/

/-- A text without a token and without a fault: comments and white space. -/
def Silent (text : List Char) : Prop := Scan.ofText text = ⟨[], []⟩

theorem silent_iff {text : List Char} : Silent text ↔ ∃ phase, Lexes .outside text [] [] phase := by
  rw [← Scan.scan_iff, List.map_eq_nil_iff, and_comm]
  exact Scan.mk.injEq .. ▸ Iff.rfl

theorem silent_of_blank {text : List Char} (h : Text.isBlankText text = true) : Silent text :=
  silent_iff.mpr ⟨.outside, lexes_blank h []⟩

/-- Every part of a file is a node of its outline. -/
theorem exists_node {u : List Token} {a : Terminal} {v : Value} (h : IsPart u a v) : ∃ part, v.sourcePart? = some part := by
  rcases h.contract_or_other with ⟨hc, -⟩ | ⟨kind, X, us, rfl, -, -⟩
  · obtain ⟨d, hd⟩ := contract_value hc
    exact ⟨_, hd⟩
  · exact ⟨_, rfl⟩

/-- The texts that parse to no node are the silent ones. -/
theorem ofCleanText_nil_iff {text : List Char} : ofCleanText text = .ok ⟨[]⟩ ↔ Silent text := by
  rw [ofCleanText_iff, silent_iff]
  constructor
  · rintro ⟨phase, ps, hlexes, hps, hnodes⟩
    obtain rfl : ps = [] := by
      cases ps with
      | nil => rfl
      | cons p ps =>
        obtain ⟨part, hpart⟩ := exists_node hps.1
        injection hnodes with hnodes
        have hfirst : (treeOf (p :: ps)).parts = part :: (treeOf ps).parts := by
          show (p :: ps).filterMap (fun p => p.2.sourcePart?) = _
          rw [List.filterMap_cons, hpart]
          rfl
        rw [hfirst] at hnodes
        cases hnodes
    exact ⟨phase, hlexes⟩
  · rintro ⟨phase, hlexes⟩
    exact ⟨phase, [], hlexes, trivial, rfl⟩

/-! ## Recovery without a node -/

/-- A text that does not parse has an item. -/
theorem items_ne_nil {text : List Char} (hfail : ¬ Parses text) : Item.ofText text ≠ [] := by
  intro hnone
  obtain ⟨ps, tail, rfl, hp, ht⟩ := Item.exists_cut text
  rw [Item.ofText_cut hp ht] at hnone
  have hkept : Item.kept ps tail = [] := by
    have := congrArg (List.map Item.text) hnone
    rwa [Item.map_text_place] at this
  obtain ⟨rest, hrest, hblank⟩ := Item.kept_flatten ps tail
  rw [hrest, hkept] at hfail
  exact hfail (parses_iff.mpr ⟨_, ofCleanText_nil_iff.mpr (silent_of_blank hblank)⟩)

/-- Of the texts without a node the silent ones are those that parse. -/
theorem parses_iff_silent {text : List Char} (h : strictNodes text = []) : Parses text ↔ Silent text := by
  rw [parses_iff, ← ofCleanText_nil_iff]
  constructor
  · rintro ⟨u, hu⟩
    rw [strictNodes_ok hu] at h
    rw [hu]
    exact congrArg Except.ok (congrArg Outline.mk h)
  · intro hok
    exact ⟨_, hok⟩

theorem recover_silent {text : List Char} (hfail : ¬ Parses text)
    (hnone : ∀ item ∈ Item.ofText text, strictNodes item.text = []) :
    ((∀ item ∈ Item.ofText text, ¬ Silent item.text) →
      ∃ ds, (parse true text).result = .error ds ∧ ds ≠ []) ∧
    ((∃ item ∈ Item.ofText text, Silent item.text) → (parse true text).result = .ok ⟨[]⟩) := by
  obtain ⟨ps, rest, -, hitems⟩ := Item.ofText_eq_place text
  have htexts : (Item.ofText text).map Item.text = ps := by rw [hitems, Item.map_text_place]
  have hmem : ∀ {p}, p ∈ ps ↔ ∃ item ∈ Item.ofText text, item.text = p := by
    intro p
    rw [← htexts, List.mem_map]
  have hne : ps ≠ [] := by
    rw [← htexts, Ne, List.map_eq_nil_iff]
    exact items_ne_nil hfail
  obtain ⟨-, hok, herror⟩ := tolerant_of_items hfail hitems
  constructor
  · intro hloud
    refine ⟨_, herror (fun p hp => ?_) hne⟩
    obtain ⟨item, hitem, rfl⟩ := hmem.mp hp
    exact mt (parses_iff_silent (hnone item hitem)).mp (hloud item hitem)
  · rintro ⟨item, hitem, hsilent⟩
    rw [hok ⟨item.text, hmem.mpr ⟨item, hitem, rfl⟩, (parses_iff_silent (hnone item hitem)).mpr hsilent⟩]
    have hnodes : ps.flatMap strictNodes = [] := by
      rw [List.flatMap_eq_nil_iff]
      intro p hp
      obtain ⟨item, hitem, rfl⟩ := hmem.mp hp
      exact hnone item hitem
    rw [hnodes]

end Outline

namespace Run

open Outline (Parses Silent parse strictNodes)

/-- A broken text none of whose items parses to a node, in tolerant mode. If every item holds a token the run
fails with the errors of the items, of which there are some. If an item holds nothing but comments the run ends
well, with nothing to show. -/
theorem nothing_recovered {settings : Settings} {source : String} (htolerant : settings.tolerant = true)
    (hfail : ¬ Parses source.toList) (hnone : ∀ item ∈ Item.ofText source.toList, strictNodes item.text = []) :
    ((∀ item ∈ Item.ofText source.toList, ¬ Silent item.text) →
      ∃ ds, ds ≠ [] ∧ (parse true source.toList).result = .error ds ∧
        Outcome.ofRun (Run.ofSource settings source) = ⟨1, "", Diagnostic.failureMessage ds ++ "\n"⟩) ∧
    ((∃ item ∈ Item.ofText source.toList, Silent item.text) →
      (parse true source.toList).result = .ok ⟨[]⟩ ∧ Outcome.ofRun (Run.ofSource settings source) = ⟨0, "", ""⟩) := by
  obtain ⟨hloud, hsilent⟩ := Outline.recover_silent hfail hnone
  constructor
  · intro h
    obtain ⟨ds, hresult, hne⟩ := hloud h
    refine ⟨ds, hne, hresult, ?_⟩
    rw [← htolerant] at hresult
    exact Outcome.ofRun_error (result_ofSource_error hresult)
  · intro h
    have hresult := hsilent h
    refine ⟨hresult, ?_⟩
    rw [← htolerant] at hresult
    rw [Outcome.ofRun_ok (result_ofSource_ok hresult)]
    rfl

/-- A contract that does not parse. -/
def brokenContract : String := "contract B \x7b uint x = ; \x7d"

/-- Behind the only contract, which is broken, stands a comment: the run ends well and shows nothing. Without the
comment it fails. -/
theorem comment_behind_brokenContract :
    (parse true (brokenContract ++ "\n// end").toList).result = .ok ⟨[]⟩ ∧
      Outcome.ofRun (Run.ofSource ⟨true, Format.defaults⟩ (brokenContract ++ "\n// end")) = ⟨0, "", ""⟩ ∧
    ∃ ds, ds ≠ [] ∧ (parse true brokenContract.toList).result = .error ds := by
  have hfail : ¬ Parses brokenContract.toList := Outline.outline?_eq_none.mp (by decide +kernel)
  have hfail' : ¬ Parses (brokenContract ++ "\n// end").toList := Outline.outline?_eq_none.mp (by decide +kernel)
  have hnone : ∀ item ∈ Item.ofText brokenContract.toList, strictNodes item.text = [] := by decide +kernel
  have hnone' : ∀ item ∈ Item.ofText (brokenContract ++ "\n// end").toList, strictNodes item.text = [] := by
    decide +kernel
  have hloud : ∀ item ∈ Item.ofText brokenContract.toList, ¬ Silent item.text := by
    unfold Silent
    decide +kernel
  have hcomment : ∃ item ∈ Item.ofText (brokenContract ++ "\n// end").toList, Silent item.text := by
    unfold Silent
    decide +kernel
  obtain ⟨hok, houtcome⟩ := (@nothing_recovered ⟨true, Format.defaults⟩ _ rfl hfail' hnone').2 hcomment
  obtain ⟨ds, hne, herror, -⟩ := (@nothing_recovered ⟨true, []⟩ _ rfl hfail hnone).1 hloud
  exact ⟨hok, houtcome, ds, hne, herror⟩

end Run

end SoliditySchema
