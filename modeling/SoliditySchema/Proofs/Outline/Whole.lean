/-
  SoliditySchema.Proofs.Outline.Whole — which files are cut between their definitions.

  A file is cut where a brace is closed that stands in no other, or at a semicolon outside braces. If in each
  definition only the last token does that (`EndsOnce`), a cut takes off whole definitions, and every piece is a
  file. If one does it earlier, the first cut in that definition takes off a beginning of it, and that is no file,
  since no part of a file goes on where another has ended (`cut_into`).

  So of a regular file that parses the items parse alone exactly if its definitions are whole in this sense
  (`items_parse_iff`). If they are not, an item before the end of the file fails (`exists_broken`).
-/

import SoliditySchema.Proofs.Outline.Broken

namespace SoliditySchema

open Cursor Grammar
open Token (marks)

/-! ## Definitions that end once -/

/-- Only the last token of a definition may end one: before it no brace is closed outside all others, and no
semicolon stands outside braces. -/
def EndsOnce (u : List Token) : Prop :=
  ∀ x t y, u = x ++ t :: y → Ends (.ofToken t) → braces 0 (x ++ [t]) = some 0 → y = []

variable {y w rest : List Token} {v : Value} {a b : Terminal} {segments : List (List Token)}
  {ps gs : List (List Token × Value)}

/-- Behind tokens in which nothing ends, such a definition goes by, or it is cut off together with them. -/
theorem EndsOnce.unbroken_or_closes {g : List Token} (h : EndsOnce y) (hg : Unbroken .start (marks g))
    (hclosed : braces 0 g = some 0) (hy : braces 0 y = some 0) :
    Unbroken .start (marks (g ++ y)) ∨ Closes .start (marks (g ++ y)) := by
  obtain ⟨segments, rest, hcut⟩ := exists_isCut (g ++ y)
  cases segments with
  | nil =>
    left
    rw [hcut.whole]
    exact hcut.unbroken
  | cons s segments =>
    right
    have hcloses := hcut.closes s List.mem_cons_self
    obtain ⟨x, t, rfl, hsplit, ht⟩ := hcut.first hg
    -- no brace is open where the tokens are cut
    have hlevel : braces 0 (x ++ [t]) = some 0 := by
      rw [hsplit, braces, level_append] at hy
      obtain ⟨e, he, -⟩ := Option.bind_eq_some_iff.mp hy
      have hzero : e = 0 := by
        refine braces_of_closes [g ++ (x ++ [t])] (List.forall_mem_singleton.mpr hcloses) ?_
        rw [List.flatten_singleton, braces_behind hclosed]
        exact he
      rwa [hzero] at he
    have hnil : segments.flatten ++ rest = [] := h x t _ (by rw [hsplit]; simp) ht hlevel
    rw [hsplit, hnil, List.append_nil]
    exact hcloses

/-- Any other definition is cut behind a beginning of it, and what is cut off there is no file. -/
theorem cut_of_part (hgs : AreParts gs a) (hg : Unbroken .start (marks (tokensOf gs))) (hpart : IsPart y b v)
    (hnot : ¬ EndsOnce y) (hcut : IsCut (tokensOf gs ++ (y ++ w)) segments rest) :
    ∃ s behind, segments = s :: behind ∧ ¬ IsFile s ∧ behind.flatten ++ rest ≠ [] := by
  obtain ⟨x, t, z, rfl, ht, hlevel, hz⟩ : ∃ x t z, y = x ++ t :: z ∧ Ends (.ofToken t) ∧
      braces 0 (x ++ [t]) = some 0 ∧ z ≠ [] := by simpa [EndsOnce] using hnot
  -- the tokens are cut behind `t`, and maybe before
  obtain ⟨segments₁, rest₁, h₁⟩ := exists_isCut (tokensOf gs ++ (x ++ [t]))
  have hzero : braces 0 (tokensOf gs ++ (x ++ [t])) = some 0 := by
    rw [braces_behind (level_areParts braces_balanced hgs), hlevel]
  obtain rfl := h₁.rest_nil (List.append_assoc _ x [t]).symm ht hzero
  obtain ⟨segments₂, rest₂, h₂⟩ := exists_isCut ([] ++ (z ++ w))
  have hboth := h₁.append h₂
  have htokens : tokensOf gs ++ (x ++ [t]) ++ (z ++ w) = tokensOf gs ++ (x ++ t :: z ++ w) := by simp
  rw [htokens] at hboth
  obtain ⟨rfl, rfl⟩ := hcut.unique hboth
  have hbehind : segments₂.flatten ++ rest ≠ [] := by
    rw [← h₂.whole]
    exact List.append_ne_nil_of_left_ne_nil hz w
  cases segments₁ with
  | nil =>
    have hnil := h₁.whole
    simp at hnil
  | cons s segments₁ =>
    obtain ⟨x₁, t₁, rfl, hsplit, -⟩ := h₁.first hg
    have hwhole : x ++ t :: z = x₁ ++ [t₁] ++ (segments₁.flatten ++ z) := by
      rw [List.append_cons, hsplit, List.append_nil, List.append_assoc]
    refine ⟨_, segments₁ ++ segments₂, rfl, ?_, ?_⟩
    · exact hgs.not_file (hwhole ▸ hpart) (List.concat_ne_nil t₁ x₁) (List.append_ne_nil_of_right_ne_nil _ hz)
    · rw [List.flatten_append, List.append_assoc]
      exact List.append_ne_nil_of_right_ne_nil _ hbehind

/-- How a file is cut: into files, if each definition ends once, and else so that a piece before its end is no
file. -/
inductive CutInto (ps : List (List Token × Value)) (segments : List (List Token)) (rest : List Token) : Prop
  | files : (∀ p ∈ ps, EndsOnce p.1) → (∀ s ∈ rest :: segments, IsFile s) → CutInto ps segments rest
  | broken {before behind : List (List Token)} {s : List Token} : (¬ ∀ p ∈ ps, EndsOnce p.1) →
      segments = before ++ s :: behind → ¬ IsFile s → behind.flatten ++ rest ≠ [] → CutInto ps segments rest

/-- Parts of a file are cut so behind parts that have not been cut off. -/
theorem cut_into (hgs : AreParts gs (firstOf (tokensOf ps) .finish)) (hg : Unbroken .start (marks (tokensOf gs)))
    (hps : AreParts ps .finish) (hcut : IsCut (tokensOf gs ++ tokensOf ps) segments rest) : CutInto ps segments rest := by
  induction ps generalizing gs segments with
  | nil =>
    have hnone : IsCut (tokensOf gs ++ []) [] (tokensOf gs) := ⟨by simp, List.forall_mem_nil _, hg⟩
    obtain ⟨rfl, rfl⟩ := hcut.unique hnone
    exact .files (List.forall_mem_nil _) (List.forall_mem_singleton.mpr hgs.is_file)
  | cons p ps ih =>
    obtain ⟨hp, hps⟩ := hps
    by_cases honce : EndsOnce p.1
    swap
    · obtain ⟨s, behind, rfl, hfile, hbehind⟩ := cut_of_part hgs hg hp honce hcut
      exact .broken (fun h => honce (h p List.mem_cons_self)) (List.nil_append _).symm hfile hbehind
    have hmore : AreParts (gs ++ [p]) (firstOf (tokensOf ps) .finish) := by
      rw [areParts_append]
      exact ⟨by simpa [tokensOf, firstOf_append] using hgs, hp, trivial⟩
    have htokens : tokensOf (gs ++ [p]) = tokensOf gs ++ p.1 := by simp [tokensOf]
    have hsplit : tokensOf gs ++ tokensOf (p :: ps) = tokensOf (gs ++ [p]) ++ tokensOf ps := by simp [tokensOf]
    rw [hsplit] at hcut
    have hlevel : braces 0 p.1 = some 0 := Builds.level braces_balanced hp (symbolLevel_nonterminal _ _ _ _)
    rcases honce.unbroken_or_closes hg (level_areParts braces_balanced hgs) hlevel with hu | hc
    · -- the definition goes by
      cases ih hmore (htokens ▸ hu) hps hcut with
      | files honces hfiles => exact .files (List.forall_mem_cons.mpr ⟨honce, honces⟩) hfiles
      | broken hnot hsegments hfile hbehind =>
        exact .broken (fun h => hnot (List.forall_mem_cons.mp h).2) hsegments hfile hbehind
    · -- it is cut off
      obtain ⟨segments', rest', hrest⟩ := exists_isCut (tokensOf [] ++ tokensOf ps)
      have hfirst : IsCut (tokensOf (gs ++ [p])) [tokensOf (gs ++ [p])] [] :=
        ⟨by simp, List.forall_mem_singleton.mpr (htokens ▸ hc), trivial⟩
      obtain ⟨rfl, rfl⟩ := hcut.unique (hfirst.append hrest)
      cases @ih _ [] trivial trivial hps hrest with
      | files honces hfiles =>
        refine .files (List.forall_mem_cons.mpr ⟨honce, honces⟩) ?_
        obtain ⟨hlast, hfiles⟩ := List.forall_mem_cons.mp hfiles
        exact List.forall_mem_cons.mpr ⟨hlast, List.forall_mem_cons.mpr ⟨hmore.is_file, hfiles⟩⟩
      | @broken before behind s hnot hsegments hfile hbehind =>
        have hwhole : [tokensOf (gs ++ [p])] ++ segments' = (tokensOf (gs ++ [p]) :: before) ++ s :: behind := by
          rw [hsegments]
          rfl
        exact .broken (fun h => hnot (List.forall_mem_cons.mp h).2) hwhole hfile hbehind

namespace Outline

/-! ## Files whose definitions are whole -/

/-- Each definition of a file ends once. -/
def DefinitionsWhole (text : List Char) : Prop :=
  ∀ ps, AreParts ps .finish → tokensOf ps = tokensIn text → ∀ p ∈ ps, EndsOnce p.1

theorem parses_of_blank {text : List Char} (h : Text.isBlankText text = true) : Parses text :=
  (parses_iff_file (lexes_blank h [])).mpr ⟨[], trivial, rfl⟩

/-- The items of a text parse alone exactly if all its pieces do, also what is left behind the last cut. -/
theorem items_parse_iff_pieces {ps : List (List Char)} {tail : List Char} (hp : ∀ p ∈ ps, Closes .start p)
    (ht : Unbroken .start tail) :
    (∀ item ∈ Item.ofText (ps.flatten ++ tail), Parses item.text) ↔ ∀ p ∈ tail :: ps, Parses p := by
  have htexts : (Item.ofText (ps.flatten ++ tail)).map Item.text = Item.kept ps tail := by
    rw [Item.ofText_cut hp ht, Item.map_text_place]
  rw [← List.forall_mem_map, htexts, Item.kept, List.forall_mem_cons]
  cases hblank : Text.isBlankText tail with
  | true => simp [parses_of_blank hblank]
  | false => simp [or_imp, forall_and, and_comm]

/-- The items of a text that is cut together with its tokens parse alone exactly if the tokens are cut into files. -/
theorem items_parse_iff_files {text tail : List Char} {w rest : List Token} {phase : PragmaPhase}
    {pieces : List (List Char × List Token)} (h : CutTogether text w phase pieces tail rest) :
    (∀ item ∈ Item.ofText text, Parses item.text) ↔ ∀ s ∈ rest :: pieces.map Prod.snd, IsFile s := by
  rw [h.whole, items_parse_iff_pieces (closes_of_cut h) h.unbroken, List.forall_mem_cons, List.forall_mem_cons,
    parses_iff_file h.last, List.forall_mem_map, List.forall_mem_map]
  exact and_congr_right fun _ => forall₂_congr fun p hp => parses_iff_file (h.reads p hp)

variable {text : List Char}

/-- A regular file that parses is cut as its parts are. -/
theorem Regular.cut_into (h : Regular text) (hparses : Parses text) {ps : List (List Token × Value)}
    (hps : AreParts ps .finish) (hw : tokensOf ps = tokensIn text) :
    ∃ pieces tail rest, CutTogether text (tokensOf ps) .outside pieces tail rest ∧
      CutInto ps (pieces.map Prod.snd) rest := by
  obtain ⟨phase, w, hlexes, -⟩ := exists_lexes hparses
  obtain ⟨rfl, pieces, tail, rest, hcut⟩ := h.cut_together hlexes
  obtain rfl : tokensOf ps = w := hw.trans (tokensIn_eq hlexes)
  exact ⟨pieces, tail, rest, hcut, @SoliditySchema.cut_into _ _ _ [] trivial trivial hps hcut.tokens⟩

/-- The items of a regular file parse alone exactly if its definitions are whole. -/
theorem items_parse_iff (hparses : Parses text) (h : Regular text) :
    (∀ item ∈ Item.ofText text, Parses item.text) ↔ DefinitionsWhole text := by
  constructor
  · intro hitems ps hps hw
    obtain ⟨pieces, tail, rest, hcut, hinto⟩ := h.cut_into hparses hps hw
    cases hinto with
    | files honces _ => exact honces
    | broken _ hsegments hfile _ =>
      refine absurd ((items_parse_iff_files hcut).mp hitems _ ?_) hfile
      rw [hsegments]
      simp
  · intro hwhole
    obtain ⟨phase, w, hlexes, ps, hps, rfl⟩ := exists_lexes hparses
    have hw := (tokensIn_eq hlexes).symm
    obtain ⟨pieces, tail, rest, hcut, hinto⟩ := h.cut_into hparses hps hw
    cases hinto with
    | files _ hfiles => exact (items_parse_iff_files hcut).mpr hfiles
    | broken hnot => exact absurd (hwhole ps hps hw) hnot

/-- A regular file whose definitions are not whole is cut before its end, behind a piece that does not parse. -/
theorem exists_broken (hparses : Parses text) (h : Regular text) (hnot : ¬ DefinitionsWhole text) :
    ∃ ps p z, text = (ps ++ [p]).flatten ++ z ∧ (∀ q ∈ ps ++ [p], Closes .start q) ∧ ¬ Parses p ∧ z ≠ [] := by
  obtain ⟨ps, hps, hw, hnot⟩ : ∃ ps, AreParts ps .finish ∧ tokensOf ps = tokensIn text ∧ ¬ ∀ p ∈ ps, EndsOnce p.1 := by
    by_contra hall
    exact hnot fun ps hps hw => by_contra fun hone => hall ⟨ps, hps, hw, hone⟩
  obtain ⟨pieces, tail, rest, hcut, hinto⟩ := h.cut_into hparses hps hw
  cases hinto with
  | files honces => exact absurd honces hnot
  | broken _ hsegments hfile hbehind =>
    obtain ⟨pieces₁, pieces₂, rfl, rfl, hmore⟩ := List.map_eq_append_iff.mp hsegments
    obtain ⟨q, pieces₂, rfl, rfl, rfl⟩ := List.map_eq_cons_iff.mp hmore
    refine ⟨pieces₁.map Prod.fst, q.1, (pieces₂.map Prod.fst).flatten ++ tail, ?_, ?_, ?_, fun hnil => hbehind ?_⟩
    · rw [hcut.whole]
      simp
    · intro p hp
      refine closes_of_cut hcut p ?_
      rw [List.map_append, List.map_cons, ← List.singleton_append, ← List.append_assoc]
      exact List.mem_append_left _ hp
    · rwa [parses_iff_file (hcut.reads q (by simp))]
    · -- where no text is left, no tokens are
      obtain ⟨hflat, rfl⟩ := List.append_eq_nil_iff.mp hnil
      have hrest : rest = [] := (tokensIn_eq hcut.last).symm
      cases pieces₂ with
      | nil => exact hrest
      | cons q' pieces₂ =>
        obtain ⟨hq, -⟩ := List.append_eq_nil_iff.mp hflat
        exact absurd hq (hcut.closes q' (by simp)).ne_nil

end Outline

end SoliditySchema
