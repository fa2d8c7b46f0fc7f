/-
  SoliditySchema.Proofs.Outline.Broken — one broken contract does not hide the others.

  Between two files stands a broken item, and the whole does not parse. If the cutting of the files agrees with
  the lexer and the grammar (`Regular`), the contracts of both files are kept, and no others, exactly if none of
  them is cut inside parentheses (`ContractsWhole`, `contracts_around`): each file is cut into pieces that have
  its contracts alone, what is left of the first file fails together with the broken item, and what is left of
  the second has no contract. Braces in the arguments of a base or of an annotation cut a contract there.

  On a file that is not regular a contract can be lost: behind a line comment that ends with a carriage return
  alone (`contract_lost_behind_return`), behind an address literal with a backslash before its quote, and behind a
  pragma that is none.
-/

import Mathlib.Data.List.Basic
import SoliditySchema.Proofs.Outline.Agreement
import SoliditySchema.Proofs.Outline.Recovery

namespace SoliditySchema

open Cursor Grammar
open Token (mark marks)

namespace Outline

/-! ## What a text is read to -/

/-- The tokens of a text. -/
def tokensIn (text : List Char) : List Token := (Scan.ofText text).tokens.map PlacedToken.token

theorem tokensIn_eq {text : List Char} {w : List Token} {phase : PragmaPhase} (h : Lexes .outside text [] w phase) :
    tokensIn text = w :=
  (Scan.scan_iff.mpr ⟨phase, h⟩).2

/-- A text has an outline exactly if it is read to the parts of a file. -/
theorem ofCleanText_iff {text : List Char} {u : Outline} :
    ofCleanText text = .ok u ↔
      ∃ phase ps, Lexes .outside text [] (tokensOf ps) phase ∧ AreParts ps .finish ∧ u = ofTree (treeOf ps) := by
  constructor
  · intro h
    obtain ⟨tree, hof, rfl⟩ := ofCleanText_ok_iff.mp h
    obtain ⟨hfaults, hread⟩ := SourceTree.ofText_ok_iff.mp hof
    obtain ⟨phase, hlexes⟩ := Scan.scan_iff.mp ⟨hfaults, rfl⟩
    obtain ⟨ps, hps, htokens, rfl⟩ := sourceUnit_iff.mp (Reading.ofTokens_iff.mp hread)
    exact ⟨phase, ps, by rw [htokens]; exact hlexes, hps, rfl⟩
  · rintro ⟨phase, ps, hlexes, hps, rfl⟩
    obtain ⟨hfaults, htokens⟩ := Scan.scan_iff.mpr ⟨phase, hlexes⟩
    have hread : Reading.ofTokens (Scan.ofText text).tokens = ([], some (treeOf ps)) := by
      rw [Reading.ofTokens_iff, htokens]
      exact sourceUnit_iff.mpr ⟨ps, hps, rfl, rfl⟩
    exact ofCleanText_ok_iff.mpr ⟨_, SourceTree.ofText_ok_iff.mpr ⟨hfaults, hread⟩, rfl⟩

/-- A text parses exactly if its tokens are a file. -/
theorem parses_iff_file {text : List Char} {w : List Token} {phase : PragmaPhase} (h : Lexes .outside text [] w phase) :
    Parses text ↔ IsFile w := by
  constructor
  · intro hparses
    obtain ⟨u, hu⟩ := parses_iff.mp hparses
    obtain ⟨phase', ps, hlexes, hps, -⟩ := ofCleanText_iff.mp hu
    exact ⟨ps, hps, (tokensIn_eq hlexes).symm.trans (tokensIn_eq h)⟩
  · rintro ⟨ps, hps, rfl⟩
    exact parses_iff.mpr ⟨_, ofCleanText_iff.mpr ⟨phase, ps, h, hps, rfl⟩⟩

theorem exists_lexes {text : List Char} (h : Parses text) :
    ∃ phase w, Lexes .outside text [] w phase ∧ IsFile w := by
  obtain ⟨u, hu⟩ := parses_iff.mp h
  obtain ⟨phase, ps, hlexes, hps, -⟩ := ofCleanText_iff.mp hu
  exact ⟨phase, _, hlexes, ps, hps, rfl⟩

/-- The contracts of a text alone, in strict mode. -/
def strictContracts (text : List Char) : List Contract := (strictNodes text).filterMap Node.contract?

/-- The contracts of a text are those of its tokens. -/
theorem strictContracts_eq {text : List Char} {w : List Token} {phase : PragmaPhase} (h : Lexes .outside text [] w phase) :
    strictContracts text = contractsIn w := by
  by_cases hparses : Parses text
  · obtain ⟨ps, hps, rfl⟩ := (parses_iff_file h).mp hparses
    have hu : ofCleanText text = .ok (ofTree (treeOf ps)) := ofCleanText_iff.mpr ⟨phase, ps, h, hps, rfl⟩
    rw [contractsIn_parts hps, strictContracts, strictNodes_ok hu]
    rfl
  · rw [strictContracts, strictNodes_of_fails hparses]
    unfold contractsIn
    split
    · rename_i tree hread
      rw [Reading.ofTokens_iff, tokens_map] at hread
      obtain ⟨ps, hps, hw, -⟩ := sourceUnit_iff.mp hread
      exact absurd ((parses_iff_file h).mpr ⟨ps, hps, hw⟩) hparses
    · rfl

/-! ## Regular files -/

/-- The cutting of a file sees its comments, literals and pragmas as the lexer does. -/
structure Regular (text : List Char) : Prop where
  /-- Behind a line comment that ends with a carriage return alone, nothing matters to the cutting. -/
  returns : ReturnsIn text
  /-- In an address literal there is no backslash before the quote. -/
  addresses : ∀ raw, .addressText raw ∈ tokensIn text → (start.after raw.toList).region = .code
  /-- No pragma is open where tokens are cut, nor at their end. -/
  pragmas : PragmasClosed (tokensIn text)

/-- No contract of a file is cut inside parentheses, nor begins or ends inside some that were cut before. -/
def ContractsWhole (text : List Char) : Prop :=
  ∀ segments rest, IsCut (tokensIn text) segments rest → CutsMatch [] segments

/-- One cut of the tokens tells whether the contracts are whole. -/
theorem contractsWhole_iff {text : List Char} {segments : List (List Token)} {rest : List Token}
    (hcut : IsCut (tokensIn text) segments rest) : ContractsWhole text ↔ CutsMatch [] segments := by
  constructor
  · intro hwhole
    exact hwhole _ _ hcut
  · intro hmatch segments' rest' hcut'
    obtain ⟨rfl, -⟩ := hcut'.unique hcut
    exact hmatch

/-- A text without carriage returns and address literals is regular, if one cut of its tokens leaves no pragma open. -/
theorem Regular.of_cut {text : List Char} (hreturns : '\r' ∉ text)
    (haddresses : ∀ raw, .addressText raw ∉ tokensIn text) {segments : List (List Token)} {rest : List Token}
    (hcut : IsCut (tokensIn text) segments rest)
    (hclosed : ∀ s ∈ rest :: segments, s.foldl PragmaPhase.next .outside = .outside) : Regular text where
  returns := by
    rintro x v rfl -
    exact absurd (by simp) hreturns
  addresses := fun raw hraw => absurd hraw (haddresses raw)
  pragmas := by
    intro segments' rest' hcut'
    obtain ⟨rfl, rfl⟩ := hcut'.unique hcut
    exact hclosed

/-- A regular file is cut into pieces that are read alone to the tokens that are cut off with them. -/
theorem Regular.cut_together {text : List Char} (h : Regular text) {phase : PragmaPhase} {w : List Token}
    (hlexes : Lexes .outside text [] w phase) :
    phase = .outside ∧ ∃ pieces tail rest, CutTogether text w phase pieces tail rest := by
  have htokens := tokensIn_eq hlexes
  obtain ⟨pieces, tail, rest, hcut⟩ := cut_lexes hlexes h.returns (htokens ▸ h.addresses) (htokens ▸ h.pragmas)
  refine ⟨?_, pieces, tail, rest, hcut⟩
  rw [hcut.last.phase_eq]
  exact h.pragmas _ _ (htokens.symm ▸ hcut.tokens) rest List.mem_cons_self

/-- The pieces of a regular file keep its contracts, and the rest has none. -/
theorem Regular.cut {text : List Char} (h : Regular text) {phase : PragmaPhase} {ps : List (List Token × Value)}
    (hlexes : Lexes .outside text [] (tokensOf ps) phase) (hps : AreParts ps .finish) :
    phase = .outside ∧ ∃ pieces tail rest, CutTogether text (tokensOf ps) phase pieces tail rest ∧
      Keeps [] (pieces.map Prod.snd) (contractsOf (treeOf ps)) ∧ ∃ before, Pending before rest .finish := by
  obtain ⟨hphase, pieces, tail, rest, hcut⟩ := h.cut_together hlexes
  obtain ⟨hkeeps, hpending⟩ := @contracts_cut _ _ [] [] _ hps (Pending.nil rfl _) hcut.tokens
  exact ⟨hphase, pieces, tail, rest, hcut, hkeeps, _, hpending⟩

section CutTogether

variable {text tail : List Char} {w rest : List Token} {phase : PragmaPhase} {pieces : List (List Char × List Token)}

theorem closes_of_cut (h : CutTogether text w phase pieces tail rest) : ∀ p ∈ pieces.map Prod.fst, Closes .start p := by
  intro p hp
  obtain ⟨q, hq, rfl⟩ := List.mem_map.mp hp
  exact h.closes q hq

theorem contracts_of_cut (h : CutTogether text w phase pieces tail rest) :
    (pieces.map Prod.fst).flatMap strictContracts = (pieces.map Prod.snd).flatMap contractsIn := by
  rw [List.flatMap_map, List.flatMap_map]
  exact List.flatMap_congr fun p hp => strictContracts_eq (h.reads p hp)

theorem whole_iff (h : CutTogether text w phase pieces tail rest) (hw : tokensIn text = w) :
    ContractsWhole text ↔ CutsMatch [] (pieces.map Prod.snd) := contractsWhole_iff (hw ▸ h.tokens)

end CutTogether

/-! ## A broken item between two files -/

/-- A line feed begins a text that is read like what follows it. -/
theorem lexes_newline (z : List Char) : Lexes .outside ['\n'] z [] .outside := lexes_blank (by decide) z

theorem tokensIn_newline {text : List Char} {w : List Token} {phase : PragmaPhase} (h : Lexes .outside text [] w phase) :
    tokensIn ('\n' :: text) = tokensIn text := by
  have hnewline : Lexes .outside ('\n' :: text) [] w phase := (lexes_newline _).append h
  rw [tokensIn_eq h, tokensIn_eq hnewline]

theorem regular_newline {text : List Char} {w : List Token} {phase : PragmaPhase} (h : Regular text)
    (hlexes : Lexes .outside text [] w phase) : Regular ('\n' :: text) := by
  have htokens := tokensIn_newline hlexes
  refine ⟨?_, htokens ▸ h.addresses, htokens ▸ h.pragmas⟩
  intro x v hx hregion
  cases x with
  | nil => cases hx
  | cons c x =>
    injection hx with hc hx
    subst hc
    exact h.returns x v hx hregion

/-- Behind a line feed the cutting is in code again. -/
theorem after_newline {r : Region} (h : InStep r []) (d : Nat) : (⟨r, d⟩ : Cursor).step '\n' = (⟨.code, d⟩, false) := by
  cases h <;> rfl

theorem closes_append {s : Cursor} {a p : List Char} (ha : Unbroken s a) (hp : Closes (s.after a) p) : Closes s (a ++ p) := by
  obtain ⟨x, c, rfl, hx, hc⟩ := hp
  refine ⟨a ++ x, c, by rw [List.append_assoc], unbroken_append.mpr ⟨ha, hx⟩, ?_⟩
  rw [after_append]
  exact hc

/-- Behind a text in which no brace is left open, a line feed brings the cutting back to its start. -/
theorem start_behind {text tail : List Char} {w rest : List Token} {phase : PragmaPhase}
    {pieces : List (List Char × List Token)} (h : CutTogether text w phase pieces tail rest)
    (hclosed : braces 0 rest = some 0) :
    Unbroken .start (tail ++ ['\n']) ∧ start.after (tail ++ ['\n']) = start := by
  obtain ⟨r, d, hover, hafterTokens, hstep⟩ := h.ending
  obtain rfl : d = 0 := by
    rw [start, after_marks hclosed] at hafterTokens
    injection hafterTokens with _ hd
    exact hd.symm
  have hnewline : (start.after tail).step '\n' = (start, false) := by rw [hover, after_newline hstep]; rfl
  constructor
  · rw [unbroken_append, unbroken_cons, hnewline]
    exact ⟨h.unbroken, rfl, trivial⟩
  · rw [after_append, after_cons, hnewline]
    rfl

/-- What keeps broken what stands behind it fails together with a broken text on a new line. -/
theorem fails_behind {text b : List Char} {w : List Token} (hlexes : Lexes .outside text [] w .outside)
    (hcancel : ∀ r, IsFile (w ++ r) → IsFile r) (hb : ¬ Parses b) : ¬ Parses (text ++ '\n' :: b) := by
  intro hparses
  obtain ⟨phase, w', hall, hfile⟩ := exists_lexes hparses
  have htext : Lexes .outside text ('\n' :: b ++ []) w .outside := hlexes.of_sight rfl
  obtain ⟨r, rfl, hline⟩ := htext.split hall
  obtain ⟨_, rfl, hbehind⟩ := (lexes_newline (b ++ [])).split hline
  exact hb ((parses_iff_file hbehind).mpr (hcancel r hfile))

theorem ofCleanText_of_strict {text : List Char} {u : Outline} (h : (parse false text).result = .ok u) :
    ofCleanText text = .ok u := by
  obtain ⟨v, hv⟩ := parses_iff.mp ⟨u, h⟩
  rw [strict_ok hv] at h
  injection h with h
  rw [hv, h]

/-- The contracts of a text that fails are those of its pieces. -/
theorem contracts_of_pieces {text : List Char} (hfail : ¬ Parses text) {ps : List (List Char)} {tail : List Char}
    (htext : text = ps.flatten ++ tail) (hp : ∀ p ∈ ps, Closes .start p) (ht : Unbroken .start tail)
    (htail : strictContracts tail = []) (hne : ps ≠ []) :
    (∀ u, (parse true text).result = .ok u → u.contracts = ps.flatMap strictContracts) ∧
    (ps.flatMap strictContracts ≠ [] → ∃ u, (parse true text).result = .ok u) := by
  have hitems : Item.ofText text = Item.place 0 (Item.kept ps tail) := by rw [htext, Item.ofText_cut hp ht]
  obtain ⟨-, hok, -⟩ := tolerant_of_items hfail hitems
  have hkept : (Item.kept ps tail).flatMap strictContracts = ps.flatMap strictContracts := by
    rw [Item.kept, List.flatMap_append]
    cases Text.isBlankText tail <;> simp [htail]
  constructor
  · intro u hu
    have hkeptNe : Item.kept ps tail ≠ [] := List.append_ne_nil_of_left_ne_nil hne _
    rw [← hkept, Outline.contracts, ((result_ok_iff hfail hitems hkeptNe u).mp hu).2, List.filterMap_flatMap]
    rfl
  · intro hsome
    have hparses : ∃ p ∈ Item.kept ps tail, Parses p := by
      by_contra hnone
      refine hsome ?_
      rw [List.flatMap_eq_nil_iff]
      intro p hmem
      have hp : ¬ Parses p := fun h => hnone ⟨p, List.mem_append_left _ hmem, h⟩
      rw [strictContracts, strictNodes_of_fails hp]
      rfl
    exact ⟨_, hok hparses⟩

/-- A closed item between two texts is cut off together with what is left of the first. -/
theorem pieces_around {t₁ b t₂ tail₁ tail₂ : List Char} {w₁ w₂ rest₁ rest₂ : List Token} {phase₁ phase₂ : PragmaPhase}
    {pieces₁ pieces₂ : List (List Char × List Token)} (h₁ : CutTogether t₁ w₁ phase₁ pieces₁ tail₁ rest₁)
    (h₂ : CutTogether ('\n' :: t₂) w₂ phase₂ pieces₂ tail₂ rest₂) (hclosed : braces 0 rest₁ = some 0) (hb : Closes .start b) :
    t₁ ++ '\n' :: b ++ '\n' :: t₂ =
        (pieces₁.map Prod.fst ++ (tail₁ ++ '\n' :: b) :: pieces₂.map Prod.fst).flatten ++ tail₂ ∧
      ∀ p ∈ pieces₁.map Prod.fst ++ (tail₁ ++ '\n' :: b) :: pieces₂.map Prod.fst, Closes .start p := by
  constructor
  · have htext : t₁ ++ '\n' :: b ++ '\n' :: t₂ = t₁ ++ '\n' :: b ++ ('\n' :: t₂) := rfl
    rw [htext, h₂.whole, h₁.whole]
    simp
  · obtain ⟨hunbroken, hover⟩ := start_behind h₁ hclosed
    have hmiddle : Closes .start (tail₁ ++ '\n' :: b) := by
      have hparts : tail₁ ++ '\n' :: b = tail₁ ++ ['\n'] ++ b := (List.append_assoc tail₁ ['\n'] b).symm
      rw [hparts]
      exact closes_append hunbroken (by rw [hover]; exact hb)
    intro p hp
    rcases List.mem_append.mp hp with hp | hp
    · exact closes_of_cut h₁ p hp
    · rcases List.mem_cons.mp hp with rfl | hp
      · exact hmiddle
      · exact closes_of_cut h₂ p hp

/-- The contracts around a broken item are kept exactly if those of both texts are. -/
theorem keeps_iff {s₁ s₂ : List (List Token)} {c₁ c₂ : List Contract} (h₁ : Keeps [] s₁ c₁) (h₂ : Keeps [] s₂ c₂) :
    s₁.flatMap contractsIn ++ s₂.flatMap contractsIn = c₁ ++ c₂ ↔ CutsMatch [] s₁ ∧ CutsMatch [] s₂ := by
  have hle₁ := h₁.length_le
  have hle₂ := h₂.length_le
  cases h₁ with
  | fewer hcut hlt =>
    refine iff_of_false (fun h => ?_) fun h => hcut h.1
    have := congrArg List.length h
    rw [List.length_append, List.length_append] at this
    omega
  | all hmatch heq =>
    cases h₂ with
    | fewer hcut hlt =>
      refine iff_of_false (fun h => ?_) fun h => hcut h.2
      have := congrArg List.length h
      rw [List.length_append, List.length_append] at this
      omega
    | all hmatch' heq' => exact iff_of_true (by rw [heq, heq']) ⟨hmatch, hmatch'⟩

/-- One broken item between two regular files hides none of their contracts, exactly if no contract of them is
cut inside parentheses. -/
theorem contracts_around {t₁ b t₂ : List Char} {u₁ u₂ : Outline} (h₁ : (parse false t₁).result = .ok u₁)
    (h₂ : (parse false t₂).result = .ok u₂) (hsome : u₁.contracts ++ u₂.contracts ≠ []) (hb : Item.IsComplete b)
    (hbroken : ¬ Parses b) (hfail : ¬ Parses (t₁ ++ '\n' :: b ++ '\n' :: t₂)) (hr₁ : Regular t₁) (hr₂ : Regular t₂) :
    (∃ u, (parse true (t₁ ++ '\n' :: b ++ '\n' :: t₂)).result = .ok u ∧ u.contracts = u₁.contracts ++ u₂.contracts) ↔
      ContractsWhole t₁ ∧ ContractsWhole t₂ := by
  obtain ⟨phase₁, ps₁, hlexes₁, hps₁, rfl⟩ := ofCleanText_iff.mp (ofCleanText_of_strict h₁)
  obtain ⟨phase₂, ps₂, hlexes₂, hps₂, rfl⟩ := ofCleanText_iff.mp (ofCleanText_of_strict h₂)
  have hnewline : Lexes .outside ('\n' :: t₂) [] (tokensOf ps₂) phase₂ := (lexes_newline _).append hlexes₂
  obtain ⟨hphase, pieces₁, tail₁, rest₁, hcut₁, hkeeps₁, before₁, hpending₁⟩ := hr₁.cut hlexes₁ hps₁
  obtain ⟨-, pieces₂, tail₂, rest₂, hcut₂, hkeeps₂, before₂, hpending₂⟩ := (regular_newline hr₂ hlexes₂).cut hnewline hps₂
  have hwhole₂ : ContractsWhole t₂ ↔ CutsMatch [] (pieces₂.map Prod.snd) := by
    rw [← whole_iff hcut₂ (tokensIn_eq hnewline), ContractsWhole, ContractsWhole, tokensIn_newline hlexes₂]
  rw [whole_iff hcut₁ (tokensIn_eq hlexes₁), hwhole₂, ← keeps_iff hkeeps₁ hkeeps₂]
  -- what is left of the first file fails with the broken item, and what is left of the second has no contract
  have hmiddle : strictContracts (tail₁ ++ '\n' :: b) = [] := by
    rw [strictContracts, strictNodes_of_fails (fails_behind (hphase ▸ hcut₁.last) (fun _ => hpending₁.cancel) hbroken)]
    rfl
  have htail : strictContracts tail₂ = [] := by
    rw [strictContracts_eq hcut₂.last]
    exact contractsIn_nil (not_opens hpending₂.quiet)
  obtain ⟨htext, hcloses⟩ := pieces_around hcut₁ hcut₂ hpending₁.closed hb.closes
  obtain ⟨hresult, hok⟩ := contracts_of_pieces hfail htext hcloses hcut₂.unbroken htail (by simp)
  rw [List.flatMap_append, List.flatMap_cons, hmiddle, List.nil_append, contracts_of_cut hcut₁, contracts_of_cut hcut₂]
    at hresult hok
  constructor
  · rintro ⟨u, hu, hcontracts⟩
    rw [← hresult u hu, hcontracts]
    rfl
  · intro hsame
    have hkept : (pieces₁.map Prod.snd).flatMap contractsIn ++ (pieces₂.map Prod.snd).flatMap contractsIn =
        (ofTree (treeOf ps₁)).contracts ++ (ofTree (treeOf ps₂)).contracts := hsame
    obtain ⟨u, hu⟩ := hok (by rw [hkept]; exact hsome)
    exact ⟨u, hu, by rw [hresult u hu, hkept]⟩

/-- The tokens of a contract without parts. -/
def emptyContract (name : Identifier) : List Token :=
  [.keyword .kwContract, .identifier name, .operator .openBrace, .operator .closeBrace]

/-- A contract without parts is one piece, cut behind its last brace. -/
theorem isCut_emptyContract (name : Identifier) : IsCut (emptyContract name) [emptyContract name] [] where
  whole := rfl
  closes := List.forall_mem_singleton.mpr ⟨['a', 'a', '{'], '}', rfl, ⟨rfl, rfl, rfl, trivial⟩, rfl⟩
  unbroken := trivial

theorem regular_emptyContract {text : List Char} {name : Identifier} (hreturns : '\r' ∉ text)
    (htokens : tokensIn text = emptyContract name) : Regular text ∧ ContractsWhole text := by
  have hcut : IsCut (tokensIn text) [emptyContract name] [] := htokens ▸ isCut_emptyContract name
  constructor
  · refine .of_cut hreturns ?_ hcut ?_
    · simp [htokens, emptyContract]
    · simp [emptyContract, PragmaPhase.next]
  · exact (contractsWhole_iff hcut).mpr ⟨fun _ => ⟨rfl, rfl⟩, trivial⟩

/-- A broken contract between two others is skipped, and they are kept. -/
theorem contracts_around_broken_contract :
    let before := "contract A \x7b\x7d".toList
    let bad := "contract B \x7b uint x = ; \x7d".toList
    let behind := "contract C \x7b\x7d".toList
    Regular before ∧ Regular behind ∧ Item.IsComplete bad ∧ ¬ Parses bad ∧
      ¬ Parses (before ++ '\n' :: bad ++ '\n' :: behind) ∧
      ∃ u, (parse true (before ++ '\n' :: bad ++ '\n' :: behind)).result = .ok u ∧
        u.contracts = [⟨"A", []⟩, ⟨"C", []⟩] := by
  intro before bad behind
  have hbefore : tokensIn before = emptyContract ⟨"A", by decide, by decide⟩ := by decide +kernel
  have hbehind : tokensIn behind = emptyContract ⟨"C", by decide, by decide⟩ := by decide +kernel
  obtain ⟨hregular₁, hwhole₁⟩ := regular_emptyContract (by decide) hbefore
  obtain ⟨hregular₂, hwhole₂⟩ := regular_emptyContract (by decide) hbehind
  have hok₁ : (parse false before).result = .ok ⟨[.contract ⟨"A", []⟩]⟩ := ok_of_toOption (by decide +kernel)
  have hok₂ : (parse false behind).result = .ok ⟨[.contract ⟨"C", []⟩]⟩ := ok_of_toOption (by decide +kernel)
  have hcomplete : Item.IsComplete bad := by unfold Item.IsComplete; decide +kernel
  have hbad : ¬ Parses bad := outline?_eq_none.mp (by decide +kernel)
  have hfail : ¬ Parses (before ++ '\n' :: bad ++ '\n' :: behind) := outline?_eq_none.mp (by decide +kernel)
  exact ⟨hregular₁, hregular₂, hcomplete, hbad, hfail,
    (contracts_around hok₁ hok₂ (by decide) hcomplete hbad hfail hregular₁ hregular₂).mpr ⟨hwhole₁, hwhole₂⟩⟩

/-- A contract is lost behind a line comment that ends with a carriage return alone: the cutting does not see its
last brace, and takes it together with the broken contract. -/
theorem contract_lost_behind_return :
    let before := "contract A \x7b //\r\x7d".toList
    let bad := "contract B \x7b uint x = ; \x7d".toList
    Parses before ∧ Item.IsComplete bad ∧ ¬ Parses bad ∧
      ∃ ds, (parse true (before ++ '\n' :: bad)).result = .error ds := by
  intro before bad
  have hoption : (ofCleanText before).toOption = some ⟨[.contract ⟨"A", []⟩]⟩ := by decide +kernel
  have hbefore : Parses before := parses_iff.mpr ⟨_, ok_of_toOption hoption⟩
  have hcomplete : Item.IsComplete bad := by unfold Item.IsComplete; decide +kernel
  have hbad : ¬ Parses bad := outline?_eq_none.mp (by decide +kernel)
  have hnone : (parse true (before ++ '\n' :: bad)).result.toOption = none := by decide +kernel
  refine ⟨hbefore, hcomplete, hbad, ?_⟩
  cases hresult : (parse true (before ++ '\n' :: bad)).result with
  | ok u => rw [hresult] at hnone; cases hnone
  | error ds => exact ⟨ds, rfl⟩

end Outline

end SoliditySchema
