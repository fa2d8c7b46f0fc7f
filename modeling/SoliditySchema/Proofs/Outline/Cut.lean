/-
  SoliditySchema.Proofs.Outline.Cut — the contracts of a file whose tokens are cut.

  The cutting of a text sees of a token only whether it is a brace or a semicolon. So tokens are cut as the
  characters that it sees. A file that is cut alone loses no contract, and gets none (`contracts_cut`), if
  nothing that a contract begins in is cut inside parentheses: what is cut off with a contract is that
  contract, maybe behind annotations, and everything else has none.
-/

import Mathlib.Data.List.Basic
import SoliditySchema.Outline.OfTree
import SoliditySchema.Proofs.Grammar.Brackets
import SoliditySchema.Proofs.Grammar.Ends
import SoliditySchema.Proofs.Token.Lexeme

namespace SoliditySchema

open Cursor Grammar

open Token (mark marks)

/-! ## Cutting tokens -/

/-- Tokens are cut into those that close an item, and a rest in which none ends. -/
structure IsCut (w : List Token) (segments : List (List Token)) (rest : List Token) : Prop where
  whole : w = segments.flatten ++ rest
  closes : ∀ s ∈ segments, Closes .start (marks s)
  unbroken : Unbroken .start (marks rest)

theorem exists_isCut (w : List Token) : ∃ segments rest, IsCut w segments rest := by
  obtain ⟨ps, tail, hw, hp, ht⟩ := Item.exists_cut (marks w)
  have hlift : ∀ (ps : List (List Char)) (w : List Token), marks w = ps.flatten ++ tail →
      ∃ (segments : List (List Token)) (rest : List Token), w = segments.flatten ++ rest ∧ segments.map marks = ps ∧ marks rest = tail := by
    intro ps
    induction ps with
    | nil => exact fun w hw => ⟨[], w, rfl, rfl, hw⟩
    | cons p ps ih =>
      intro w hw
      rw [List.flatten_cons, List.append_assoc] at hw
      obtain ⟨u, v, rfl, hu, hv⟩ := List.map_eq_append_iff.mp hw
      obtain ⟨segments, rest, rfl, hs, hr⟩ := ih v hv
      exact ⟨u :: segments, rest, by simp, by rw [List.map_cons, hs]; exact congrArg (· :: ps) hu, hr⟩
  obtain ⟨segments, rest, hwhole, rfl, rfl⟩ := hlift ps w hw
  exact ⟨segments, rest, hwhole, fun s hs => hp _ (List.mem_map_of_mem hs), ht⟩

variable {w r : List Token} {segments segments' : List (List Token)} {rest rest' : List Token}

theorem IsCut.pieces (h : IsCut w segments rest) : Item.pieces .start (marks w) = segments.map marks ++ [marks rest] := by
  have hmarks : marks w = (segments.map marks).flatten ++ marks rest := by
    rw [h.whole, marks, List.map_append, List.map_flatten]
  rw [hmarks]
  refine Item.pieces_cut ?_ h.unbroken
  intro p hp
  obtain ⟨s, hs, rfl⟩ := List.mem_map.mp hp
  exact h.closes s hs

theorem IsCut.unique (h : IsCut w segments rest) (h' : IsCut w segments' rest') : segments = segments' ∧ rest = rest' := by
  have hpieces : segments.map marks = segments'.map marks := by
    have := h.pieces.symm.trans h'.pieces
    simpa using (List.append_inj' this rfl).1
  have hlengths : segments.map List.length = segments'.map List.length := by
    have := congrArg (List.map List.length) hpieces
    simpa [marks, Function.comp_def] using this
  have hwhole := h.whole.symm.trans h'.whole
  have hlength : segments.flatten.length = segments'.flatten.length := by
    rw [List.length_flatten, List.length_flatten, hlengths]
  obtain ⟨hflat, hrest⟩ := List.append_inj hwhole hlength
  exact ⟨List.eq_iff_flatten_eq.mpr ⟨hflat, hlengths⟩, hrest⟩

/-- What follows a cut is cut together with the rest before it. -/
theorem IsCut.append (h : IsCut w segments rest) (h' : IsCut (rest ++ r) segments' rest') :
    IsCut (w ++ r) (segments ++ segments') rest' := by
  refine ⟨?_, ?_, h'.unbroken⟩
  · rw [h.whole, List.append_assoc, h'.whole, List.flatten_append, List.append_assoc]
  · intro s hs
    rcases List.mem_append.mp hs with hs | hs
    · exact h.closes s hs
    · exact h'.closes s hs

/-! ## Cuts and levels -/

theorem step_mark (d : Nat) (t : Token) : (⟨.code, d⟩ : Cursor).step (mark t) = stepCode d (mark t) := rfl

/-- The cutting of a text counts braces as the grammar does. -/
theorem after_marks {d e : Nat} {w : List Token} (h : braces d w = some e) : (⟨.code, d⟩ : Cursor).after (marks w) = ⟨.code, e⟩ := by
  induction w generalizing d with
  | nil => rw [← Option.some_inj.mp h]; rfl
  | cons t w ih =>
    obtain ⟨d', hd, hw⟩ := Option.bind_eq_some_iff.mp h
    have hstep : (stepCode d (mark t)).1 = ⟨.code, d'⟩ := by
      unfold bracket at hd
      split at hd
      · rename_i ht
        obtain rfl := ofToken_inj_operator ht
        injection hd with hd
        rw [← hd]
        rfl
      · split at hd
        · rename_i ht
          obtain rfl := ofToken_inj_operator ht
          cases d with
          | zero => cases hd
          | succ d =>
            injection hd with hd
            rw [← hd]
            rfl
        · rename_i ho hc
          injection hd with hd
          subst hd
          cases t with
          | operator o => cases o <;> first | rfl | exact absurd rfl ho | exact absurd rfl hc
          | _ => rfl
    rw [marks, List.map_cons, after_cons, step_mark, hstep]
    exact ih hw

/-- What ends a definition outside braces ends an item. -/
theorem ends_item {x : List Token} {t : Token} (ht : Ends (.ofToken t)) (h : braces 0 (x ++ [t]) = some 0) :
    ((start.after (marks x)).step (mark t)).2 = true := by
  rw [braces, level_append] at h
  obtain ⟨d, hx, hd⟩ := Option.bind_eq_some_iff.mp h
  obtain ⟨d', hd, h0⟩ := Option.bind_eq_some_iff.mp hd
  obtain rfl : d' = 0 := Option.some_inj.mp h0
  rw [start, after_marks hx, step_mark]
  rcases ht with ht | ht
  · obtain rfl := ofToken_inj_operator ht
    cases d with
    | zero => cases hd
    | succ d =>
      have hd : some d = some 0 := hd
      injection hd with hd
      subst hd
      rfl
  · obtain rfl := ofToken_inj_operator ht
    have hd : some d = some 0 := hd
    injection hd with hd
    subst hd
    rfl

/-- What closes an item ends with a closing brace or a semicolon. -/
theorem ends_of_closes {w : List Token} (h : Closes .start (marks w)) : ∃ x t, w = x ++ [t] ∧ Ends (.ofToken t) := by
  have hmark : ∀ t : Token, mark t = '}' ∨ mark t = ';' → Ends (.ofToken t) := by
    intro t ht
    cases t with
    | operator o => cases o <;> first | exact Or.inl rfl | exact Or.inr rfl | (rcases ht with ht | ht <;> cases ht)
    | _ => rcases ht with ht | ht <;> cases ht
  obtain ⟨x, hx⟩ := h.last
  have hsplit : ∃ c, marks w = x ++ [c] ∧ (c = '}' ∨ c = ';') := by
    rcases hx with hx | hx
    · exact ⟨_, hx, Or.inl rfl⟩
    · exact ⟨_, hx, Or.inr rfl⟩
  obtain ⟨c, hw, hc⟩ := hsplit
  obtain ⟨u, v, rfl, -, hv⟩ := List.map_eq_append_iff.mp hw
  obtain ⟨t, v', rfl, rfl, hv'⟩ := List.map_eq_cons_iff.mp hv
  obtain rfl := List.map_eq_nil_iff.mp hv'
  exact ⟨u, t, rfl, hmark t hc⟩

/-- What ends with a closing brace or a semicolon does so behind any beginning. -/
theorem ends_behind {g y : List Token} (h : ∃ x t, g ++ y = x ++ [t] ∧ Ends (.ofToken t)) (hne : y ≠ []) :
    ∃ x t, y = x ++ [t] ∧ Ends (.ofToken t) := by
  obtain ⟨x, t, hx, ht⟩ := h
  obtain ⟨y, t', rfl⟩ := (List.eq_nil_or_concat y).resolve_left hne
  rw [List.concat_eq_append, ← List.append_assoc] at hx
  obtain ⟨-, hlast⟩ := List.append_inj' hx rfl
  injection hlast with hlast
  exact ⟨y, t', List.concat_eq_append, hlast ▸ ht⟩

theorem after_flatten {segments : List (List Token)} (h : ∀ s ∈ segments, Closes .start (marks s)) :
    start.after (marks segments.flatten) = start := by
  induction segments with
  | nil => rfl
  | cons s segments ih =>
    rw [List.flatten_cons, marks, List.map_append, after_append, (h s List.mem_cons_self).after_eq]
    exact ih fun s hs => h s (List.mem_cons_of_mem _ hs)

/-- Behind tokens that are cut off no brace is open. -/
theorem braces_of_closes (segments : List (List Token)) {e : Nat} (h : ∀ s ∈ segments, Closes .start (marks s))
    (he : braces 0 segments.flatten = some e) : e = 0 := by
  have hover := after_flatten h
  rw [start, after_marks he] at hover
  injection hover

/-! ## Counting brackets -/

theorem count_of_level {o c : Operator} (hne : o ≠ c) {d e : Nat} {w : List Token} (h : level o c d w = some e) :
    d + w.count (.operator o) = e + w.count (.operator c) := by
  induction w generalizing d with
  | nil => rw [Option.some_inj.mp h]; rfl
  | cons t w ih =>
    obtain ⟨d', hd, hw⟩ := Option.bind_eq_some_iff.mp h
    have := ih hw
    unfold bracket at hd
    split at hd
    · rename_i ht
      obtain rfl := ofToken_inj_operator ht
      injection hd with hd
      have hoc : (Token.operator o == Token.operator c) = false := by simpa using hne
      rw [List.count_cons, List.count_cons, beq_self_eq_true, hoc]
      simp only [if_true, Bool.false_eq_true, if_false]
      omega
    · rename_i ho
      have ho' : (t == Token.operator o) = false := by
        rw [beq_eq_false_iff_ne]
        rintro rfl
        exact ho rfl
      split at hd
      · rename_i ht
        obtain rfl := ofToken_inj_operator ht
        cases d with
        | zero => cases hd
        | succ d =>
          injection hd with hd
          rw [List.count_cons, List.count_cons, beq_self_eq_true, ho']
          simp only [if_true, Bool.false_eq_true, if_false]
          omega
      · rename_i hc
        have hc' : (t == Token.operator c) = false := by
          rw [beq_eq_false_iff_ne]
          rintro rfl
          exact hc rfl
        injection hd with hd
        rw [List.count_cons, List.count_cons, ho', hc']
        simp only [Bool.false_eq_true, if_false]
        omega

/-- As many parentheses are opened as are closed. -/
def ParensMatch (w : List Token) : Prop := w.count (.operator .openParen) = w.count (.operator .closeParen)

/-- A contract may begin in the tokens: outside braces there is a word that begins one. -/
def Opens (w : List Token) : Prop :=
  ∃ x word y, w = x ++ word :: y ∧ isContractWord (.ofToken word) = true ∧
    x.count (.operator .openBrace) = x.count (.operator .closeBrace)

theorem parens_of_match {w : List Token} {k : Nat} (h : parens 0 w = some k) (hw : ParensMatch w) : k = 0 := by
  have := count_of_level (by decide) h
  rw [ParensMatch] at hw
  omega

theorem match_of_parens {w : List Token} (h : parens 0 w = some 0) : ParensMatch w := by
  have := count_of_level (by decide) h
  rw [ParensMatch]
  omega

theorem not_opens {w : List Token} (h : Guarded .openBrace .closeBrace isContractWord 0 w) : ¬ Opens w := by
  rintro ⟨x, word, y, rfl, hword, hcount⟩
  obtain ⟨k, hk⟩ := h.inside hword
  have := count_of_level (by decide) hk
  omega

/-! ## Contracts -/

namespace Outline

/-- The contracts of a tree. -/
def contractsOf (tree : SourceTree) : List Contract := (ofTree tree).contracts

/-- The contracts of tokens, which have none if they are no whole file. -/
def contractsIn (w : List Token) : List Contract :=
  match Reading.ofTokens (w.map fun t => ⟨t, 0, 0⟩) with
  | ([], some tree) => contractsOf tree
  | _ => []

end Outline

open Outline (contractsOf contractsIn)

theorem contractsOf_treeOf (ps : List (List Token × Value)) :
    contractsOf (treeOf ps) =
      ps.filterMap fun p => p.2.sourcePart?.bind fun part => (Outline.Node.ofTree part).contract? := by
  simp only [contractsOf, Outline.ofTree, treeOf, Outline.contracts, List.map_filterMap, List.filterMap_filterMap]
  refine List.filterMap_congr fun p _ => ?_
  cases p.2.sourcePart? <;> rfl

theorem contractsOf_append (ps qs : List (List Token × Value)) :
    contractsOf (treeOf (ps ++ qs)) = contractsOf (treeOf ps) ++ contractsOf (treeOf qs) := by
  simp only [contractsOf_treeOf, List.filterMap_append]

theorem contractsOf_other {p : List Token × Value} (kind : TopKind) (h : p.2.sourcePart? = some (.other kind)) :
    contractsOf (treeOf [p]) = [] := by
  rw [contractsOf_treeOf, List.filterMap_cons, h]
  rfl

theorem contractsIn_parts {ps : List (List Token × Value)} (h : AreParts ps .finish) :
    contractsIn (tokensOf ps) = contractsOf (treeOf ps) := by
  have hread : Reading.ofTokens ((tokensOf ps).map fun t => ⟨t, 0, 0⟩) = ([], some (treeOf ps)) := by
    rw [Reading.ofTokens_iff, tokens_map]
    exact sourceUnit_iff.mpr ⟨ps, h, rfl, rfl⟩
  rw [contractsIn, hread]

theorem level_areParts {o c : Operator} (hbalanced : Balanced o c) {ps : List (List Token × Value)} {a : Terminal}
    (h : AreParts ps a) : level o c 0 (tokensOf ps) = some 0 := by
  induction ps with
  | nil => rfl
  | cons p ps ih =>
    have hp : Grammar.level o c 0 p.1 = some 0 := Builds.level hbalanced h.1 (symbolLevel_nonterminal o c 0 _)
    rw [tokensOf, List.flatMap_cons, level_append, hp]
    exact ih h.2

/-- Where no contract may begin there is none. -/
theorem contractsIn_nil {w : List Token} (h : ¬ Opens w) : contractsIn w = [] := by
  unfold contractsIn
  split
  · rename_i tree hread
    rw [Reading.ofTokens_iff, tokens_map] at hread
    obtain ⟨ps, hps, rfl, rfl⟩ := sourceUnit_iff.mp hread
    have hother : ∀ p ∈ ps, contractsOf (treeOf [p]) = [] := by
      intro p hp
      obtain ⟨before, after, rfl⟩ := List.append_of_mem hp
      obtain ⟨hbefore, hpart, -⟩ := areParts_append.mp hps
      rcases hpart.kinds with hc | ⟨hv, -⟩ | ⟨kind, x, t, hv, -⟩
      · -- its first word stands outside braces
        exfalso
        obtain ⟨x, word, y, body, hu, hx, hword, -⟩ := contract_shape hc
        refine h ⟨tokensOf before ++ x, word, y ++ .operator .openBrace :: body ++ [.operator .closeBrace] ++ tokensOf after,
          by simp [tokensOf, hu], hword, ?_⟩
        have hcount := count_of_level (by decide) (level_areParts braces_balanced hbefore)
        have hnone : ∀ o : Operator, x.count (.operator o) = 0 := by
          intro o
          refine List.count_eq_zero.mpr fun hmem => ?_
          cases hx _ hmem
        rw [List.count_append, List.count_append, hnone, hnone]
        omega
      · exact contractsOf_other _ hv
      · exact contractsOf_other kind (by rw [hv]; rfl)
    rw [contractsOf_treeOf, List.filterMap_eq_nil_iff]
    intro p hp
    have := hother p hp
    rw [contractsOf_treeOf, List.filterMap_eq_nil_iff] at this
    exact this p (by simp)
  · rfl

/-! ## Part by part -/

theorem guarded_split {o c : Operator} {P : Terminal → Bool} {d : Nat} {u w : List Token} (h : Guarded o c P d (u ++ w)) :
    Guarded o c P d u ∧ ∃ e, level o c d u = some e ∧ Guarded o c P e w := by
  induction u generalizing d with
  | nil => exact ⟨trivial, d, rfl, h⟩
  | cons t u ih =>
    obtain ⟨ht, d', hd, h⟩ := h
    obtain ⟨hu, e, he, hw⟩ := ih h
    exact ⟨⟨ht, d', hd, hu⟩, e, by rw [level, hd]; exact he, hw⟩

/-- No word of a contract stands outside braces. -/
abbrev Quiet (w : List Token) : Prop := Guarded .openBrace .closeBrace isContractWord 0 w

theorem IsCut.quiet (h : IsCut w segments rest) (hq : Quiet w) : (∀ s ∈ segments, ¬ Opens s) ∧ Quiet rest := by
  obtain ⟨rfl, hcloses, -⟩ := h
  induction segments with
  | nil => exact ⟨by simp, hq⟩
  | cons s segments ih =>
    rw [List.flatten_cons, List.append_assoc] at hq
    obtain ⟨hs, e, he, hw⟩ := guarded_split hq
    obtain rfl : e = 0 :=
      braces_of_closes [s] (by simpa using hcloses s List.mem_cons_self) (by simpa using he)
    obtain ⟨hsegments, hrest⟩ := ih (fun s hs => hcloses s (List.mem_cons_of_mem _ hs)) hw
    refine ⟨fun s' hs' => ?_, hrest⟩
    rcases List.mem_cons.mp hs' with rfl | hs'
    · exact not_opens hs
    · exact hsegments s' hs'

theorem IsCut.braces_rest (h : IsCut w segments rest) (hw : braces 0 w = some 0) : braces 0 rest = some 0 := by
  rw [h.whole, braces, level_append] at hw
  obtain ⟨e, he, hrest⟩ := Option.bind_eq_some_iff.mp hw
  obtain rfl := braces_of_closes _ h.closes he
  exact hrest

/-- Behind what ends an item nothing is left. -/
theorem IsCut.rest_nil (h : IsCut w segments rest) {x : List Token} {t : Token} (hw : w = x ++ [t])
    (ht : Ends (.ofToken t)) (hb : braces 0 w = some 0) : rest = [] := by
  refine (List.eq_nil_or_concat rest).resolve_right ?_
  rintro ⟨r, t', rfl⟩
  have hwhole := h.whole
  rw [hw, List.concat_eq_append, ← List.append_assoc] at hwhole
  obtain ⟨hx, ht'⟩ := List.append_inj' hwhole rfl
  injection ht' with ht'
  subst ht'
  have hends := ends_item ht (hw ▸ hb)
  have hu := h.unbroken
  rw [List.concat_eq_append, marks, List.map_append, unbroken_append] at hu
  rw [hx, marks, List.map_append, after_append, after_flatten h.closes, hu.2.1] at hends
  cases hends

/-- Where nothing ends nothing is cut off. -/
theorem nil_of_unbroken (hs : ∀ s ∈ segments, Closes .start (marks s)) {r : List Token}
    (h : Unbroken .start (marks (segments.flatten ++ r))) : segments = [] := by
  cases segments with
  | nil => rfl
  | cons s segments =>
    rw [List.flatten_cons, List.append_assoc, marks, List.map_append, unbroken_append] at h
    exact absurd h.1 (hs s List.mem_cons_self).not_unbroken

/-- What is cut off first goes beyond a beginning in which nothing ends, up to what ends a definition. -/
theorem IsCut.first {g y s : List Token} (h : IsCut (g ++ y) (s :: segments) rest) (hg : Unbroken .start (marks g)) :
    ∃ x t, s = g ++ (x ++ [t]) ∧ y = x ++ [t] ++ (segments.flatten ++ rest) ∧ Ends (.ofToken t) := by
  have hcloses := h.closes s List.mem_cons_self
  have hwhole := h.whole
  rw [List.flatten_cons, List.append_assoc] at hwhole
  rcases List.append_eq_append_iff.mp hwhole with ⟨y₁, rfl, hy⟩ | ⟨g₁, rfl, -⟩
  · have hne : y₁ ≠ [] := by
      rintro rfl
      rw [List.append_nil] at hcloses
      exact hcloses.not_unbroken hg
    obtain ⟨x, t, rfl, ht⟩ := ends_behind (ends_of_closes hcloses) hne
    exact ⟨x, t, rfl, hy, ht⟩
  · rw [marks, List.map_append, unbroken_append] at hg
    exact absurd hg.1 hcloses.not_unbroken

/-- What is cut off goes beyond a beginning in which nothing ends. -/
theorem IsCut.beyond {g y : List Token} (h : IsCut (g ++ y) segments rest) (hg : Unbroken .start (marks g))
    (hne : segments ≠ []) : ∃ y₁, segments.flatten = g ++ y₁ ∧ y = y₁ ++ rest ∧ y₁ ≠ [] := by
  have hwhole := h.whole
  rcases List.append_eq_append_iff.mp hwhole with ⟨y₁, hflat, hy⟩ | ⟨g₁, hflat, -⟩
  · refine ⟨y₁, hflat, hy, ?_⟩
    rintro rfl
    rw [List.append_nil] at hflat
    exact hne (nil_of_unbroken h.closes (r := []) (by rw [List.append_nil, hflat]; exact hg))
  · exact absurd (nil_of_unbroken h.closes (hflat ▸ hg)) hne

/-- Definitions end only inside parentheses. -/
abbrev Inside (w : List Token) : Prop := Guarded .openParen .closeParen (fun t => decide (Ends t)) 0 w

theorem Inside.parens {x y : List Token} {t : Token} (h : Inside (x ++ t :: y)) (ht : Ends (.ofToken t)) :
    ∃ k, parens 0 (x ++ [t]) = some (k + 1) := by
  obtain ⟨k, hk⟩ := h.inside (by simpa using ht)
  refine ⟨k, ?_⟩
  rw [Grammar.parens, level_append, hk]
  rcases ht with ht | ht
  · rw [ofToken_inj_operator ht]
    rfl
  · rw [ofToken_inj_operator ht]
    rfl

/-- An annotation: nothing of it is kept but that it is there. -/
def IsAnnotation (p : List Token × Value) : Prop := p.2.sourcePart? = some (.other .annotationCall)

/-- What stands between the last cut and the end of a part: nothing ends in it, and it has no contract. If
the cut is not inside parentheses, it is made of annotations. -/
structure Pending (before g : List Token) (a : Terminal) : Prop where
  unbroken : Unbroken .start (marks g)
  closed : braces 0 g = some 0
  quiet : Quiet g
  matched : parens 0 (before ++ g) = some 0
  annotations : parens 0 before = some 0 → ∃ ps, g = tokensOf ps ∧ (∀ p ∈ ps, IsAnnotation p) ∧ AreParts ps a

/-- What is cut off with a contract in it begins and ends outside parentheses. -/
def CutsMatch : List Token → List (List Token) → Prop
  | _, [] => True
  | before, s :: segments => (Opens s → ParensMatch before ∧ ParensMatch (before ++ s)) ∧ CutsMatch (before ++ s) segments

/-- What is cut off has all contracts if no contract is cut inside parentheses, and else fewer. -/
inductive Keeps (before : List Token) (segments : List (List Token)) (contracts : List Outline.Contract) : Prop
  | all : CutsMatch before segments → segments.flatMap contractsIn = contracts → Keeps before segments contracts
  | fewer : ¬ CutsMatch before segments → (segments.flatMap contractsIn).length < contracts.length →
      Keeps before segments contracts

variable {before g : List Token} {a : Terminal} {p : List Token × Value}

theorem cutsMatch_append {s₁ s₂ : List (List Token)} :
    CutsMatch before (s₁ ++ s₂) ↔ CutsMatch before s₁ ∧ CutsMatch (before ++ s₁.flatten) s₂ := by
  induction s₁ generalizing before with
  | nil => simp [CutsMatch]
  | cons s s₁ ih => simp only [List.cons_append, CutsMatch, ih, List.flatten_cons, List.append_assoc, and_assoc]

theorem cutsMatch_of_quiet (h : ∀ s ∈ segments, ¬ Opens s) : CutsMatch before segments := by
  induction segments generalizing before with
  | nil => trivial
  | cons s segments ih =>
    exact ⟨fun hs => absurd hs (h s List.mem_cons_self), ih fun s hs => h s (List.mem_cons_of_mem _ hs)⟩

theorem contracts_of_quiet (h : ∀ s ∈ segments, ¬ Opens s) : segments.flatMap contractsIn = [] :=
  List.flatMap_eq_nil_iff.mpr fun s hs => contractsIn_nil (h s hs)

theorem Keeps.of_quiet (h : ∀ s ∈ segments, ¬ Opens s) : Keeps before segments [] :=
  .all (cutsMatch_of_quiet h) (contracts_of_quiet h)

theorem Keeps.length_le {contracts : List Outline.Contract} (h : Keeps before segments contracts) :
    (segments.flatMap contractsIn).length ≤ contracts.length := by
  cases h with
  | all _ h => exact Nat.le_of_eq (congrArg List.length h)
  | fewer _ h => exact Nat.le_of_lt h

theorem Keeps.append {s₁ s₂ : List (List Token)} {c₁ c₂ : List Outline.Contract} (h₁ : Keeps before s₁ c₁)
    (h₂ : Keeps (before ++ s₁.flatten) s₂ c₂) : Keeps before (s₁ ++ s₂) (c₁ ++ c₂) := by
  have hle₁ := h₁.length_le
  have hle₂ := h₂.length_le
  cases h₁ with
  | fewer hcut hlt =>
    refine .fewer (fun h => hcut (cutsMatch_append.mp h).1) ?_
    rw [List.flatMap_append, List.length_append, List.length_append]
    omega
  | all hmatch heq =>
    cases h₂ with
    | fewer hcut hlt =>
      refine .fewer (fun h => hcut (cutsMatch_append.mp h).2) ?_
      rw [List.flatMap_append, List.length_append, List.length_append]
      omega
    | all hmatch' heq' => exact .all (cutsMatch_append.mpr ⟨hmatch, hmatch'⟩) (by rw [List.flatMap_append, heq, heq'])

theorem contractsOf_annotations {ps : List (List Token × Value)} (h : ∀ p ∈ ps, IsAnnotation p) :
    contractsOf (treeOf ps) = [] := by
  rw [contractsOf_treeOf, List.filterMap_eq_nil_iff]
  intro p hp
  rw [h p hp]
  rfl

theorem level_behind {o c : Operator} {u w : List Token} (hu : level o c 0 u = some 0) :
    level o c 0 (u ++ w) = level o c 0 w := by
  rw [level_append, hu]
  rfl

theorem parens_behind {u w : List Token} (hu : parens 0 u = some 0) : parens 0 (u ++ w) = parens 0 w := level_behind hu

theorem braces_behind {u w : List Token} (hu : braces 0 u = some 0) : braces 0 (u ++ w) = braces 0 w := level_behind hu

/-- Nothing is pending behind what ends outside parentheses. -/
theorem Pending.nil (h : parens 0 before = some 0) (a : Terminal) : Pending before [] a :=
  ⟨trivial, rfl, trivial, by rw [List.append_nil]; exact h, fun _ => ⟨[], rfl, by simp, trivial⟩⟩

/-- A part that is neither a contract nor an annotation is cut off, maybe in pieces, and is no contract. -/
theorem Pending.other (hp : Pending before g a) {y x : List Token} {t : Token} (hcut : IsCut (g ++ y) segments rest)
    (hy : y = x ++ [t]) (ht : Ends (.ofToken t)) (hquiet : Quiet y) (hbraces : braces 0 y = some 0)
    (hparens : parens 0 y = some 0) (b : Terminal) :
    (∀ s ∈ segments, ¬ Opens s) ∧ Pending (before ++ segments.flatten) rest b := by
  have hq : Quiet (g ++ y) := guarded_append hp.quiet hp.closed hquiet
  obtain rfl := hcut.rest_nil (x := g ++ x) (by rw [hy, List.append_assoc]) ht (by rw [braces_behind hp.closed, hbraces])
  refine ⟨(hcut.quiet hq).1, Pending.nil ?_ b⟩
  have hwhole := hcut.whole
  rw [List.append_nil] at hwhole
  rw [← hwhole, ← List.append_assoc, parens_behind hp.matched, hparens]

/-- An annotation is pending, or it is cut inside its parentheses. -/
theorem Pending.annotation {y : List Token} {v : Value} {b : Terminal} (hp : Pending before g (firstOf y b))
    (hcut : IsCut (g ++ y) segments rest) (hpart : IsPart y b v) (hmarked : IsAnnotation (y, v)) (hquiet : Quiet y)
    (hguarded : Inside y) (hbraces : braces 0 y = some 0)
    (hparens : parens 0 y = some 0) :
    (∀ s ∈ segments, ¬ Opens s) ∧ Pending (before ++ segments.flatten) rest b := by
  have hq : Quiet (g ++ y) := guarded_append hp.quiet hp.closed hquiet
  obtain ⟨hnone, hrest⟩ := hcut.quiet hq
  refine ⟨hnone, hcut.unbroken, hcut.braces_rest (by rw [braces_behind hp.closed, hbraces]), hrest, ?_, fun houtside => ?_⟩
  · rw [List.append_assoc, ← hcut.whole, ← List.append_assoc, parens_behind hp.matched, hparens]
  by_cases hne : segments = []
  · subst hne
    rw [List.flatten_nil, List.append_nil] at houtside
    obtain ⟨ps, rfl, hps, hparts⟩ := hp.annotations houtside
    refine ⟨ps ++ [(y, v)], ?_, ?_, ?_⟩
    · rw [← List.nil_append rest]
      exact hcut.whole.symm.trans (by simp [tokensOf])
    · intro q hq
      rcases List.mem_append.mp hq with hq | hq
      · exact hps q hq
      · rw [List.mem_singleton.mp hq]
        exact hmarked
    · rw [areParts_append]
      exact ⟨by simpa [tokensOf] using hparts, by simpa [tokensOf] using hpart, trivial⟩
  · -- the last cut is inside the annotation, where a parenthesis is open
    exfalso
    obtain ⟨y₁, hflat, hy, hy₁⟩ := hcut.beyond hp.unbroken hne
    obtain ⟨segments', s, rfl⟩ := (List.eq_nil_or_concat segments).resolve_left hne
    rw [List.concat_eq_append] at hcut hflat houtside
    obtain ⟨x, t, hs, ht⟩ := ends_of_closes (hcut.closes s (by simp))
    obtain ⟨y₂, t', rfl, ht⟩ := ends_behind ⟨segments'.flatten ++ x, t, by rw [← hflat]; simp [hs], ht⟩ hy₁
    rw [hy, List.append_assoc, List.singleton_append] at hguarded
    obtain ⟨k, hlevel⟩ := hguarded.parens ht
    rw [hflat, ← List.append_assoc, parens_behind hp.matched, hlevel] at houtside
    injection houtside with houtside
    exact Nat.succ_ne_zero k houtside

theorem count_abstract {x : List Token} (hx : ∀ t ∈ x, t = .keyword .kwAbstract) (o : Operator) :
    x.count (.operator o) = 0 := by
  refine List.count_eq_zero.mpr fun hmem => ?_
  cases hx _ hmem

theorem braces_words {x : List Token} {word : Token} (hx : ∀ t ∈ x, t = .keyword .kwAbstract)
    (hword : isContractWord (.ofToken word) = true) : braces 0 (x ++ [word]) = some 0 := by
  induction x with
  | nil =>
    have hopen : Terminal.ofToken word ≠ .operator .openBrace := by
      intro h
      rw [h] at hword
      cases hword
    have hclose : Terminal.ofToken word ≠ .operator .closeBrace := by
      intro h
      rw [h] at hword
      cases hword
    rw [List.nil_append, braces, level, bracket, if_neg hopen, if_neg hclose]
    rfl
  | cons t x ih =>
    rw [hx t List.mem_cons_self]
    exact ih fun t ht => hx t (List.mem_cons_of_mem _ ht)

theorem not_ends_abstract {x : List Token} {word : Token} (hx : ∀ t ∈ x, t = .keyword .kwAbstract)
    (hword : isContractWord (.ofToken word) = true) : ∀ t ∈ x ++ [word], ¬ Ends (.ofToken t) := by
  intro t ht
  rcases List.mem_append.mp ht with ht | ht
  · rw [hx t ht]
    decide
  · rw [List.mem_singleton.mp ht]
    intro hends
    rcases hends with hends | hends
    · rw [hends] at hword; cases hword
    · rw [hends] at hword; cases hword

/-- A cut inside a contract is inside the parentheses of its head. -/
theorem cut_in_head {head body y₁ r : List Token} (hb : braces 0 body = some 0) (hh : braces 0 head = some 0)
    (hguarded : Inside head)
    (hy : head ++ .operator .openBrace :: body ++ [.operator .closeBrace] = y₁ ++ r) (hr : r ≠ []) {g : List Token}
    (hg : braces 0 g = some 0) (hcloses : Closes .start (marks (g ++ y₁))) (hne : y₁ ≠ []) :
    ∃ k, parens 0 y₁ = some (k + 1) := by
  obtain ⟨y₂, t', rfl, ht⟩ := ends_behind (ends_of_closes hcloses) hne
  rw [List.append_assoc] at hy
  rcases List.append_eq_append_iff.mp hy with ⟨z, hy₁, hz⟩ | ⟨z, hhead, -⟩
  · -- beyond the brace that opens the body a brace is open
    cases z with
    | nil =>
      rw [List.append_nil] at hy₁
      rw [← hy₁] at hguarded
      exact hguarded.parens ht
    | cons b z =>
      exfalso
      obtain ⟨r', r₀, rfl⟩ := (List.eq_nil_or_concat r).resolve_left hr
      rw [List.concat_eq_append, List.cons_append, List.cons_append, ← List.append_assoc] at hz
      injection hz with hopen hz
      obtain ⟨hbody, -⟩ := List.append_inj' hz rfl
      rw [hbody, braces, level_append] at hb
      obtain ⟨e, he, -⟩ := Option.bind_eq_some_iff.mp hb
      have hlevel : braces 0 (g ++ (y₂ ++ [t'])) = some (e + 1) := by
        rw [hy₁, braces_behind hg, braces_behind hh, ← hopen]
        exact level_add (d := 0) he 1
      have := braces_of_closes [g ++ (y₂ ++ [t'])] (by simpa using hcloses) (by simpa using hlevel)
      exact absurd this (Nat.succ_ne_zero e)
  · rw [hhead, List.append_assoc, List.singleton_append] at hguarded
    exact hguarded.parens ht

/-! ## Cutting a contract -/

/-- Tokens with contracts are a file, so their parentheses match. -/
theorem parens_of_contracts {w : List Token} (h : contractsIn w ≠ []) : parens 0 w = some 0 := by
  unfold contractsIn at h
  split at h
  · rename_i tree hread
    rw [Reading.ofTokens_iff, tokens_map] at hread
    obtain ⟨ps, hps, rfl, -⟩ := sourceUnit_iff.mp hread
    exact level_areParts parens_balanced hps
  · exact absurd rfl h

/-- What is cut off first has contracts only if it begins and ends outside parentheses. -/
theorem outside_of_contracts {y₁ : List Token} {k : Nat} (hmatched : parens 0 (before ++ g) = some 0)
    (hk : parens 0 y₁ = some k) (h : contractsIn (g ++ y₁) ≠ []) : parens 0 before = some 0 ∧ k = 0 := by
  have hall := parens_of_contracts h
  rw [parens, level_append] at hall hmatched
  obtain ⟨e, he, hrest⟩ := Option.bind_eq_some_iff.mp hall
  obtain ⟨d, hd, hg⟩ := Option.bind_eq_some_iff.mp hmatched
  -- the pending tokens close what they open, so nothing was open before them
  have hsum : level .openParen .closeParen (0 + d) g = some (e + d) := level_add he d
  rw [Nat.zero_add, hg] at hsum
  injection hsum with hsum
  obtain rfl : d = 0 := by omega
  obtain rfl : e = 0 := by omega
  refine ⟨hd, ?_⟩
  have hsame : some k = some 0 := hk.symm.trans hrest
  injection hsame

/-- The first cut in a contract is behind the word that begins it. -/
theorem first_cut {x y : List Token} {word : Token} (hx : ∀ t ∈ x, t = .keyword .kwAbstract)
    (hword : isContractWord (.ofToken word) = true) (hunbroken : Unbroken .start (marks g)) (hclosed : braces 0 g = some 0)
    (hcut : IsCut (g ++ (x ++ word :: y)) segments []) :
    ∃ z segments', segments = (g ++ (x ++ word :: z)) :: segments' ∧ y = z ++ segments'.flatten ∧
      Opens (g ++ (x ++ word :: z)) := by
  obtain ⟨s, segments, rfl⟩ : ∃ s ss, segments = s :: ss := by
    refine List.exists_cons_of_ne_nil ?_
    rintro rfl
    have := hcut.whole
    simp at this
  obtain ⟨y₁, t, rfl, hy₁, ht⟩ := hcut.first hunbroken
  rw [List.append_nil] at hy₁
  obtain ⟨z, hz⟩ : ∃ z, y₁ ++ [t] = x ++ word :: z := by
    have hsplit : x ++ [word] ++ y = y₁ ++ [t] ++ segments.flatten := by rw [← hy₁]; simp
    rcases List.append_eq_append_iff.mp hsplit with ⟨z, hz, -⟩ | ⟨z, hz, -⟩
    · exact ⟨z, by rw [hz]; simp⟩
    · -- nothing ends before the word or with it
      exact absurd ht (not_ends_abstract hx hword t (by rw [hz]; simp))
  rw [hz] at hy₁ ⊢
  refine ⟨z, segments, rfl, ?_, g ++ x, word, z, by rw [List.append_assoc], hword, ?_⟩
  · rw [List.append_assoc, List.cons_append] at hy₁
    have := List.append_cancel_left hy₁
    injection this
  · have hcount := count_of_level (by decide) hclosed
    rw [List.count_append, List.count_append, count_abstract hx, count_abstract hx]
    omega

/-- A contract is read alone together with the annotations before it. -/
theorem Pending.contract_alone {y : List Token} {v : Value} {b : Terminal} (hp : Pending before g (firstOf y b))
    (hpart : IsPart y b v) (hc : Builds 0 [.nonterminal .contractDefinition] y b [v]) (houtside : parens 0 before = some 0) :
    contractsIn (g ++ y) = contractsOf (treeOf [(y, v)]) := by
  obtain ⟨x, word, y', body, hy, -⟩ := contract_shape hc
  obtain ⟨ps, rfl, hps, hparts⟩ := hp.annotations houtside
  have hnext : firstOf y .finish = firstOf y b := by rw [hy]; cases x <;> rfl
  have hall : AreParts (ps ++ [(y, v)]) .finish := by
    rw [areParts_append]
    refine ⟨?_, ?_, trivial⟩
    · simpa [tokensOf, hnext] using hparts
    · simpa [tokensOf] using hpart.at_end
  have hone := contractsIn_parts hall
  rw [contractsOf_append, contractsOf_annotations hps, List.nil_append] at hone
  rw [← hone]
  simp [tokensOf]

theorem contractsOf_contract {s : Nat} {y : List Token} {v : Value} {b : Terminal}
    (hc : Builds s [.nonterminal .contractDefinition] y b [v]) : (contractsOf (treeOf [(y, v)])).length = 1 := by
  obtain ⟨d, hd⟩ := contract_value hc
  rw [contractsOf_treeOf, List.filterMap_cons, hd]
  rfl

/-- Behind the first cut in a contract no other begins, and unless that cut is its end it leaves a parenthesis
open. -/
theorem Pending.cuts_of_contract {y : List Token} {v : Value} {b : Terminal} (hp : Pending before g (firstOf y b))
    (hcut : IsCut (g ++ y) segments []) (hc : Builds 0 [.nonterminal .contractDefinition] y b [v])
    (hparens : parens 0 y = some 0) :
    ∃ z segments' k, segments = (g ++ z) :: segments' ∧ y = z ++ segments'.flatten ∧ Opens (g ++ z) ∧
      (∀ s ∈ segments', ¬ Opens s) ∧ parens 0 z = some k ∧ (k = 0 → segments' = []) := by
  obtain ⟨x, word, y', body, hy, hx, hword, hinside, hhead, hbody, hquiet⟩ := contract_shape hc
  have hsplit : y = x ++ word :: (y' ++ .operator .openBrace :: body ++ [.operator .closeBrace]) := by rw [hy]; simp
  have hcut' := hcut
  rw [hsplit] at hcut'
  obtain ⟨z, segments', rfl, hz, hopens⟩ := first_cut hx hword hp.unbroken hp.closed hcut'
  have hcloses := hcut.closes _ List.mem_cons_self
  have hdone : y = x ++ word :: z ++ segments'.flatten := by rw [hsplit, hz]; simp
  have hrest : ∀ s ∈ segments', ¬ Opens s := by
    rw [hz] at hquiet
    obtain ⟨-, e, he, hquiet⟩ := guarded_split hquiet
    obtain rfl : e = 0 := by
      refine braces_of_closes [g ++ (x ++ word :: z)] (by simpa using hcloses) ?_
      have hwords : x ++ word :: z = x ++ [word] ++ z := by simp
      rw [List.flatten_cons, List.flatten_nil, List.append_nil, braces_behind hp.closed, hwords,
        braces_behind (braces_words hx hword)]
      exact he
    have hlater : IsCut segments'.flatten segments' [] :=
      ⟨by simp, fun s hs => hcut.closes s (List.mem_cons_of_mem _ hs), trivial⟩
    exact (hlater.quiet hquiet).1
  cases segments' with
  | nil => exact ⟨_, [], 0, rfl, hdone, hopens, hrest, by rw [← hparens, hdone]; simp, fun _ => rfl⟩
  | cons s' segments' =>
    have hne : (s' :: segments').flatten ≠ [] := by
      intro h
      obtain ⟨rfl, -⟩ := List.append_eq_nil_iff.mp h
      exact (hcut.closes [] (by simp)).ne_nil rfl
    obtain ⟨k, hk⟩ := cut_in_head hbody hhead hinside (hy ▸ hdone) hne hp.closed hcloses (by simp)
    exact ⟨_, _, k + 1, rfl, hdone, hopens, hrest, hk, fun h => absurd h (Nat.succ_ne_zero k)⟩

/-- A contract is cut off as a whole, with the annotations before it, or it is cut inside parentheses and
lost. -/
theorem Pending.contract {y : List Token} {v : Value} {b : Terminal} (hp : Pending before g (firstOf y b))
    (hcut : IsCut (g ++ y) segments rest) (hpart : IsPart y b v) (hc : Builds 0 [.nonterminal .contractDefinition] y b [v]) :
    Keeps before segments (contractsOf (treeOf [(y, v)])) ∧ Pending (before ++ segments.flatten) rest b := by
  have hbraces : braces 0 y = some 0 := Builds.level braces_balanced hpart (symbolLevel_nonterminal _ _ _ _)
  have hparens : parens 0 y = some 0 := Builds.level parens_balanced hpart (symbolLevel_nonterminal _ _ _ _)
  obtain ⟨x, word, y', body, hy, -⟩ := contract_shape hc
  obtain rfl := hcut.rest_nil (x := g ++ (x ++ word :: y' ++ .operator .openBrace :: body)) (t := .operator .closeBrace)
    (by rw [hy]; simp) (Or.inl rfl) (by rw [braces_behind hp.closed, hbraces])
  constructor
  swap
  · have hwhole := hcut.whole
    rw [List.append_nil] at hwhole
    rw [← hwhole, ← List.append_assoc]
    exact Pending.nil (by rw [parens_behind hp.matched, hparens]) b
  obtain ⟨z, segments', k, rfl, hdone, hopens, hrest, hk, hend⟩ := hp.cuts_of_contract hcut hc hparens
  by_cases hmatch : CutsMatch before ((g ++ z) :: segments')
  · obtain ⟨hbefore, hafter⟩ := hmatch.1 hopens
    have houtside : parens 0 before = some 0 := by
      have := hp.matched
      rw [parens, level_append] at this
      obtain ⟨d, hd, -⟩ := Option.bind_eq_some_iff.mp this
      rw [parens, hd, parens_of_match hd hbefore]
    have hzero : k = 0 := by
      rw [← List.append_assoc] at hafter
      exact parens_of_match (by rw [parens_behind hp.matched, hk]) hafter
    obtain rfl := hend hzero
    refine .all hmatch ?_
    rw [List.flatten_nil, List.append_nil] at hdone
    rw [← hdone, List.flatMap_cons, List.flatMap_nil, List.append_nil]
    exact hp.contract_alone hpart hc houtside
  · refine .fewer hmatch ?_
    have hnone : contractsIn (g ++ z) = [] := by
      by_contra hsome
      obtain ⟨houtside, hzero⟩ := outside_of_contracts hp.matched hk hsome
      obtain rfl := hend hzero
      rw [List.flatten_nil, List.append_nil] at hdone
      refine hmatch ⟨fun _ => ⟨match_of_parens houtside, ?_⟩, trivial⟩
      rw [← hdone, ← List.append_assoc]
      exact match_of_parens (by rw [parens_behind hp.matched, hparens])
    rw [List.flatMap_cons, hnone, contracts_of_quiet hrest, contractsOf_contract hc]
    decide

/-- A part is cut off, or pending, and its contracts are those of what is cut off. -/
theorem Pending.part {y : List Token} {v : Value} {b : Terminal} (hp : Pending before g (firstOf y b))
    (hcut : IsCut (g ++ y) segments rest) (hpart : IsPart y b v) :
    Keeps before segments (contractsOf (treeOf [(y, v)])) ∧ Pending (before ++ segments.flatten) rest b := by
  have hbraces : braces 0 y = some 0 := Builds.level braces_balanced hpart (symbolLevel_nonterminal _ _ _ _)
  have hparens : parens 0 y = some 0 := Builds.level parens_balanced hpart (symbolLevel_nonterminal _ _ _ _)
  rcases hpart.kinds with hc | ⟨hv, us, hmarked⟩ | ⟨kind, x, t, rfl, hy, ht, hquiet⟩
  · exact hp.contract hcut hpart hc
  · rw [@contractsOf_other (y, v) _ hv]
    refine And.imp_left Keeps.of_quiet (hp.annotation hcut hpart hv ?_ ?_ hbraces hparens)
    · exact Builds.guarded braces_balanced words_guarded hmarked rfl
    · exact Builds.guarded parens_balanced head_guarded hmarked rfl
  · rw [@contractsOf_other (y, _) kind rfl]
    exact And.imp_left Keeps.of_quiet (hp.other hcut hy ht hquiet hbraces hparens b)

/-- What is cut off a file has its contracts, unless one is cut inside parentheses, and what is left behind the
last cut is pending. -/
theorem contracts_cut {ps : List (List Token × Value)} (hps : AreParts ps .finish)
    (hp : Pending before g (firstOf (tokensOf ps) .finish)) (hcut : IsCut (g ++ tokensOf ps) segments rest) :
    Keeps before segments (contractsOf (treeOf ps)) ∧ Pending (before ++ segments.flatten) rest .finish := by
  induction ps generalizing before g segments with
  | nil =>
    have hnone : IsCut (g ++ []) [] g := ⟨by simp, by simp, hp.unbroken⟩
    obtain ⟨rfl, rfl⟩ := hcut.unique hnone
    rw [List.flatten_nil, List.append_nil]
    exact ⟨Keeps.of_quiet (by simp), hp⟩
  | cons p ps ih =>
    obtain ⟨y, v⟩ := p
    obtain ⟨hpart, hps⟩ := hps
    obtain ⟨s₁, g', h₁⟩ := exists_isCut (g ++ y)
    obtain ⟨s₂, rest', h₂⟩ := exists_isCut (g' ++ tokensOf ps)
    have hboth := h₁.append h₂
    rw [List.append_assoc] at hboth
    obtain ⟨rfl, rfl⟩ := hcut.unique hboth
    rw [tokensOf, List.flatMap_cons, firstOf_append] at hp
    obtain ⟨hfirst, hp'⟩ := hp.part h₁ hpart
    obtain ⟨hrest, hend⟩ := ih hps hp' h₂
    rw [← List.singleton_append, contractsOf_append, List.flatten_append, ← List.append_assoc]
    exact ⟨hfirst.append hrest, hend⟩

/-! ## What is pending before a file -/

/-- If what is pending is a file together with tokens behind it, those are a file. -/
theorem Pending.cancel {r : List Token} (hp : Pending before g a) (h : IsFile (g ++ r)) : IsFile r := by
  have hmatched := hp.matched
  rw [parens, level_append] at hmatched
  obtain ⟨k, hk, hg⟩ := Option.bind_eq_some_iff.mp hmatched
  cases k with
  | zero =>
    obtain ⟨ps, rfl, -, hps⟩ := hp.annotations hk
    exact hps.cancel h
  | succ k =>
    -- a parenthesis would be closed that is not open
    exfalso
    obtain ⟨qs, hqs, h⟩ := h
    have hall := level_areParts parens_balanced hqs
    rw [h, level_append] at hall
    obtain ⟨e, he, -⟩ := Option.bind_eq_some_iff.mp hall
    have hcount := count_of_level (by decide) hg
    have hcount' := count_of_level (by decide) he
    omega

end SoliditySchema
