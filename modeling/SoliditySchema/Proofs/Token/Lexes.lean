/-
  SoliditySchema.Proofs.Token.Lexes — a text that is read lexeme by lexeme.

  `Lexes phase x u w phase'` says that before the text `u` the text `x` is read without a fault, to the
  tokens `w`, from one phase to another. It goes together with what is read behind it (`Lexes.append`,
  `Lexes.split`), depends on no more than the sight of `u` (`Lexes.of_sight`), and holds of a text to its end
  exactly if the scan of it has no fault (`scan_iff`).
-/

import Mathlib.Data.List.Basic
import SoliditySchema.Proofs.Token.Lexeme

namespace SoliditySchema

/-! ## One lexeme -/

section Reads

variable {version : Bool} {x u x' u' : List Char} {t t' : Option Token}

theorem Reads.ne_nil (h : Reads version x u t) : x ≠ [] := by
  obtain ⟨c, y, l, rfl, -⟩ := h
  simp

theorem Reads.isLexeme (h : Reads version x u t) : IsLexeme version x u t := by
  obtain ⟨c, y, l, rfl, hat, hlength, hfault, rfl⟩ := h
  obtain ⟨y', u', hsplit, hlength', hlexeme⟩ := atStart_begins hat hfault
  have hsame : y.length = y'.length := by
    rw [hlength, List.length_cons] at hlength'
    omega
  obtain ⟨rfl, rfl⟩ := List.append_inj hsplit hsame
  exact hlexeme

/-- What a text begins with is one lexeme. -/
theorem Reads.unique (h : Reads version x u t) (h' : Reads version x' u' t') (htext : x ++ u = x' ++ u') :
    x = x' ∧ u = u' ∧ t = t' := by
  obtain ⟨c, y, l, rfl, hat, hlength, -, rfl⟩ := h
  obtain ⟨c', y', l', rfl, hat', hlength', -, rfl⟩ := h'
  rw [List.cons_append, List.cons_append] at htext
  injection htext with hc hrest
  subst hc
  have hl : l = l' := by rw [← hat, ← hat', hrest]
  subst hl
  have hsame : y.length = y'.length := by
    rw [hlength] at hlength'
    simpa using hlength'
  obtain ⟨rfl, rfl⟩ := List.append_inj hrest hsame
  exact ⟨rfl, rfl, rfl⟩

end Reads

/-! ## Lexeme by lexeme -/

/-- The phase behind a lexeme. -/
def PragmaPhase.behind (phase : PragmaPhase) (t : Option Token) : PragmaPhase := (t.map phase.next).getD phase

/-- Before another text a text is read without a fault: its tokens, and the phase behind it. -/
inductive Lexes : PragmaPhase → List Char → List Char → List Token → PragmaPhase → Prop
  | nil {phase : PragmaPhase} {u : List Char} : Lexes phase [] u [] phase
  | cons {phase phase' : PragmaPhase} {x y u : List Char} {t : Option Token} {w : List Token} :
      Reads (phase == .version) x (y ++ u) t → Lexes (phase.behind t) y u w phase' →
      Lexes phase (x ++ y) u (t.toList ++ w) phase'

section Lexes

variable {phase phase₁ phase₂ : PragmaPhase} {x y u v : List Char} {w w' : List Token}

theorem Lexes.single {t : Option Token} (h : Reads (phase == .version) x u t) : Lexes phase x u t.toList (phase.behind t) := by
  have := @Lexes.cons phase (phase.behind t) x [] u t [] (by simpa using h) Lexes.nil
  rwa [List.append_nil, List.append_nil] at this

theorem Lexes.append (h : Lexes phase x (y ++ u) w phase₁) (h' : Lexes phase₁ y u w' phase₂) :
    Lexes phase (x ++ y) u (w ++ w') phase₂ := by
  generalize hz : y ++ u = z at h
  induction h with
  | nil => exact h'
  | cons hread _ ih =>
    subst hz
    rw [List.append_assoc, List.append_assoc]
    exact Lexes.cons (by rwa [List.append_assoc]) (ih h' rfl)

/-- White space is read to no token. -/
theorem lexes_blank (h : Text.isBlankText x = true) (u : List Char) : Lexes .outside x u [] .outside := by
  induction x with
  | nil => exact .nil
  | cons c x ih =>
    rw [Text.isBlankText, List.all_cons, Bool.and_eq_true] at h
    have hread : Reads (PragmaPhase.outside == .version) [c] (x ++ u) none :=
      ⟨c, [], .blank 1, rfl, by rw [Lexeme.atStart, if_pos h.1], rfl, rfl, rfl⟩
    exact Lexes.cons hread (ih h.2)

/-- A text that looks the same behind it changes nothing. -/
theorem Lexes.of_sight (h : Lexes phase x u w phase₁) (hv : sight v = sight u) : Lexes phase x v w phase₁ := by
  induction h with
  | nil => exact Lexes.nil
  | cons hread _ ih => exact Lexes.cons (hread.isLexeme.reads _ (sight_append hv _)) (ih hv)

/-- Behind the beginning of a text the rest of it is read. -/
theorem Lexes.split (h : Lexes phase x (y ++ u) w phase₁) (hall : Lexes phase (x ++ y) u w' phase₂) :
    ∃ w₂, w' = w ++ w₂ ∧ Lexes phase₁ y u w₂ phase₂ := by
  generalize hz : y ++ u = z at h
  induction h generalizing w' with
  | nil => exact ⟨w', rfl, hall⟩
  | @cons phase phase' x x' u' t ts hread _ ih =>
    subst hz
    generalize htext : x ++ x' ++ y = text at hall
    cases hall with
    | nil =>
      have := hread.ne_nil
      simp_all
    | @cons _ _ x₂ y₂ _ t₂ w₂ hread₂ hrest₂ =>
      have hsame : x ++ (x' ++ (y ++ u)) = x₂ ++ (y₂ ++ u) := by
        rw [← List.append_assoc x₂, ← htext]
        simp only [List.append_assoc]
      obtain ⟨rfl, hrest, rfl⟩ := hread.unique hread₂ hsame
      obtain rfl : x' ++ y = y₂ := by
        rw [← List.append_assoc] at hrest
        exact List.append_cancel_right hrest
      obtain ⟨w₃, rfl, h₃⟩ := ih hrest₂ rfl
      exact ⟨w₃, by simp, h₃⟩

/-- The phase is that of the tokens. -/
theorem Lexes.phase_eq (h : Lexes phase x u w phase₁) : phase₁ = w.foldl PragmaPhase.next phase := by
  induction h with
  | nil => rfl
  | @cons _ _ _ _ _ t _ _ _ ih =>
    rw [ih, List.foldl_append]
    cases t <;> rfl

end Lexes

/-! ## The scan of a text -/

namespace Scan

/-- The characters that still belong to a lexeme are gone over. -/
theorem ofSuffix_skip (phase : PragmaPhase) (y u : List Char) (start : Nat) :
    ofSuffix phase start y.length (y ++ u) = ofSuffix phase (start + Text.byteLength y) 0 u := by
  induction y generalizing start with
  | nil => rfl
  | cons c y ih =>
    have hstart : start + Text.byteLength (c :: y) = start + c.utf8Size + Text.byteLength y := (Nat.add_assoc _ _ _).symm
    rw [hstart, ← ih]
    rfl

theorem faults_addLexeme (l : Lexeme) (cs : List Char) (start : Nat) (after : Scan) :
    (addLexeme l cs start after).faults = [] ↔ l.fault = none ∧ after.faults = [] := by
  simp [addLexeme]

theorem tokens_addLexeme (l : Lexeme) (cs : List Char) (start : Nat) (after : Scan) :
    (addLexeme l cs start after).tokens.map PlacedToken.token =
      (l.token.map Prod.fst).toList ++ after.tokens.map PlacedToken.token := by
  rw [addLexeme, List.map_append]
  cases l.token <;> rfl

theorem ofSuffix_cons {phase : PragmaPhase} {start : Nat} {c : Char} {cs : List Char} {l : Lexeme}
    (hl : Lexeme.atStart (phase == .version) c cs = l) :
    ofSuffix phase start 0 (c :: cs) =
      addLexeme l (c :: cs) start (ofSuffix (phase.behind (l.token.map Prod.fst)) (start + c.utf8Size) (l.length - 1) cs) := by
  rw [ofSuffix.eq_def]
  simp only [hl, PragmaPhase.behind, Option.map_map]
  rfl

theorem lexes_of_scan {phase : PragmaPhase} {start : Nat} {text : List Char} (h : (ofSuffix phase start 0 text).faults = []) :
    ∃ phase', Lexes phase text [] ((ofSuffix phase start 0 text).tokens.map PlacedToken.token) phase' := by
  induction hn : text.length using Nat.strongRecOn generalizing phase start text with
  | ind n ih =>
    cases text with
    | nil => exact ⟨phase, Lexes.nil⟩
    | cons c cs =>
      generalize hl : Lexeme.atStart (phase == .version) c cs = l
      rw [ofSuffix_cons hl, faults_addLexeme] at h
      obtain ⟨y, u, rfl, hlength, hlexeme⟩ := atStart_begins hl h.1
      rw [hlength, Nat.add_sub_cancel] at h
      have hskip := ofSuffix_skip (phase.behind (l.token.map Prod.fst)) y u (start + c.utf8Size)
      rw [hskip] at h
      have hlt : u.length < n := by
        rw [← hn, List.length_cons, List.length_append]
        omega
      obtain ⟨phase', hrest⟩ := ih _ hlt h.2 rfl
      refine ⟨phase', ?_⟩
      rw [ofSuffix_cons hl, tokens_addLexeme, hlength, Nat.add_sub_cancel, hskip]
      have hread := hlexeme.reads u rfl
      exact Lexes.cons (by rwa [List.append_nil]) hrest

theorem scan_of_lexes {phase phase' : PragmaPhase} {start : Nat} {text : List Char} {w : List Token}
    (h : Lexes phase text [] w phase') :
    (ofSuffix phase start 0 text).faults = [] ∧ (ofSuffix phase start 0 text).tokens.map PlacedToken.token = w := by
  generalize hu : ([] : List Char) = u at h
  induction h generalizing start with
  | nil => exact ⟨rfl, rfl⟩
  | @cons phase phase' x y u t w hread _ ih =>
    subst hu
    obtain ⟨c, x, l, rfl, hat, hlength, hfault, rfl⟩ := hread
    rw [List.append_nil] at hat
    have hskip := ofSuffix_skip (phase.behind (l.token.map Prod.fst)) x y (start + c.utf8Size)
    have hlength : l.length - 1 = x.length := by rw [hlength]; rfl
    obtain ⟨hfaults, htokens⟩ := @ih (start + c.utf8Size + Text.byteLength x) rfl
    rw [List.cons_append, ofSuffix_cons hat, faults_addLexeme, tokens_addLexeme, hlength, hskip]
    exact ⟨⟨hfault, hfaults⟩, by rw [htokens]⟩

/-- The scan of a text that begins without a fault: the tokens of its beginning, and then the scan of the rest. -/
theorem ofSuffix_of_lexes {phase phase' : PragmaPhase} {x u : List Char} {w : List Token} (h : Lexes phase x u w phase')
    (start : Nat) :
    ∃ tokens : List PlacedToken, tokens.map PlacedToken.token = w ∧ ofSuffix phase start 0 (x ++ u) =
      ⟨tokens ++ (ofSuffix phase' (start + Text.byteLength x) 0 u).tokens,
        (ofSuffix phase' (start + Text.byteLength x) 0 u).faults⟩ := by
  induction h generalizing start with
  | nil => exact ⟨[], rfl, rfl⟩
  | @cons phase phase' x y u t w hread _ ih =>
    obtain ⟨c, x, l, rfl, hat, hlength, hfault, rfl⟩ := hread
    obtain ⟨tokens, htokens, hrest⟩ := ih (start + c.utf8Size + Text.byteLength x)
    have hlength : l.length - 1 = x.length := by rw [hlength]; rfl
    have hstart : start + Text.byteLength ((c :: x) ++ y) = start + c.utf8Size + Text.byteLength x + Text.byteLength y := by
      rw [Text.byteLength_append, Text.byteLength_cons]
      omega
    rw [List.append_assoc, List.cons_append, ofSuffix_cons hat, hlength, ofSuffix_skip, hrest, hstart, addLexeme, hfault]
    refine ⟨_, ?_, congrArg₂ Scan.mk (List.append_assoc _ tokens _).symm rfl⟩
    rw [List.map_append, htokens]
    cases l.token <;> rfl

/-- The scan of a text has no fault exactly if the text is read lexeme by lexeme to its end. -/
theorem scan_iff {text : List Char} {w : List Token} :
    ((ofText text).faults = [] ∧ (ofText text).tokens.map PlacedToken.token = w) ↔ ∃ phase, Lexes .outside text [] w phase := by
  constructor
  · rintro ⟨hfaults, rfl⟩
    exact lexes_of_scan hfaults
  · rintro ⟨phase, h⟩
    exact scan_of_lexes h

end Scan

end SoliditySchema
