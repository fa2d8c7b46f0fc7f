/-
  SoliditySchema.Proofs.Token.Lexeme — what a lexeme is, and how little of the text behind it matters.

  A lexeme without a fault is read in the same way before any text of which the lexer would see the same:
  the first character, and behind a point the second one (`sight`). What the cutting of a text into items
  sees of it follows from its `Shape`: most lexemes have no character that matters to the cutting; the others
  are a slash, a comment, a literal, or one of the three marks themselves. `atStart_begins` says both of
  whatever a text begins with.
-/

import Mathlib.Data.List.Basic
import SoliditySchema.Proofs.Item.Pieces
import SoliditySchema.Proofs.Token.Operator
import SoliditySchema.Token.Lexeme

namespace SoliditySchema

open Cursor

namespace Token

/-- The character that the cutting of a text sees of a token. -/
def mark : Token → Char
  | .operator .openBrace => '{'
  | .operator .closeBrace => '}'
  | .operator .semicolon => ';'
  | _ => 'a'

/-- The characters that the cutting of a text sees of tokens. -/
abbrev marks (w : List Token) : List Char := w.map mark

end Token

open Token (mark marks)

/-! ## What is seen of a text -/

/-- What a lexeme can depend on of the text behind it. The end of the text looks like a line feed. -/
def sight : List Char → Char × Char
  | [] => ('\n', '\n')
  | ['.'] => ('.', '\n')
  | '.' :: d :: _ => ('.', d)
  | c :: _ => (c, '\n')

theorem sight_fst (u : List Char) : (sight u).1 = u.headD '\n' := by
  unfold sight
  split <;> rfl

theorem sight_of_ne {c : Char} (h : c ≠ '.') (u : List Char) : sight (c :: u) = (c, '\n') := by
  unfold sight
  split
  · rename_i heq; cases heq
  · rename_i heq; injection heq with hc; exact absurd hc h
  · rename_i heq; injection heq with hc; exact absurd hc h
  · rename_i heq; injection heq with hc; rw [hc]

/-- Behind a character the end of the text looks like what looks like it. -/
theorem sight_append {u v : List Char} (h : sight u = sight v) (y : List Char) : sight (y ++ u) = sight (y ++ v) := by
  cases y with
  | nil => exact h
  | cons c y =>
    by_cases hc : c = '.'
    · subst hc
      cases y with
      | cons d y => rfl
      | nil =>
        have hhead : u.headD '\n' = v.headD '\n' := by rw [← sight_fst, ← sight_fst, h]
        have hpoint : ∀ u : List Char, sight ('.' :: u) = ('.', u.headD '\n') := by
          intro u
          cases u <;> rfl
        rw [List.singleton_append, List.singleton_append, hpoint, hpoint, hhead]
    · rw [List.cons_append, List.cons_append, sight_of_ne hc, sight_of_ne hc]

/-- A text does not begin with a character of a class. -/
def Avoids (p : Char → Bool) (u : List Char) : Prop := ∀ c ∈ u.head?, p c = false

theorem avoids_iff {p : Char → Bool} (hp : p '\n' = false) (u : List Char) : Avoids p u ↔ p (sight u).1 = false := by
  rw [sight_fst]
  cases u with
  | nil => simp [Avoids, hp]
  | cons c u => simp [Avoids]

theorem Avoids.of_sight {p : Char → Bool} {u v : List Char} (h : Avoids p u) (hv : sight v = sight u)
    (hp : p '\n' = false) : Avoids p v := by
  rw [avoids_iff hp] at h ⊢
  rw [hv]
  exact h

/-! ## Runs of characters -/

theorem exists_run (p : Char → Bool) (cs : List Char) :
    ∃ y u, cs = y ++ u ∧ cs.takeWhile p = y ∧ (∀ c ∈ y, p c = true) ∧ Avoids p u := by
  induction cs with
  | nil => exact ⟨[], [], rfl, rfl, by simp, by simp [Avoids]⟩
  | cons c cs ih =>
    cases hc : p c with
    | true =>
      obtain ⟨y, u, rfl, htake, hy, hu⟩ := ih
      refine ⟨c :: y, u, rfl, by rw [List.takeWhile_cons_of_pos hc, htake], ?_, hu⟩
      intro d hd
      rcases List.mem_cons.mp hd with rfl | hd
      · exact hc
      · exact hy d hd
    | false =>
      refine ⟨[], c :: cs, rfl, List.takeWhile_cons_of_neg (by simp [hc]), by simp, ?_⟩
      simpa [Avoids] using hc

theorem takeWhile_run {p : Char → Bool} {y u : List Char} (hy : ∀ c ∈ y, p c = true) (hu : Avoids p u) :
    (y ++ u).takeWhile p = y := by
  rw [List.takeWhile_append_of_pos hy]
  cases u with
  | nil => simp
  | cons c u =>
    have hc : p c = false := hu c rfl
    rw [List.takeWhile_cons_of_neg (by simp [hc]), List.append_nil]

/-! ## Shapes -/

/-- A character that does not matter to the cutting of a text. -/
def isPlain (c : Char) : Bool := c != '/' && c != '"' && c != '\'' && c != '{' && c != '}' && c != ';'

/-- The tokens are none that matters to the cutting. -/
def Unmarked (t : Option Token) : Prop := ∀ x ∈ t, mark x = 'a'

/-- The address literals that the cutting of a text reads as the lexer does: it is in code behind them. -/
def CutsAddress (t : Option Token) : Prop :=
  ∀ raw, t = some (.addressText raw) → (Cursor.start.after raw.toList).region = .code

/-- What the cutting of a text can see of a lexeme, and of what comes behind it. -/
inductive Shape : List Char → List Char → Option Token → Prop
  | plain {x u : List Char} {t : Option Token} : (∀ c ∈ x, isPlain c = true) → ('\n' ∉ x ∨ x = ['\n']) → Unmarked t → Shape x u t
  | slash {u : List Char} : Avoids (fun c => c == '/' || c == '*') u → Shape ['/'] u (some (.operator .slash))
  | slashAssign {u : List Char} : Shape ['/', '='] u (some (.operator .slashAssign))
  | lineComment {w u : List Char} : '\n' ∉ w → Avoids (fun c => c != '\n' && c != '\r') u → Shape ('/' :: '/' :: w) u none
  | blockComment {w u : List Char} :
      (∀ d, Unbroken ⟨.blockComment, d⟩ w ∧ (⟨.blockComment, d⟩ : Cursor).after w = ⟨.code, d⟩) →
      Shape ('/' :: '*' :: w) u none
  | literal {word w u : List Char} {q : Char} {t : Token} : (∀ c ∈ word, isPlain c = true ∧ c ≠ '\n') →
      (q = '"' ∨ q = '\'') → mark t = 'a' →
      (CutsAddress (some t) →
        ∀ d, Unbroken ⟨.quoted q, d⟩ w ∧ (⟨.quoted q, d⟩ : Cursor).after w = ⟨.code, d⟩) →
      Shape (word ++ q :: w) u (some t)
  | mark {c : Char} {u : List Char} {t : Token} : (c = '{' ∨ c = '}' ∨ c = ';') → t.mark = c → Shape [c] u (some t)

/-- A text begins with a lexeme without a fault: its characters, what is behind them, and its token. -/
def Reads (version : Bool) (x u : List Char) (t : Option Token) : Prop :=
  ∃ c y l, x = c :: y ∧ Lexeme.atStart version c (y ++ u) = l ∧ l.length = x.length ∧ l.fault = none ∧
    l.token.map Prod.fst = t

/-- A lexeme that is read alike before all texts that look the same. -/
structure IsLexeme (version : Bool) (x u : List Char) (t : Option Token) : Prop where
  reads : ∀ v, sight v = sight u → Reads version x v t
  shape : Shape x u t

/-- A text begins with a lexeme of a given length and token. -/
def Begins (version : Bool) (c : Char) (cs : List Char) (l : Lexeme) : Prop :=
  ∃ y u, cs = y ++ u ∧ l.length = y.length + 1 ∧ IsLexeme version (c :: y) u (l.token.map Prod.fst)

/-! ## Characters of a class -/

theorem plain_of_class {p : Char → Bool} (hp : ['/', '"', '\'', '{', '}', ';'].any p = false) {c : Char} (h : p c = true) :
    isPlain c = true := by
  by_contra hc
  simp only [isPlain, Bool.and_eq_true, bne_iff_ne, ne_eq, not_and, Classical.not_not] at hc
  have hmem : c ∈ ['/', '"', '\'', '{', '}', ';'] := by
    simp only [List.mem_cons, List.not_mem_nil, or_false]
    tauto
  exact List.any_eq_false.mp hp c hmem h

theorem ne_newline_of_class {p : Char → Bool} (hp : p '\n' = false) {c : Char} (h : p c = true) : c ≠ '\n' := by
  rintro rfl
  rw [hp] at h
  cases h

/-- A run of characters of a class that has none that matters is a plain lexeme. -/
theorem Shape.of_class {p : Char → Bool} (hp : ['/', '"', '\'', '{', '}', ';'].any p = false) (hn : p '\n' = false)
    {x u : List Char} {t : Option Token} (hx : ∀ c ∈ x, p c = true) (ht : Unmarked t) : Shape x u t :=
  Shape.plain (fun c hc => plain_of_class hp (hx c hc)) (Or.inl fun h => ne_newline_of_class hn (hx _ h) rfl) ht

theorem continue_plain : ['/', '"', '\'', '{', '}', ';'].any Text.isIdentifierContinue = false := by decide

theorem continue_newline : Text.isIdentifierContinue '\n' = false := by decide

theorem continue_of_start {c : Char} (h : Text.isIdentifierStart c = true) : isPlain c = true ∧ c ≠ '\n' :=
  ⟨plain_of_class (p := Text.isIdentifierStart) (by decide) h,
    ne_newline_of_class (p := Text.isIdentifierStart) (by decide) h⟩

theorem digitPart_newline : Lexeme.isDigitPart '\n' = false := by decide

theorem hexPart_newline : Lexeme.isHexPart '\n' = false := by decide

/-! ## Literals -/

/-- A literal is read up to the quote that closes its text. -/
theorem quoted_iff {q : Char} (hq : q ≠ '\\') {cs raw : List Char} :
    Lexeme.quoted? q cs = some raw ↔ Enclosed q raw ∧ ∃ u, cs = raw ++ q :: u := by
  constructor
  · intro h
    fun_induction Lexeme.quoted? q cs generalizing raw with
    | case1 => cases h
    | case2 c cs ih =>
      obtain ⟨r, hr, rfl⟩ := Option.map_eq_some_iff.mp h
      obtain ⟨hinside, u, rfl⟩ := ih hr
      exact ⟨.escape c hinside, u, rfl⟩
    | case3 cs =>
      rw [← Option.some_inj.mp h]
      exact ⟨.nil, cs, rfl⟩
    | case4 c cs hne hc ih =>
      obtain ⟨r, hr, rfl⟩ := Option.map_eq_some_iff.mp h
      obtain ⟨hinside, u, rfl⟩ := ih hr
      have hbackslash : c ≠ '\\' := by
        rintro rfl
        obtain ⟨d, rest, hrest⟩ := List.exists_cons_of_ne_nil (show r ++ q :: u ≠ [] by simp)
        exact hne d rest rfl hrest
      exact ⟨.plain hc hbackslash hinside, u, rfl⟩
  · rintro ⟨hinside, u, rfl⟩
    -- a character that is no backslash is read by itself
    have hstep : ∀ {c : Char} {cs : List Char}, c ≠ '\\' →
        Lexeme.quoted? q (c :: cs) = if c = q then some [] else (Lexeme.quoted? q cs).map (c :: ·) := by
      intro c cs hc
      rw [Lexeme.quoted?.eq_def]
      split
      · rename_i heq; cases heq
      · rename_i heq; injection heq with heq; exact absurd heq hc
      · rename_i heq; injection heq with h1 h2; rw [h1, h2]
    induction hinside with
    | nil => rw [List.nil_append, hstep hq, if_pos rfl]
    | @plain c w hc he _ ih =>
      rw [List.cons_append, hstep he, if_neg hc, ih]
      rfl
    | @escape c w _ ih =>
      rw [List.cons_append, List.cons_append, Lexeme.quoted?, ih]
      rfl

theorem enclosed_hex {q : Char} (hq : q = '"' ∨ q = '\'') {w : List Char} (hw : ∀ c ∈ w, Lexeme.isHexPart c = true) :
    Enclosed q w := by
  have hnone : ∀ c, Lexeme.isHexPart c = false → c ∉ w := by
    intro c hc hmem
    rw [hw c hmem] at hc
    cases hc
  refine .of_not_mem (hnone q ?_) (hnone _ (by decide))
  rcases hq with rfl | rfl <;> decide

theorem after_plain {x : List Char} (hx : ∀ c ∈ x, isPlain c = true) (d : Nat) :
    Unbroken ⟨.code, d⟩ x ∧ (⟨.code, d⟩ : Cursor).after x = ⟨.code, d⟩ := by
  induction x with
  | nil => exact ⟨trivial, rfl⟩
  | cons c x ih =>
    have hc := hx c List.mem_cons_self
    simp only [isPlain, Bool.and_eq_true, bne_iff_ne] at hc
    obtain ⟨⟨⟨⟨⟨h1, h2⟩, h3⟩, h4⟩, h5⟩, h6⟩ := hc
    have hstep : (⟨.code, d⟩ : Cursor).step c = (⟨.code, d⟩, false) := by
      simp [Cursor.step, stepCode, h1, h2, h3, h4, h5, h6]
    obtain ⟨hu, ho⟩ := ih fun c hc => hx c (List.mem_cons_of_mem _ hc)
    rw [unbroken_cons, after_cons, hstep]
    exact ⟨⟨rfl, hu⟩, ho⟩

/-! ## Words -/

section Words

variable {version : Bool} {c : Char} {y u : List Char}

theorem atStart_word (version : Bool) (hblank : Text.isBlank c = false) (hc : Text.isIdentifierStart c = true)
    (hy : ∀ d ∈ y, Text.isIdentifierContinue d = true) (hu : Avoids Text.isIdentifierContinue u) :
    ∃ h, Lexeme.atStart version c (y ++ u) = Lexeme.ofWord (c :: y) h u := by
  have hword : Text.isIdentifier (c :: y) = true := by
    rw [Text.isIdentifier, hc, Bool.true_and, List.all_eq_true]
    exact hy
  refine ⟨hword, ?_⟩
  rw [Lexeme.atStart]
  simp only [hblank, Bool.false_eq_true, if_false, hc, dif_pos, takeWhile_run hy hu, List.drop_left]

theorem word_plain (hc : Text.isIdentifierStart c = true) (hy : ∀ d ∈ y, Text.isIdentifierContinue d = true) :
    ∀ d ∈ c :: y, isPlain d = true ∧ d ≠ '\n' := by
  intro d hd
  rcases List.mem_cons.mp hd with rfl | hd
  · exact continue_of_start hc
  · exact ⟨plain_of_class continue_plain (hy d hd), ne_newline_of_class continue_newline (hy d hd)⟩

theorem unmarked_ofWord (word : List Char) (h : Text.isIdentifier word = true) : Unmarked (some (Token.ofWord word h)) := by
  rintro t ⟨⟩
  unfold Token.ofWord
  split
  · rfl
  · split <;> rfl

/-- A quote makes a literal of some words. -/
def isMarker (word : List Char) : Bool :=
  word == "unicode".toList || word == "hex".toList || word == "address".toList

theorem ofWord_plain {word : List Char} (h : Text.isIdentifier word = true)
    (hplain : isMarker word = false ∨ Avoids (fun c => c == '"' || c == '\'') u) :
    Lexeme.ofWord word h u = .ofToken (Token.ofWord word h) word.length := by
  unfold Lexeme.ofWord
  cases u with
  | nil => rfl
  | cons q cs =>
    rcases hplain with hm | hq
    · simp only [isMarker, Bool.or_eq_false_iff, beq_eq_false_iff_ne] at hm
      simp only [hm.1.1, hm.1.2, hm.2, if_false, ite_self]
    · have := hq q rfl
      simp only [Bool.or_eq_false_iff, beq_eq_false_iff_ne] at this
      simp only [this.1, this.2, or_self, if_false]

/-- A word with a literal directly behind it. -/
theorem begins_marked (hblank : Text.isBlank c = false) (hc : Text.isIdentifierStart c = true)
    (hy : ∀ d ∈ y, Text.isIdentifierContinue d = true) {q : Char} (hquote : q = '"' ∨ q = '\'') {w r : List Char} {t : Token}
    (hread : ∀ h v, Lexeme.ofWord (c :: y) h (q :: (w ++ v)) = .ofToken t ((c :: y).length + 1 + w.length)) (ht : mark t = 'a')
    (hcut : CutsAddress (some t) →
      ∀ d, Unbroken ⟨.quoted q, d⟩ w ∧ (⟨.quoted q, d⟩ : Cursor).after w = ⟨.code, d⟩) {l : Lexeme}
    (hl : Lexeme.atStart version c (y ++ q :: (w ++ r)) = l) : Begins version c (y ++ q :: (w ++ r)) l := by
  have hfollow : ∀ v : List Char, Avoids Text.isIdentifierContinue (q :: v) := by
    rintro v d ⟨⟩
    rcases hquote with rfl | rfl <;> decide
  have hat : ∀ v, Lexeme.atStart version c (y ++ q :: (w ++ v)) = .ofToken t ((c :: y).length + 1 + w.length) := by
    intro v
    obtain ⟨h, hat⟩ := atStart_word version hblank hc hy (hfollow (w ++ v))
    rw [hat, hread]
  rw [hat] at hl
  subst hl
  have hlength : (c :: y).length + 1 + w.length = (c :: (y ++ q :: w)).length := by
    simp only [List.length_cons, List.length_append]
    omega
  refine ⟨y ++ q :: w, r, by simp, hlength, fun v _ => ⟨c, y ++ q :: w, _, rfl, ?_, hlength, rfl, rfl⟩, ?_⟩
  · rw [List.append_assoc]
    exact hat v
  · exact @Shape.literal (c :: y) _ _ _ _ (word_plain hc hy) hquote ht hcut

section Marked

variable {q : Char} {cs : List Char} {l : Lexeme}

theorem atStart_marked (version : Bool) (hblank : Text.isBlank c = false) (hc : Text.isIdentifierStart c = true)
    (hy : ∀ d ∈ y, Text.isIdentifierContinue d = true) (hquote : q = '"' ∨ q = '\'') (cs : List Char) :
    ∃ h, Lexeme.atStart version c (y ++ q :: cs) = Lexeme.ofWord (c :: y) h (q :: cs) := by
  refine atStart_word version hblank hc hy ?_
  rintro d ⟨⟩
  rcases hquote with rfl | rfl <;> decide

theorem begins_unicode (hblank : Text.isBlank c = false) (hc : Text.isIdentifierStart c = true)
    (hy : ∀ d ∈ y, Text.isIdentifierContinue d = true) (hquote : q = '"' ∨ q = '\'') (hw : c :: y = "unicode".toList)
    (hl : Lexeme.atStart version c (y ++ q :: cs) = l) (hfault : l.fault = none) : Begins version c (y ++ q :: cs) l := by
  have hof : ∀ h cs, Lexeme.ofWord (c :: y) h (q :: cs) = Lexeme.ofUnicodeText (c :: y) h q cs := by
    intro h cs
    simp only [Lexeme.ofWord, hquote, if_true, hw]
  obtain ⟨_, hat⟩ := atStart_marked version hblank hc hy hquote cs
  rw [hat, hof, Lexeme.ofUnicodeText] at hl
  cases hraw : Lexeme.quoted? q cs with
  | none =>
    rw [hraw] at hl
    rw [← hl] at hfault
    cases hfault
  | some raw =>
    obtain ⟨hinside, r, rfl⟩ := (quoted_iff (ne_backslash hquote)).mp hraw
    have hread : ∀ v, Lexeme.quoted? q (raw ++ q :: v) = some raw := fun v =>
      (quoted_iff (ne_backslash hquote)).mpr ⟨hinside, v, rfl⟩
    have hcs : raw ++ q :: r = raw ++ [q] ++ r := by simp
    rw [hcs] at hat ⊢
    refine begins_marked (t := .text true (String.ofList raw)) hblank hc hy hquote (fun h v => ?_) rfl
      (fun _ d => closed_run (ne_backslash hquote) (hinside.run d)) (hat.trans ?_)
    · rw [hof, Lexeme.ofUnicodeText, List.append_assoc, List.singleton_append, hread]
      simp only [List.length_append, List.length_singleton, Lexeme.ofToken, Lexeme.mk.injEq, Option.some.injEq,
        Prod.mk.injEq, true_and, and_true]
      omega
    · rw [← hl, hof, Lexeme.ofUnicodeText, hraw, List.append_assoc, List.singleton_append, hraw]

theorem begins_hex (hblank : Text.isBlank c = false) (hc : Text.isIdentifierStart c = true)
    (hy : ∀ d ∈ y, Text.isIdentifierContinue d = true) (hquote : q = '"' ∨ q = '\'') (hw : c :: y = "hex".toList)
    (hl : Lexeme.atStart version c (y ++ q :: cs) = l) (hfault : l.fault = none) : Begins version c (y ++ q :: cs) l := by
  have hof : ∀ h cs, Lexeme.ofWord (c :: y) h (q :: cs) = Lexeme.ofHexText (c :: y) q cs := by
    intro h cs
    simp only [Lexeme.ofWord, hquote, if_true, hw]
    rw [if_neg (by decide)]
  obtain ⟨_, hat⟩ := atStart_marked version hblank hc hy hquote cs
  obtain ⟨digits, r, rfl, -, hdigits, hr⟩ := exists_run Lexeme.isHexPart cs
  have hclose : ∀ v : List Char, Avoids Lexeme.isHexPart (q :: v) := by
    rintro v d ⟨⟩
    rcases hquote with rfl | rfl <;> decide
  rw [hat, hof, Lexeme.ofHexText] at hl
  simp only [takeWhile_run hdigits hr, List.drop_left] at hl
  cases r with
  | nil =>
    rw [← hl] at hfault
    cases hfault
  | cons q' r =>
    simp only at hl
    by_cases hq' : q' = q
    · subst hq'
      have hcs : digits ++ q' :: r = digits ++ [q'] ++ r := by simp
      rw [hcs] at hat ⊢
      refine begins_marked (t := .hexText (String.ofList (c :: y ++ q' :: digits ++ [q']))) hblank hc hy hquote
        (fun h v => ?_) rfl (fun _ d => closed_run (ne_backslash hquote) ((enclosed_hex hquote hdigits).run d)) (hat.trans ?_)
      · rw [hof, Lexeme.ofHexText, List.append_assoc, List.singleton_append]
        simp only [takeWhile_run hdigits (hclose v), List.drop_left, if_true, List.length_append,
          List.length_singleton, Lexeme.ofToken, Lexeme.mk.injEq, Option.some.injEq, Prod.mk.injEq, true_and, and_true]
        omega
      · rw [← hl, hof, Lexeme.ofHexText, List.append_assoc, List.singleton_append]
        simp only [takeWhile_run hdigits hr, List.drop_left]
    · rw [if_neg hq'] at hl
      rw [← hl] at hfault
      cases hfault

theorem begins_address (hblank : Text.isBlank c = false) (hc : Text.isIdentifierStart c = true)
    (hy : ∀ d ∈ y, Text.isIdentifierContinue d = true) (hquote : q = '"' ∨ q = '\'') (hw : c :: y = "address".toList)
    (hl : Lexeme.atStart version c (y ++ q :: cs) = l) (hfault : l.fault = none) : Begins version c (y ++ q :: cs) l := by
  have hof : ∀ h cs, Lexeme.ofWord (c :: y) h (q :: cs) = Lexeme.ofAddressText (c :: y) q cs := by
    intro h cs
    simp only [Lexeme.ofWord, hquote, if_true, hw]
    rw [if_neg (by decide), if_neg (by decide)]
  obtain ⟨_, hat⟩ := atStart_marked version hblank hc hy hquote cs
  obtain ⟨content, r, rfl, -, hcontent, hr⟩ := exists_run (· != q) cs
  have hclose : ∀ v : List Char, Avoids (· != q) (q :: v) := by
    rintro v d ⟨⟩
    simp
  rw [hat, hof, Lexeme.ofAddressText] at hl
  simp only [takeWhile_run hcontent hr, List.drop_left] at hl
  cases r with
  | nil =>
    rw [← hl] at hfault
    cases hfault
  | cons q' r =>
    obtain rfl : q' = q := by simpa using hr q' rfl
    have hcs : content ++ q' :: r = content ++ [q'] ++ r := by simp
    have hfree : q' ∉ content := fun h => by simpa using hcontent q' h
    rw [hcs] at hat ⊢
    refine begins_marked (t := .addressText (String.ofList (c :: y ++ q' :: content ++ [q']))) hblank hc hy hquote
      (fun h v => ?_) rfl (fun hcut => ?_) (hat.trans ?_)
    · rw [hof, Lexeme.ofAddressText, List.append_assoc, List.singleton_append]
      simp only [takeWhile_run hcontent (hclose v), List.drop_left, List.length_append, List.length_singleton,
        Lexeme.ofToken, Lexeme.mk.injEq, Option.some.injEq, Prod.mk.injEq, true_and, and_true]
      omega
    · -- the cutting is in code behind the literal, so its quote is not behind a backslash
      obtain ⟨r', hr', hover⟩ := unclosed_run q' content fun x y hx _ => hfree (by rw [hx]; simp)
      have hplain : ∀ d ∈ c :: y, isPlain d = true := fun d hd => (word_plain hc hy d hd).1
      have hregion := hcut _ rfl
      rw [String.toList_ofList, List.append_assoc, after_append, start, (after_plain hplain 0).2, List.cons_append,
        after_cons] at hregion
      have hopen : ((⟨.code, 0⟩ : Cursor).step q').1 = ⟨.quoted q', 0⟩ := by
        rcases hquote with rfl | rfl <;> rfl
      rw [hopen, after_append, (hover 0).2] at hregion
      rcases hr' with rfl | rfl
      · exact fun d => closed_run (ne_backslash hquote) (hover d)
      · cases hregion
    · rw [← hl, hof, Lexeme.ofAddressText, List.append_assoc, List.singleton_append]
      simp only [takeWhile_run hcontent hr, List.drop_left]

end Marked

theorem begins_word (hblank : Text.isBlank c = false) (hc : Text.isIdentifierStart c = true) {cs : List Char} {l : Lexeme}
    (hl : Lexeme.atStart version c cs = l) (hfault : l.fault = none) : Begins version c cs l := by
  obtain ⟨y, u, rfl, -, hy, hu⟩ := exists_run Text.isIdentifierContinue cs
  by_cases hm : isMarker (c :: y) = false ∨ Avoids (fun c => c == '"' || c == '\'') u
  · -- a word by itself
    obtain ⟨hword, -⟩ := atStart_word version hblank hc hy hu
    have hread : ∀ v, sight v = sight u →
        Lexeme.atStart version c (y ++ v) = .ofToken (Token.ofWord (c :: y) hword) (c :: y).length := by
      intro v hv
      obtain ⟨_, hat⟩ := atStart_word version hblank hc hy (hu.of_sight hv continue_newline)
      rw [hat, ofWord_plain]
      exact hm.imp id fun h => h.of_sight hv (by decide)
    have hplain := word_plain hc hy
    rw [hread u rfl] at hl
    subst hl
    refine ⟨y, u, rfl, rfl, fun v hv => ⟨c, y, _, rfl, hread v hv, rfl, rfl, rfl⟩, ?_⟩
    exact Shape.plain (fun d hd => (hplain d hd).1) (Or.inl fun h => (hplain _ h).2 rfl) (unmarked_ofWord _ hword)
  · -- a word with a literal directly behind it
    rw [not_or, Bool.not_eq_false] at hm
    obtain ⟨hm, hq⟩ := hm
    cases u with
    | nil => exact absurd (by simp [Avoids]) hq
    | cons q cs =>
      have hquote : q = '"' ∨ q = '\'' := by
        by_contra hne
        rw [not_or] at hne
        refine hq ?_
        rintro d ⟨⟩
        simp [hne.1, hne.2]
      simp only [isMarker, Bool.or_eq_true, beq_iff_eq] at hm
      rcases hm with (hw | hw) | hw
      · exact begins_unicode hblank hc hy hquote hw hl hfault
      · exact begins_hex hblank hc hy hquote hw hl hfault
      · exact begins_address hblank hc hy hquote hw hl hfault

end Words

/-! ## Numbers -/

/-- A text that is read alike before all that looks the same, from its first character on. -/
theorem Begins.of_reads {version : Bool} {c : Char} {y u : List Char} {t : Option (Token × Nat)}
    (hread : ∀ v, sight v = sight u → Lexeme.atStart version c (y ++ v) = ⟨y.length + 1, t, none⟩)
    (hshape : Shape (c :: y) u (t.map Prod.fst)) {l : Lexeme} (hl : Lexeme.atStart version c (y ++ u) = l) :
    Begins version c (y ++ u) l := by
  rw [hread u rfl] at hl
  subst hl
  exact ⟨y, u, rfl, rfl, fun v hv => ⟨c, y, _, rfl, hread v hv, rfl, rfl, rfl⟩, hshape⟩

/-- A character of a number. -/
def isNumberPart (c : Char) : Bool := Lexeme.isHexPart c || c == '.' || c == '-' || c == 'x'

theorem numberPart_plain : ['/', '"', '\'', '{', '}', ';'].any isNumberPart = false := by decide

theorem numberPart_of_digitPart {c : Char} (h : Lexeme.isDigitPart c = true) : isNumberPart c = true := by
  simp only [Lexeme.isDigitPart, Bool.or_eq_true] at h
  simp only [isNumberPart, Lexeme.isHexPart, Lexeme.isHexDigit, Bool.or_eq_true]
  tauto

section Numbers

variable {l : Lexeme}

theorem ofExponent_run {k : Nat} {rest : List Char} {finish : String → Token} (hl : Lexeme.ofExponent k rest finish = l)
    (hfault : l.fault = none) :
    ∃ y u s, rest = y ++ u ∧ (∀ c ∈ y, isNumberPart c = true) ∧
      ∀ v, sight v = sight u → Lexeme.ofExponent k (y ++ v) finish = .ofToken (finish s) (k + y.length) := by
  by_cases he : Avoids (fun e => e == 'e' || e == 'E') rest
  · -- there is no exponent
    refine ⟨[], rest, "", rfl, by simp, fun v hv => ?_⟩
    have hv := he.of_sight hv (by decide)
    cases v with
    | nil => rfl
    | cons e v =>
      have := hv e rfl
      simp only [Bool.or_eq_false_iff, beq_eq_false_iff_ne] at this
      simp only [List.nil_append, Lexeme.ofExponent, this.1, this.2, or_self, if_false]
      rfl
  · cases rest with
    | nil => exact absurd (by simp [Avoids]) he
    | cons e cs =>
      have hexp : e = 'e' ∨ e = 'E' := by
        by_contra hne
        rw [not_or] at hne
        refine he ?_
        rintro d ⟨⟩
        simp [hne.1, hne.2]
      obtain ⟨signs, r, rfl, -, hsigns, hr⟩ := exists_run (· == '-') cs
      obtain ⟨digits, u, rfl, -, hdigits, hu⟩ := exists_run Lexeme.isDigitPart r
      simp only [Lexeme.ofExponent, hexp, if_true, takeWhile_run hsigns hr, List.drop_left, takeWhile_run hdigits hu] at hl
      by_cases hnil : digits = []
      · rw [if_pos hnil] at hl
        rw [← hl] at hfault
        cases hfault
      · refine ⟨e :: (signs ++ digits), u, String.ofList (signs ++ digits), by simp, ?_, fun v hv => ?_⟩
        · intro c hc
          rcases List.mem_cons.mp hc with rfl | hc
          · rcases hexp with rfl | rfl <;> decide
          · rcases List.mem_append.mp hc with hc | hc
            · have : c = '-' := by simpa using hsigns c hc
              rw [this]
              decide
            · exact numberPart_of_digitPart (hdigits c hc)
        · have hu' := hu.of_sight hv digitPart_newline
          have hr' : Avoids (· == '-') (digits ++ v) := by
            obtain ⟨d, ds, rfl⟩ := List.exists_cons_of_ne_nil hnil
            exact fun c hc => hr c hc
          rw [List.cons_append, List.append_assoc]
          simp only [Lexeme.ofExponent, hexp, if_true, takeWhile_run hsigns hr', List.drop_left, takeWhile_run hdigits hu',
            if_neg hnil, List.length_cons, List.length_append]
          congr 1
          omega

theorem ofFraction_run (whole : List Char) {cs : List Char} (hl : Lexeme.ofFraction whole cs = l) (hfault : l.fault = none) :
    ∃ y u t, cs = y ++ u ∧ (∀ c ∈ y, isNumberPart c = true) ∧ Unmarked (some t) ∧ (Avoids Lexeme.isDigitPart cs ∨ y ≠ []) ∧
      ∀ v, sight v = sight u → Lexeme.ofFraction whole (y ++ v) = .ofToken t (whole.length + 1 + y.length) := by
  obtain ⟨fraction, r, rfl, -, hfraction, hr⟩ := exists_run Lexeme.isDigitPart cs
  simp only [Lexeme.ofFraction, takeWhile_run hfraction hr, List.drop_left] at hl
  obtain ⟨y, u, s, rfl, hy, hread⟩ := ofExponent_run hl hfault
  refine ⟨fraction ++ y, u, .rational (String.ofList whole) (String.ofList fraction) s, by simp, ?_, ?_, ?_, fun v hv => ?_⟩
  · intro c hc
    rcases List.mem_append.mp hc with hc | hc
    · exact numberPart_of_digitPart (hfraction c hc)
    · exact hy c hc
  · rintro t ⟨⟩
    rfl
  · cases fraction with
    | nil => exact Or.inl hr
    | cons d fraction => exact Or.inr (by simp)
  · have hr' : Avoids Lexeme.isDigitPart (y ++ v) := hr.of_sight (sight_append hv y) digitPart_newline
    rw [List.append_assoc]
    simp only [Lexeme.ofFraction, takeWhile_run hfraction hr', List.drop_left, hread v hv, List.length_append]
    congr 1
    omega

/-- Behind the whole part of a number comes a fraction, which begins with a point and a digit. -/
def beginsFraction (r : List Char) : Bool := (sight r).1 == '.' && Text.isAsciiDigit (sight r).2

theorem exists_fraction {r : List Char} (h : beginsFraction r = true) :
    ∃ d rest, r = '.' :: d :: rest ∧ Text.isAsciiDigit d = true := by
  cases r with
  | nil => exact absurd h (by decide)
  | cons e r =>
    by_cases he : e = '.'
    · subst he
      cases r with
      | nil => exact absurd h (by decide)
      | cons d rest => exact ⟨d, rest, rfl, by simpa [beginsFraction, sight] using h⟩
    · rw [beginsFraction, sight_of_ne he] at h
      simp [he] at h

theorem ofNumber_eq {c : Char} {y r : List Char} (hx : ¬ (c = '0' ∧ (y ++ r).head? = some 'x'))
    (hy : ∀ d ∈ c :: y, Lexeme.isDigitPart d = true) (hr : Avoids Lexeme.isDigitPart r) (version : Bool) :
    Lexeme.ofNumber version (c :: (y ++ r)) =
      if version then .ofToken (.number (String.ofList (c :: y)) "") (c :: y).length
      else if beginsFraction r then Lexeme.ofFraction (c :: y) r.tail
      else Lexeme.ofExponent (c :: y).length r (.number (String.ofList (c :: y))) := by
  have hrun : (c :: (y ++ r)).takeWhile Lexeme.isDigitPart = c :: y := takeWhile_run (y := c :: y) hy hr
  have hdrop : (c :: (y ++ r)).drop (c :: y).length = r := by simp
  rw [Lexeme.ofNumber.eq_def]
  split
  · rename_i rest heq
    injection heq with h1 h2
    exact absurd ⟨h1, by rw [h2]; rfl⟩ hx
  · simp only [hrun, hdrop]
    cases version with
    | true => rfl
    | false =>
      simp only [Bool.false_eq_true, if_false]
      by_cases hpoint : ∃ d rest, r = '.' :: d :: rest
      · obtain ⟨d, rest, rfl⟩ := hpoint
        have hb : beginsFraction ('.' :: d :: rest) = Text.isAsciiDigit d := rfl
        rw [hb]
        show (if Text.isAsciiDigit d = true then _ else _) = _
        cases Text.isAsciiDigit d <;> rfl
      · have hb : beginsFraction r = false := by
          cases r with
          | nil => rfl
          | cons e r =>
            by_cases he : e = '.'
            · subst he
              cases r with
              | nil => decide
              | cons d rest => exact absurd ⟨d, rest, rfl⟩ hpoint
            · rw [beginsFraction, sight_of_ne he]
              simp [he]
        rw [hb]
        split
        · exact absurd ⟨_, _, rfl⟩ hpoint
        · rfl

theorem sight_head {u v : List Char} (h : sight v = sight u) (y : List Char) {c : Char} (hc : c ≠ '\n')
    (hv : (y ++ v).head? = some c) : (y ++ u).head? = some c := by
  have hfst : (y ++ v).headD '\n' = (y ++ u).headD '\n' := by rw [← sight_fst, ← sight_fst, sight_append h]
  cases hu : y ++ u with
  | nil =>
    rw [hu, List.head?_eq_some_iff.mp hv |>.choose_spec] at hfst
    exact absurd hfst hc
  | cons d r =>
    rw [hu, List.head?_eq_some_iff.mp hv |>.choose_spec] at hfst
    exact congrArg some hfst.symm

variable {version : Bool} {c : Char} {cs : List Char}

theorem digit_numberPart (hdigit : Text.isAsciiDigit c = true) : Lexeme.isDigitPart c = true := by
  rw [Lexeme.isDigitPart, hdigit, Bool.true_or]

/-- A number or an exponent of one is a plain lexeme. -/
theorem Shape.of_number {x u : List Char} {t : Option Token} (hx : ∀ c ∈ x, isNumberPart c = true) (ht : Unmarked t) :
    Shape x u t :=
  Shape.of_class numberPart_plain (by decide) hx ht

theorem begins_hexNumber (hat : ∀ cs, Lexeme.atStart version '0' cs = Lexeme.ofNumber version ('0' :: cs))
    (hl : Lexeme.atStart version '0' ('x' :: cs) = l) (hfault : l.fault = none) : Begins version '0' ('x' :: cs) l := by
  have hof : ∀ cs, Lexeme.atStart version '0' ('x' :: cs) = Lexeme.ofHexNumber cs := fun cs => hat ('x' :: cs)
  rw [hof] at hl
  cases cs with
  | nil =>
    rw [← hl] at hfault
    cases hfault
  | cons d cs =>
    by_cases hd : Lexeme.isHexDigit d = true
    · obtain ⟨y, u, rfl, -, hy, hu⟩ := exists_run Lexeme.isHexPart cs
      refine Begins.of_reads (y := 'x' :: d :: y) (t := some (.hexNumber (String.ofList ('0' :: 'x' :: d :: y)), 2 + (d :: y).length))
        (fun v hv => ?_) (Shape.of_number ?_ ?_) ((hof _).trans hl)
      · show Lexeme.atStart version '0' ('x' :: d :: (y ++ v)) = _
        rw [hof]
        simp only [Lexeme.ofHexNumber, hd, if_true, takeWhile_run hy (hu.of_sight hv hexPart_newline), Lexeme.ofToken,
          List.length_cons]
        congr 1
        omega
      · have hhex : ∀ {e : Char}, Lexeme.isHexPart e = true → isNumberPart e = true := by
          intro e he
          simp only [isNumberPart, he, Bool.true_or]
        intro e he
        simp only [List.mem_cons] at he
        rcases he with rfl | rfl | rfl | he
        · decide
        · decide
        · exact hhex (by rw [Lexeme.isHexPart, hd, Bool.true_or])
        · exact hhex (hy e he)
      · rintro t ⟨⟩
        rfl
    · simp only [Lexeme.ofHexNumber, hd] at hl
      rw [← hl] at hfault
      cases hfault

/-- A number is read from its whole part and what is in sight behind it. -/
theorem atStart_number (hat : ∀ cs, Lexeme.atStart version c cs = Lexeme.ofNumber version (c :: cs)) {y r : List Char}
    (hx : ¬ (c = '0' ∧ (y ++ r).head? = some 'x')) (hy : ∀ d ∈ c :: y, Lexeme.isDigitPart d = true)
    (hr : Avoids Lexeme.isDigitPart r) (r' : List Char) (hr' : sight r' = sight r) :
    Lexeme.atStart version c (y ++ r') =
      if version then .ofToken (.number (String.ofList (c :: y)) "") (c :: y).length
      else if beginsFraction r then Lexeme.ofFraction (c :: y) r'.tail
      else Lexeme.ofExponent (c :: y).length r' (.number (String.ofList (c :: y))) := by
  have hx' : ¬ (c = '0' ∧ (y ++ r').head? = some 'x') := fun h => hx ⟨h.1, sight_head hr' y (by decide) h.2⟩
  have hfraction : beginsFraction r' = beginsFraction r := by rw [beginsFraction, beginsFraction, hr']
  rw [hat, ofNumber_eq hx' hy (hr.of_sight hr' digitPart_newline), hfraction]

theorem unmarked_number (whole exponent : String) : Unmarked (some (.number whole exponent)) := by
  rintro t ⟨⟩
  rfl

section Parts

variable {y r : List Char} (hparts : ∀ d ∈ c :: y, isNumberPart d = true) (hfault : l.fault = none)

include hparts

/-- In a pragma a number is its whole part. -/
theorem begins_whole (hread : ∀ r', sight r' = sight r →
      Lexeme.atStart version c (y ++ r') = .ofToken (.number (String.ofList (c :: y)) "") (c :: y).length)
    (hl : Lexeme.atStart version c (y ++ r) = l) : Begins version c (y ++ r) l :=
  Begins.of_reads (t := some (.number (String.ofList (c :: y)) "", (c :: y).length)) (fun _ hv => hread _ hv)
    (Shape.of_number hparts (unmarked_number _ _)) hl

include hfault

theorem begins_rational (hfraction : beginsFraction r = true) (hread : ∀ r', sight r' = sight r →
      Lexeme.atStart version c (y ++ r') = Lexeme.ofFraction (c :: y) r'.tail)
    (hl : Lexeme.atStart version c (y ++ r) = l) : Begins version c (y ++ r) l := by
  obtain ⟨d, rest, rfl, hd⟩ := exists_fraction hfraction
  obtain ⟨y', u, t, hrest, hy', ht, hne, hfrac⟩ := ofFraction_run (c :: y) ((hread _ rfl).symm.trans hl) hfault
  -- behind the point is a digit at least, so that the point is seen as one
  have hne : y' ≠ [] := by
    refine hne.resolve_left fun havoid => ?_
    have := havoid d rfl
    rw [digit_numberPart hd] at this
    cases this
  have hrest : d :: rest = y' ++ u := hrest
  have hcs : y ++ '.' :: d :: rest = y ++ '.' :: y' ++ u := by rw [hrest]; simp
  rw [hcs] at hl ⊢
  refine Begins.of_reads (t := some (t, (c :: y).length + 1 + y'.length)) (fun v hv => ?_) (Shape.of_number ?_ ht) hl
  · have hsame : sight ('.' :: (y' ++ v)) = sight ('.' :: d :: rest) := by
      rw [hrest]
      exact sight_append hv ('.' :: y')
    rw [List.append_assoc, List.cons_append, hread _ hsame, List.tail_cons, hfrac v hv]
    simp only [Lexeme.ofToken, List.length_cons, List.length_append, Lexeme.mk.injEq, and_true]
    omega
  · intro e he
    rw [← List.cons_append] at he
    rcases List.mem_append.mp he with he | he
    · exact hparts e he
    · rcases List.mem_cons.mp he with rfl | he
      · decide
      · exact hy' e he

theorem begins_integer (hread : ∀ r', sight r' = sight r →
      Lexeme.atStart version c (y ++ r') = Lexeme.ofExponent (c :: y).length r' (.number (String.ofList (c :: y))))
    (hl : Lexeme.atStart version c (y ++ r) = l) : Begins version c (y ++ r) l := by
  obtain ⟨y', u, s, rfl, hy', hexp⟩ := ofExponent_run ((hread _ rfl).symm.trans hl) hfault
  rw [← List.append_assoc] at hl ⊢
  refine Begins.of_reads (t := some (.number (String.ofList (c :: y)) s, (c :: (y ++ y')).length)) (fun v hv => ?_)
    (Shape.of_number ?_ (unmarked_number _ _)) hl
  · rw [List.append_assoc, hread _ (sight_append hv y'), hexp v hv]
    simp only [Lexeme.ofToken, List.length_cons, List.length_append, Lexeme.mk.injEq, Option.some.injEq, Prod.mk.injEq,
      true_and, and_true]
    omega
  · intro d hd
    rw [← List.cons_append] at hd
    rcases List.mem_append.mp hd with hd | hd
    · exact hparts d hd
    · exact hy' d hd

end Parts

theorem begins_number (hat : ∀ cs, Lexeme.atStart version c cs = Lexeme.ofNumber version (c :: cs))
    (hdigit : Text.isAsciiDigit c = true) (hl : Lexeme.atStart version c cs = l) (hfault : l.fault = none) :
    Begins version c cs l := by
  by_cases hx : c = '0' ∧ cs.head? = some 'x'
  · obtain ⟨rfl, hx⟩ := hx
    obtain ⟨cs, rfl⟩ := List.head?_eq_some_iff.mp hx
    exact begins_hexNumber hat hl hfault
  obtain ⟨y, r, rfl, -, hy, hr⟩ := exists_run Lexeme.isDigitPart cs
  have hrun : ∀ d ∈ c :: y, Lexeme.isDigitPart d = true := by
    intro d hd
    rcases List.mem_cons.mp hd with rfl | hd
    · exact digit_numberPart hdigit
    · exact hy d hd
  have hparts : ∀ d ∈ c :: y, isNumberPart d = true := fun d hd => numberPart_of_digitPart (hrun d hd)
  have hread := atStart_number hat hx hrun hr
  cases version with
  | true => exact begins_whole hparts hread hl
  | false =>
    cases hfraction : beginsFraction r with
    | true =>
      rw [hfraction] at hread
      exact begins_rational hparts hfault hfraction hread hl
    | false =>
      rw [hfraction] at hread
      exact begins_integer hparts hfault hread hl

end Numbers

/-! ## Comments -/

section Slash

variable {version : Bool} {cs : List Char} {l : Lexeme}

/-- A block comment is read up to the first star and slash behind its beginning. -/
theorem commentEnd_iff {cs : List Char} {n : Nat} :
    Lexeme.commentEnd? cs = some n ↔ ∃ w u, cs = w ++ '*' :: '/' :: u ∧ ¬ ['*', '/'] <:+: w ∧ n = w.length + 2 := by
  constructor
  · intro h
    fun_induction Lexeme.commentEnd? cs generalizing n with
    | case1 => cases h
    | case2 cs => exact ⟨[], cs, rfl, by simp, (Option.some_inj.mp h).symm⟩
    | case3 c cs hend ih =>
      obtain ⟨m, hm, rfl⟩ := Option.map_eq_some_iff.mp h
      obtain ⟨w, u, rfl, hw, rfl⟩ := ih hm
      refine ⟨c :: w, u, rfl, fun hinfix => ?_, rfl⟩
      rcases List.infix_cons_iff.mp hinfix with ⟨v, hv⟩ | hinfix
      · obtain ⟨rfl, rfl⟩ := List.cons.inj hv
        exact hend _ rfl rfl
      · exact hw hinfix
  · rintro ⟨w, u, rfl, hw, rfl⟩
    induction w with
    | nil => rfl
    | cons c w ih =>
      rw [List.cons_append, Lexeme.commentEnd?.eq_def]
      split
      · rename_i heq; cases heq
      · -- the comment would end here
        rename_i v heq
        obtain ⟨rfl, hv⟩ := List.cons.inj heq
        cases w with
        | nil => cases hv
        | cons e w =>
          obtain ⟨rfl, -⟩ := List.cons.inj hv
          exact absurd ⟨[], w, rfl⟩ hw
      · rename_i heq
        obtain ⟨-, rfl⟩ := List.cons.inj heq
        rw [ih fun h => hw (List.infix_cons_iff.mpr (Or.inr h))]
        rfl

theorem ofSlash_operator (h : Avoids (fun c => c == '/' || c == '*' || c == '=') cs) :
    Lexeme.ofSlash cs = .ofToken (.operator .slash) 1 := by
  unfold Lexeme.ofSlash
  split
  · exact absurd (h _ rfl) (by decide)
  · exact absurd (h _ rfl) (by decide)
  · exact absurd (h _ rfl) (by decide)
  · rfl

theorem begins_slash (hl : Lexeme.atStart version '/' cs = l) (hfault : l.fault = none) : Begins version '/' cs l := by
  have hat : ∀ cs, Lexeme.atStart version '/' cs = Lexeme.ofSlash cs := by
    intro cs
    rw [Lexeme.atStart]
    rfl
  have hof := hl
  rw [hat] at hof
  fun_cases Lexeme.ofSlash cs with
  | case1 cs =>
    obtain ⟨y, u, rfl, -, hy, hu⟩ := exists_run (fun c => c != '\n' && c != '\r') cs
    refine Begins.of_reads (y := '/' :: y) (t := none) (fun v hv => ?_) (Shape.lineComment (fun h => ?_) hu) hl
    · rw [hat, List.cons_append, Lexeme.ofSlash, takeWhile_run hy (hu.of_sight hv (by decide)), Lexeme.blank, Nat.add_comm]
      rfl
    · exact absurd (hy _ h) (by decide)
  | case2 cs n hend =>
    obtain ⟨w, u, rfl, hw, rfl⟩ := commentEnd_iff.mp hend
    have hcs : w ++ '*' :: '/' :: u = w ++ ['*', '/'] ++ u := by simp
    rw [hcs] at hl ⊢
    refine Begins.of_reads (y := '*' :: (w ++ ['*', '/'])) (t := none) (fun v _ => ?_)
      (Shape.blockComment fun d => closed_comment_run hw d) hl
    have hread : Lexeme.commentEnd? (w ++ ['*', '/'] ++ v) = some (w.length + 2) :=
      commentEnd_iff.mpr ⟨w, v, by simp, hw, rfl⟩
    rw [hat, List.cons_append, Lexeme.ofSlash, hread]
    simp only [Lexeme.blank, List.length_cons, List.length_append, List.length_nil, Lexeme.mk.injEq, and_true]
    omega
  | case3 cs hend =>
    rw [Lexeme.ofSlash, hend] at hof
    rw [← hof] at hfault
    cases hfault
  | case4 cs =>
    refine Begins.of_reads (y := ['=']) (t := some (.operator .slashAssign, 2)) (fun v _ => ?_) Shape.slashAssign hl
    rw [hat]
    rfl
  | case5 cs h1 h2 h3 =>
    have hcs : Avoids (fun c => c == '/' || c == '*' || c == '=') cs := by
      intro c hc
      obtain ⟨rest, rfl⟩ := List.head?_eq_some_iff.mp hc
      simp only [Bool.or_eq_false_iff, beq_eq_false_iff_ne]
      exact ⟨⟨fun h => h1 rest (by rw [h]), fun h => h2 rest (by rw [h])⟩, fun h => h3 rest (by rw [h])⟩
    refine Begins.of_reads (y := []) (t := some (.operator .slash, 1)) (fun v hv => ?_) (Shape.slash fun c hc => ?_) hl
    · rw [hat]
      exact ofSlash_operator (hcs.of_sight hv (by decide))
    · have := hcs c hc
      simp only [Bool.or_eq_false_iff] at this ⊢
      exact this.1

end Slash

/-! ## Other lexemes -/

section Others

variable {version : Bool} {c : Char} {cs : List Char} {l : Lexeme}

theorem begins_blank (hblank : Text.isBlank c = true) (hl : Lexeme.atStart version c cs = l) : Begins version c cs l := by
  refine Begins.of_reads (y := []) (t := none) (fun v _ => ?_) (Shape.plain ?_ ?_ ?_) hl
  · rw [Lexeme.atStart, if_pos hblank]
    rfl
  · intro d hd
    rw [List.mem_singleton.mp hd]
    exact plain_of_class (p := Text.isBlank) (by decide) hblank
  · by_cases hc : c = '\n'
    · exact Or.inr (by rw [hc])
    · exact Or.inl (by simpa using Ne.symm hc)
  · rintro t ⟨⟩

theorem begins_text (hquote : c = '"' ∨ c = '\'') (hl : Lexeme.atStart version c cs = l) (hfault : l.fault = none) :
    Begins version c cs l := by
  have hat : ∀ cs, Lexeme.atStart version c cs = Lexeme.ofText c cs := by
    intro cs
    rw [Lexeme.atStart]
    rcases hquote with rfl | rfl <;> rfl
  have hof := hl
  rw [hat, Lexeme.ofText] at hof
  cases hraw : Lexeme.quoted? c cs with
  | none =>
    rw [hraw] at hof
    rw [← hof] at hfault
    cases hfault
  | some raw =>
    obtain ⟨hinside, u, rfl⟩ := (quoted_iff (ne_backslash hquote)).mp hraw
    have hread : ∀ v, Lexeme.quoted? c (raw ++ c :: v) = some raw := fun v =>
      (quoted_iff (ne_backslash hquote)).mpr ⟨hinside, v, rfl⟩
    have hcs : raw ++ c :: u = raw ++ [c] ++ u := by simp
    rw [hcs] at hl ⊢
    refine Begins.of_reads (t := some (.text false (String.ofList raw), raw.length + 2)) (fun v _ => ?_)
      (@Shape.literal [] _ _ _ _ (by simp) hquote rfl fun _ d => closed_run (ne_backslash hquote) (hinside.run d)) hl
    rw [hat, Lexeme.ofText, List.append_assoc, List.singleton_append, hread]
    simp [Lexeme.ofToken]

theorem begins_atWord (hl : Lexeme.atStart version '@' cs = l) (hfault : l.fault = none) : Begins version '@' cs l := by
  have hat : ∀ cs, Lexeme.atStart version '@' cs =
      if cs.takeWhile Text.isIdentifierContinue = [] then .faulty (.strayText "@") 1
      else .ofToken (.atWord (String.ofList (cs.takeWhile Text.isIdentifierContinue)))
        (1 + (cs.takeWhile Text.isIdentifierContinue).length) := by
    intro cs
    rw [Lexeme.atStart]
    rfl
  obtain ⟨name, u, rfl, -, hname, hu⟩ := exists_run Text.isIdentifierContinue cs
  have hof := hl
  rw [hat, takeWhile_run hname hu] at hof
  by_cases hnil : name = []
  · rw [if_pos hnil] at hof
    rw [← hof] at hfault
    cases hfault
  · refine Begins.of_reads (t := some (.atWord (String.ofList name), 1 + name.length)) (fun v hv => ?_)
      (Shape.plain ?_ (Or.inl ?_) ?_) hl
    · rw [hat, takeWhile_run hname (hu.of_sight hv continue_newline), if_neg hnil, Lexeme.ofToken, Nat.add_comm]
    · intro d hd
      rcases List.mem_cons.mp hd with rfl | hd
      · decide
      · exact plain_of_class continue_plain (hname d hd)
    · intro hn
      rcases List.mem_cons.mp hn with h | hn
      · cases h
      · exact ne_newline_of_class continue_newline (hname _ hn) rfl
    · rintro t ⟨⟩
      rfl

/-- A point is the beginning of a number if a digit follows, outside a version pragma. -/
def pointsNumber (version : Bool) (cs : List Char) : Bool := !version && (cs.head?.map Text.isAsciiDigit).getD false

theorem pointsNumber_eq (version : Bool) (cs : List Char) :
    pointsNumber version cs = (!version && Text.isAsciiDigit (sight cs).1) := by
  rw [pointsNumber, sight_fst]
  cases cs <;> rfl

theorem begins_point (hpoint : pointsNumber version cs = true) (hl : Lexeme.atStart version '.' cs = l) (hfault : l.fault = none) :
    Begins version '.' cs l := by
  have hat : ∀ {cs}, pointsNumber version cs = true → Lexeme.atStart version '.' cs = Lexeme.ofPoint cs := by
    intro cs h
    rw [pointsNumber] at h
    rw [Lexeme.atStart]
    simp only [h, decide_true, Bool.true_and, if_true]
    rfl
  have hof := hl
  rw [hat hpoint, Lexeme.ofPoint] at hof
  have hnone : (Lexeme.ofFraction [] cs).fault = none := by
    cases h : (Lexeme.ofFraction [] cs).fault with
    | none => rfl
    | some f =>
      rw [h] at hof
      rw [← hof] at hfault
      cases hfault
  obtain ⟨y, u, t, rfl, hy, ht, -, hfrac⟩ := ofFraction_run _ rfl hnone
  refine Begins.of_reads (t := some (t, y.length + 1)) (fun v hv => ?_) (Shape.of_number ?_ ht) hl
  · have hpoint' : pointsNumber version (y ++ v) = true := by
      rw [pointsNumber_eq, sight_append hv, ← pointsNumber_eq]
      exact hpoint
    rw [hat hpoint', Lexeme.ofPoint, hfrac v hv, Lexeme.ofToken, List.length_nil, Nat.zero_add, Nat.add_comm]
    rfl
  · intro d hd
    rcases List.mem_cons.mp hd with rfl | hd
    · decide
    · exact hy d hd

/-- What the cutting sees of an operator: itself if it is one of the three marks, and else nothing. -/
theorem Shape.of_operator {o : Operator} {u : List Char} (hslash : o.spelling.toList.head? ≠ some '/') :
    Shape o.spelling.toList u (some (.operator o)) := by
  have hall : ∀ o ∈ Operator.all, o.spelling.toList.head? ≠ some '/' →
      (o.spelling.toList.all isPlain ∧ '\n' ∉ o.spelling.toList ∧ Token.mark (.operator o) = 'a') ∨
      o = .openBrace ∨ o = .closeBrace ∨ o = .semicolon := by decide
  rcases hall o (Operator.mem_all o) hslash with ⟨hplain, hn, hm⟩ | rfl | rfl | rfl
  · refine Shape.plain (List.all_eq_true.mp hplain) (Or.inl hn) ?_
    rintro t ⟨⟩
    exact hm
  · exact Shape.mark (c := '{') (by simp) rfl
  · exact Shape.mark (c := '}') (by simp) rfl
  · exact Shape.mark (c := ';') (by simp) rfl

theorem begins_other (hat : ∀ cs, c ≠ '.' ∨ pointsNumber version cs = false → Lexeme.atStart version c cs = Lexeme.ofOther (c :: cs))
    (hslash : c ≠ '/') (hpoint : c ≠ '.' ∨ pointsNumber version cs = false)
    (hl : Lexeme.atStart version c cs = l) (hfault : l.fault = none) : Begins version c cs l := by
  have hof := hl
  rw [hat cs hpoint, Lexeme.ofOther] at hof
  cases ho : Operator.atStart? (c :: cs) with
  | none =>
    rw [ho] at hof
    rw [← hof] at hfault
    cases hfault
  | some o =>
    obtain ⟨u, hu⟩ := (Operator.longest_of_atStart ho).1
    obtain ⟨y, hy⟩ : ∃ y, o.spelling.toList = c :: y := by
      cases hspelling : o.spelling.toList with
      | nil =>
        have hne : ∀ o ∈ Operator.all, o.spelling.toList ≠ [] := by decide
        exact absurd hspelling (hne o (Operator.mem_all o))
      | cons d y =>
        rw [hspelling, List.cons_append] at hu
        injection hu with hd
        exact ⟨y, by rw [hd]⟩
    obtain rfl : cs = y ++ u := by
      rw [hy, List.cons_append] at hu
      injection hu with _ hu
      exact hu.symm
    have hlength : o.spelling.length = y.length + 1 := by rw [← String.length_toList, hy]; rfl
    refine Begins.of_reads (t := some (.operator o, y.length + 1)) (fun v hv => ?_) ?_ hl
    · have hhead : v.headD '\n' = u.headD '\n' := by rw [← sight_fst, ← sight_fst, hv]
      have hpoint' : c ≠ '.' ∨ pointsNumber version (y ++ v) = false := by
        rwa [pointsNumber_eq, sight_append hv, ← pointsNumber_eq]
      rw [← hu, hy] at ho
      have hv' : Operator.atStart? (c :: (y ++ v)) = some o := by
        have := Operator.atStart?_append hhead (o := o) (by rw [hy]; exact ho)
        rwa [hy] at this
      rw [hat _ hpoint', Lexeme.ofOther, hv', ← hlength]
      rfl
    · rw [← hy]
      refine Shape.of_operator ?_
      rw [hy]
      simpa using hslash

end Others

/-- Whatever a text begins with, it is a lexeme that is read alike before all that looks the same. -/
theorem atStart_begins {version : Bool} {c : Char} {cs : List Char} {l : Lexeme} (hl : Lexeme.atStart version c cs = l)
    (hfault : l.fault = none) : Begins version c cs l := by
  cases hblank : Text.isBlank c with
  | true => exact begins_blank hblank hl
  | false =>
  cases hstart : Text.isIdentifierStart c with
  | true => exact begins_word hblank hstart hl hfault
  | false =>
  by_cases hquote : c = '"' ∨ c = '\''
  · exact begins_text hquote hl hfault
  by_cases hslash : c = '/'
  · subst hslash
    exact begins_slash hl hfault
  cases hdigit : Text.isAsciiDigit c with
  | true =>
    refine begins_number (fun cs => ?_) hdigit hl hfault
    rw [Lexeme.atStart]
    simp only [hblank, hstart, hquote, hslash, hdigit, Bool.false_eq_true, if_false, if_true, dite_false]
  | false =>
  by_cases hat : c = '@'
  · subst hat
    exact begins_atWord hl hfault
  have hother : ∀ cs, c ≠ '.' ∨ pointsNumber version cs = false →
      Lexeme.atStart version c cs = Lexeme.ofOther (c :: cs) := by
    intro cs hcs
    have hno : (c = '.' && !version && (cs.head?.map Text.isAsciiDigit).getD false) = false := by
      rw [Bool.and_assoc]
      rcases hcs with hc | hcs
      · rw [decide_eq_false hc, Bool.false_and]
      · rw [pointsNumber] at hcs
        rw [hcs, Bool.and_false]
    rw [Lexeme.atStart]
    simp only [hblank, hstart, hquote, hslash, hdigit, hat, hno, Bool.false_eq_true, if_false, dite_false]
  by_cases hpoint : c = '.' ∧ pointsNumber version cs = true
  · obtain ⟨rfl, hpoint⟩ := hpoint
    exact begins_point hpoint hl hfault
  · rw [not_and_or, Bool.not_eq_true] at hpoint
    exact begins_other hother hslash hpoint hl hfault

end SoliditySchema
