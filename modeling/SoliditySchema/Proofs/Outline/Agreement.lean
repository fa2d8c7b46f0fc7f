/-
  SoliditySchema.Proofs.Outline.Agreement — the cutting of a text and of its tokens.

  Where a lexeme begins, the cutting of a text is in step with the lexer (`InStep`): in code, or behind a
  slash that opens no comment, or in a line comment that has ended for the lexer. A lexeme keeps them in step
  (`Shape.passes`), so both cut at the same lexemes, and each piece is read to the tokens that are cut off
  with it (`cut_lexes`). Two things can set them apart: text behind a line comment that ends with a carriage
  return alone, and an address literal with a backslash in it.
-/

import Mathlib.Data.List.Basic
import SoliditySchema.Proofs.Outline.Cut
import SoliditySchema.Proofs.Token.Lexes

namespace SoliditySchema

open Cursor
open Token (mark marks)

/-! ## One lexeme -/

/-- Up to the end of the line there is nothing that matters to the cutting. -/
def Harmless (z : List Char) : Prop := ∀ c ∈ z.takeWhile (· != '\n'), isPlain c = true

/-- Where the cutting of a text may stand when a lexeme begins, before the text from there on. -/
inductive InStep : Region → List Char → Prop
  | code {z : List Char} : InStep .code z
  | slash {z : List Char} : Avoids (fun c => c == '/' || c == '*') z → InStep .slash z
  | lineComment {z : List Char} : Harmless z → InStep .lineComment z

/-- What a lexeme does to the cutting: a mark does what it does in code, and anything else goes by. -/
inductive Passes (s : Cursor) : List Char → List Char → Option Token → Prop
  | mark {c : Char} {u : List Char} {t : Token} : t.mark = c → (c = '{' ∨ c = '}' ∨ c = ';') →
      s.step c = stepCode s.depth c → Passes s [c] u (some t)
  | quiet {x u : List Char} {t : Option Token} {r : Region} : Unmarked t → Unbroken s x → s.after x = ⟨r, s.depth⟩ →
      InStep r u → Passes s x u t

section Shape

variable {x u : List Char} {t : Option Token} {d : Nat}

/-- A line comment that ends with a carriage return alone is followed by harmless text. -/
def Returns (s : Cursor) (x u : List Char) : Prop :=
  ∀ v, u = '\r' :: v → (s.after x).region = .lineComment → Harmless v

theorem harmless_append {a z : List Char} (ha : '\n' ∉ a) : Harmless (a ++ z) ↔ (∀ c ∈ a, isPlain c = true) ∧ Harmless z := by
  have hclass : ∀ c ∈ a, (c != '\n') = true := by
    intro c hc
    rw [bne_iff_ne]
    rintro rfl
    exact ha hc
  rw [Harmless, List.takeWhile_append_of_pos hclass]
  simp only [List.mem_append, or_imp, forall_and]
  rfl

theorem Shape.passes_code (h : Shape x u t) (ht : CutsAddress t) (hr : Returns ⟨.code, d⟩ x u) : Passes ⟨.code, d⟩ x u t := by
  cases h with
  | plain hx _ hunmarked => exact .quiet hunmarked (after_plain hx d).1 (after_plain hx d).2 .code
  | slash hu => exact .quiet (by rintro t ⟨⟩; rfl) ⟨rfl, trivial⟩ rfl (.slash hu)
  | slashAssign => exact .quiet (by rintro t ⟨⟩; rfl) ⟨rfl, rfl, trivial⟩ rfl .code
  | @lineComment w _ hw hu =>
    obtain ⟨hunbroken, hover⟩ := after_comment hw d
    refine .quiet (by rintro t ⟨⟩) ⟨rfl, rfl, hunbroken⟩ hover (.lineComment ?_)
    cases u with
    | nil => exact fun c hc => by cases hc
    | cons c v =>
      by_cases hc : c = '\n'
      · subst hc
        exact fun c hc => by cases hc
      · -- the line goes on behind a carriage return
        obtain rfl : c = '\r' := by simpa [hc] using hu c rfl
        refine (harmless_append (a := ['\r']) (by decide)).mpr ⟨List.forall_mem_singleton.mpr (by decide), hr v rfl ?_⟩
        exact congrArg Cursor.region hover
  | blockComment hw => exact .quiet (by rintro t ⟨⟩) ⟨rfl, rfl, (hw d).1⟩ (hw d).2 .code
  | @literal word w _ q tok hword hq hmark hw =>
    obtain ⟨hunbroken, hover⟩ := after_plain (fun c hc => (hword c hc).1) d
    have hstep : (⟨.code, d⟩ : Cursor).step q = (⟨.quoted q, d⟩, false) := by rcases hq with rfl | rfl <;> rfl
    refine .quiet (r := .code) (by rintro t ⟨⟩; exact hmark) ?_ ?_ .code
    · rw [unbroken_append, hover, unbroken_cons, hstep]
      exact ⟨hunbroken, rfl, (hw ht d).1⟩
    · rw [after_append, hover, after_cons, hstep]
      exact (hw ht d).2
  | mark hc hmark => exact .mark hmark hc rfl

/-- In a line comment that has ended for the lexer there are plain lexemes only. -/
theorem Shape.passes_comment (h : Shape x u t) (hz : Harmless (x ++ u)) : Passes ⟨.lineComment, d⟩ x u t := by
  have hno : ∀ {a : List Char} {c : Char} {b : List Char}, '\n' ∉ a → c ≠ '\n' → isPlain c = false →
      x = a ++ c :: b → False := by
    rintro a c b ha hc hplain rfl
    rw [List.append_assoc, harmless_append ha] at hz
    have := hz.2 c (by rw [List.cons_append, List.takeWhile_cons_of_pos (by simpa using hc)]; simp)
    rw [hplain] at this
    cases this
  have hslash : ∀ {y : List Char}, x = '/' :: y → False :=
    fun hx => hno (a := []) (by simp) (show '/' ≠ '\n' by decide) (by decide) hx
  cases h with
  | plain hx hn hunmarked =>
    rcases hn with hn | rfl
    · rw [harmless_append hn] at hz
      exact .quiet hunmarked (after_comment hn d).1 (after_comment hn d).2 (.lineComment hz.2)
    · exact .quiet hunmarked ⟨rfl, trivial⟩ rfl .code
  | slash => exact (hslash rfl).elim
  | slashAssign => exact (hslash rfl).elim
  | lineComment => exact (hslash rfl).elim
  | blockComment => exact (hslash rfl).elim
  | @literal word w _ q tok hword hq _ _ =>
    refine (hno (c := q) (fun h => (hword _ h).2 rfl) ?_ ?_ rfl).elim
    · rcases hq with rfl | rfl <;> decide
    · rcases hq with rfl | rfl <;> decide
  | @mark c _ _ hc _ =>
    refine (hno (a := []) (c := c) (by simp) ?_ ?_ rfl).elim
    · rcases hc with rfl | rfl | rfl <;> decide
    · rcases hc with rfl | rfl | rfl <;> decide

/-- Behind a slash that opens no comment the cutting does what it does in code. -/
theorem step_slash {c : Char} {z : List Char} (h : Avoids (fun c => c == '/' || c == '*') (c :: z)) (d : Nat) :
    (⟨.slash, d⟩ : Cursor).step c = (⟨.code, d⟩ : Cursor).step c := by
  have hc := h c rfl
  simp only [Bool.or_eq_false_iff, beq_eq_false_iff_ne] at hc
  simp only [Cursor.step, if_neg hc.1, if_neg hc.2]

/-- A lexeme keeps the cutting in step. -/
theorem Shape.passes (h : Shape x u t) (hx : x ≠ []) (ht : CutsAddress t) {r : Region} (hstep : InStep r (x ++ u))
    (hr : Returns ⟨r, d⟩ x u) : Passes ⟨r, d⟩ x u t := by
  cases hstep with
  | code => exact h.passes_code ht hr
  | lineComment hz => exact h.passes_comment hz
  | slash hz =>
    obtain ⟨c, y, rfl⟩ := List.exists_cons_of_ne_nil hx
    have hsame := step_slash hz d
    have hover : (⟨.slash, d⟩ : Cursor).after (c :: y) = (⟨.code, d⟩ : Cursor).after (c :: y) := by
      rw [after_cons, after_cons, hsame]
    have hcode : Passes ⟨.code, d⟩ (c :: y) u t := by
      refine h.passes_code ht fun v hv hregion => hr v hv ?_
      rw [hover]
      exact hregion
    generalize hz : c :: y = z at hcode
    cases hcode with
    | mark hmark hc hs =>
      injection hz with hz hy
      subst hz hy
      exact .mark hmark hc (hsame.trans hs)
    | quiet hunmarked hunbroken hover' hin =>
      subst hz
      refine .quiet hunmarked ?_ (hover.trans hover') hin
      rw [unbroken_cons, hsame]
      exact hunbroken

end Shape

/-! ## A whole text -/

/-- Behind every line comment that ends with a carriage return alone there is harmless text. -/
def ReturnsIn (text : List Char) : Prop :=
  ∀ x v, text = x ++ '\r' :: v → (start.after x).region = .lineComment → Harmless v

/-- No pragma is open where tokens are cut, nor at their end. -/
def PragmasClosed (w : List Token) : Prop :=
  ∀ segments rest, IsCut w segments rest → ∀ s ∈ rest :: segments, s.foldl PragmaPhase.next .outside = .outside

/-- A text and its tokens, cut at the same places: each piece is read to the tokens that are cut off with
it, and behind the last cut the text is in step with its tokens. -/
structure CutTogether (text : List Char) (w : List Token) (phase : PragmaPhase) (pieces : List (List Char × List Token))
    (tail : List Char) (rest : List Token) : Prop where
  whole : text = (pieces.map Prod.fst).flatten ++ tail
  closes : ∀ p ∈ pieces, Closes .start p.1
  reads : ∀ p ∈ pieces, Lexes .outside p.1 [] p.2 .outside
  unbroken : Unbroken .start tail
  tokens : IsCut w (pieces.map Prod.snd) rest
  last : Lexes .outside tail [] rest phase
  ending : ∃ r d, start.after tail = ⟨r, d⟩ ∧ start.after (marks rest) = ⟨.code, d⟩ ∧ InStep r []

/-- The beginning of a piece that is not yet cut off: the cutting stands in step behind it, before `z`. -/
structure Begun (x z : List Char) (w : List Token) (phase : PragmaPhase) (r : Region) (d : Nat) : Prop where
  reads : Lexes .outside x z w phase
  unbroken : Unbroken .start x
  after : start.after x = ⟨r, d⟩
  unbrokenTokens : Unbroken .start (marks w)
  afterTokens : start.after (marks w) = ⟨.code, d⟩
  inStep : InStep r z

theorem Begun.nil (z : List Char) : Begun [] z [] .outside .code 0 :=
  ⟨Lexes.nil, trivial, rfl, trivial, rfl, .code⟩

section Begun

variable {x x' z : List Char} {w : List Token} {phase : PragmaPhase} {r r' : Region} {d : Nat} {t : Option Token}

/-- A lexeme that goes by belongs to the piece. -/
theorem Begun.quiet (h : Begun x (x' ++ z) w phase r d) (hread : Reads (phase == .version) x' z t) (hunmarked : Unmarked t)
    (hunbroken : Unbroken ⟨r, d⟩ x') (hover : (⟨r, d⟩ : Cursor).after x' = ⟨r', d⟩) (hstep : InStep r' z) :
    Begun (x ++ x') z (w ++ t.toList) (phase.behind t) r' d := by
  have hmarks : Unbroken ⟨.code, d⟩ (marks t.toList) ∧ (⟨.code, d⟩ : Cursor).after (marks t.toList) = ⟨.code, d⟩ := by
    cases t with
    | none => exact ⟨trivial, rfl⟩
    | some tok =>
      rw [Option.toList_some, marks, List.map_singleton, hunmarked tok rfl]
      exact ⟨⟨rfl, trivial⟩, rfl⟩
  refine ⟨h.reads.append (Lexes.single hread), ?_, ?_, ?_, ?_, hstep⟩
  · rw [unbroken_append, h.after]
    exact ⟨h.unbroken, hunbroken⟩
  · rw [after_append, h.after, hover]
  · rw [marks, List.map_append, unbroken_append, h.afterTokens]
    exact ⟨h.unbrokenTokens, hmarks.1⟩
  · rw [marks, List.map_append, after_append, h.afterTokens, hmarks.2]

/-- A mark that ends no item belongs to the piece as well. -/
theorem Begun.mark {c : Char} {tok : Token} (h : Begun x (c :: z) w phase r d)
    (hread : Reads (phase == .version) [c] z (some tok)) (hmark : tok.mark = c)
    (hstep : (⟨r, d⟩ : Cursor).step c = stepCode d c) (hends : (stepCode d c).2 = false) (hc : c = '{' ∨ c = '}' ∨ c = ';') :
    Begun (x ++ [c]) z (w ++ [tok]) (phase.next tok) .code (stepCode d c).1.depth := by
  have hcode : (stepCode d c).1 = ⟨.code, (stepCode d c).1.depth⟩ := by rcases hc with rfl | rfl | rfl <;> rfl
  refine ⟨h.reads.append (Lexes.single hread), ?_, ?_, ?_, ?_, .code⟩
  · rw [unbroken_append, h.after, unbroken_cons, hstep]
    exact ⟨h.unbroken, hends, trivial⟩
  · rw [after_append, h.after, after_cons, hstep]
    exact hcode
  · rw [marks, List.map_append, unbroken_append, h.afterTokens, List.map_singleton, hmark]
    exact ⟨h.unbrokenTokens, hends, trivial⟩
  · rw [marks, List.map_append, after_append, h.afterTokens, List.map_singleton, hmark]
    exact hcode

/-- What ends a piece is read alike before every text. -/
theorem reads_ending {version : Bool} {c : Char} {tok : Token} (hc : c = '}' ∨ c = ';') (hread : Reads version [c] z (some tok))
    (v : List Char) : Reads version [c] v (some tok) := by
  obtain ⟨o, hat⟩ : ∃ o, ∀ v, Lexeme.atStart version c v = .ofToken (.operator o) 1 := by
    rcases hc with rfl | rfl
    · exact ⟨.closeBrace, fun v => by rw [Lexeme.atStart]; rfl⟩
    · exact ⟨.semicolon, fun v => by rw [Lexeme.atStart]; rfl⟩
  obtain ⟨c', y, l, hx, hl, -, -, ht⟩ := hread
  injection hx with hc' hy
  subst hc' hy
  rw [hat] at hl
  subst hl
  exact ⟨c, [], _, rfl, hat _, rfl, rfl, ht⟩

/-- A mark that ends an item ends the piece, which is read alone as in the text. -/
theorem Begun.cut {c : Char} {tok : Token} (h : Begun x (c :: z) w phase r d)
    (hread : Reads (phase == .version) [c] z (some tok)) (hmark : tok.mark = c)
    (hstep : (⟨r, d⟩ : Cursor).step c = stepCode d c) (hends : (stepCode d c).2 = true) :
    Closes .start (x ++ [c]) ∧ Closes .start (marks (w ++ [tok])) ∧
      Lexes .outside (x ++ [c]) [] (w ++ [tok]) (phase.next tok) := by
  have hc : c = '}' ∨ c = ';' := (stepCode_ends hends).2.imp And.left And.left
  refine ⟨⟨x, c, rfl, h.unbroken, ?_⟩, ⟨marks w, c, ?_, h.unbrokenTokens, ?_⟩, ?_⟩
  · rw [h.after, hstep]
    exact hends
  · rw [marks, List.map_append, List.map_singleton, hmark]
  · rw [h.afterTokens]
    exact hends
  · have hsight : sight [c] = sight (c :: z) := by rcases hc with rfl | rfl <;> rfl
    exact (h.reads.of_sight hsight).append (Lexes.single (reads_ending hc hread []))

end Begun

/-- What is cut off first belongs to the pieces of the whole. -/
theorem CutTogether.cons {p text tail : List Char} {s w rest : List Token} {phase : PragmaPhase}
    {pieces : List (List Char × List Token)} (hp : Closes .start p) (hs : Closes .start (marks s))
    (hread : Lexes .outside p [] s .outside) (h : CutTogether text w phase pieces tail rest) :
    CutTogether (p ++ text) (s ++ w) phase ((p, s) :: pieces) tail rest := by
  refine ⟨by rw [h.whole]; simp, ?_, ?_, h.unbroken, ⟨by rw [h.tokens.whole]; simp, ?_, h.tokens.unbroken⟩, h.last, h.ending⟩
  · intro q hq
    rcases List.mem_cons.mp hq with rfl | hq
    · exact hp
    · exact h.closes q hq
  · intro q hq
    rcases List.mem_cons.mp hq with rfl | hq
    · exact hread
    · exact h.reads q hq
  · intro q hq
    rcases List.mem_cons.mp hq with rfl | hq
    · exact hs
    · exact h.tokens.closes q hq

theorem ReturnsIn.behind {p text : List Char} (h : ReturnsIn (p ++ text)) (hp : Closes .start p) : ReturnsIn text := by
  rintro x v rfl hregion
  refine h (p ++ x) v (by rw [List.append_assoc]) ?_
  rw [after_append, hp.after_eq]
  exact hregion

theorem PragmasClosed.behind {s w : List Token} (h : PragmasClosed (s ++ w)) (hs : Closes .start (marks s)) :
    s.foldl PragmaPhase.next .outside = .outside ∧ PragmasClosed w := by
  have hcons : ∀ segments rest, IsCut w segments rest → IsCut (s ++ w) (s :: segments) rest := by
    rintro segments rest ⟨hwhole, hcloses, hunbroken⟩
    refine ⟨by rw [hwhole]; simp, fun q hq => ?_, hunbroken⟩
    rcases List.mem_cons.mp hq with rfl | hq
    · exact hs
    · exact hcloses q hq
  constructor
  · obtain ⟨segments, rest, hcut⟩ := exists_isCut w
    exact h _ _ (hcons segments rest hcut) s (by simp)
  · intro segments rest hcut q hq
    refine h _ _ (hcons segments rest hcut) q ?_
    rcases List.mem_cons.mp hq with rfl | hq
    · exact List.mem_cons_self
    · exact List.mem_cons_of_mem _ (List.mem_cons_of_mem _ hq)

/-- A text and its tokens are cut at the same places, also behind the beginning of a piece. -/
theorem cut_behind {z u : List Char} {w' : List Token} {phase phase' : PragmaPhase} (h : Lexes phase z u w' phase') (hu : u = []) :
    ∀ {x : List Char} {w : List Token} {r : Region} {d : Nat}, Begun x z w phase r d → ReturnsIn (x ++ z) →
      (∀ raw, .addressText raw ∈ w' → (start.after raw.toList).region = .code) → PragmasClosed (w ++ w') →
      ∃ pieces tail rest, CutTogether (x ++ z) (w ++ w') phase' pieces tail rest := by
  induction h with
  | nil =>
    subst hu
    intro x w r d hbegun _ _ _
    refine ⟨[], x, w, by simp, by simp, by simp, hbegun.unbroken, ⟨by simp, by simp, hbegun.unbrokenTokens⟩, hbegun.reads, ?_⟩
    exact ⟨r, d, hbegun.after, hbegun.afterTokens, hbegun.inStep⟩
  | @cons phase phase' x' z u t w' hread _ ih =>
    subst hu
    intro x w r d hbegun hreturns haddresses hpragmas
    rw [List.append_nil] at hread
    have haddress : CutsAddress t := by
      rintro raw rfl
      exact haddresses raw (by simp)
    have hrest : ∀ raw, .addressText raw ∈ w' → (start.after raw.toList).region = .code :=
      fun raw hraw => haddresses raw (List.mem_append_right _ hraw)
    have hreturn : Returns ⟨r, d⟩ x' z := by
      rintro v rfl hregion
      refine hreturns (x ++ x') v (by rw [List.append_assoc]) ?_
      rw [after_append, hbegun.after]
      exact hregion
    have hpasses := hread.isLexeme.shape.passes hread.ne_nil haddress hbegun.inStep hreturn
    cases hpasses with
    | quiet hunmarked hunbroken hover hin =>
      rw [← List.append_assoc] at hreturns ⊢
      rw [← List.append_assoc w] at hpragmas ⊢
      exact ih rfl (hbegun.quiet hread hunmarked hunbroken hover hin) hreturns hrest hpragmas
    | @mark c _ tok hmark hc hstep =>
      have htext : x ++ ([c] ++ z) = x ++ [c] ++ z := by rw [List.append_assoc]
      have htokens : w ++ ((some tok).toList ++ w') = w ++ [tok] ++ w' := by rw [List.append_assoc]; rfl
      rw [htext] at hreturns ⊢
      rw [htokens] at hpragmas ⊢
      cases hends : (stepCode d c).2 with
      | false => exact ih rfl (hbegun.mark hread hmark hstep hends hc) hreturns hrest hpragmas
      | true =>
        obtain ⟨hp, hs, hpiece⟩ := hbegun.cut hread hmark hstep hends
        obtain ⟨hphase, hpragmas⟩ := hpragmas.behind hs
        have hnext : phase.next tok = .outside := hpiece.phase_eq.trans hphase
        have hbehind : phase.behind (some tok) = .outside := hnext
        rw [hnext] at hpiece
        rw [hbehind] at ih
        obtain ⟨pieces, tail, rest, hcut⟩ := ih rfl (Begun.nil z) (hreturns.behind hp) hrest hpragmas
        exact ⟨_, tail, rest, hcut.cons hp hs hpiece⟩

/-- A text and its tokens are cut at the same places. -/
theorem cut_lexes {text : List Char} {w : List Token} {phase : PragmaPhase} (h : Lexes .outside text [] w phase)
    (hreturns : ReturnsIn text) (haddresses : ∀ raw, .addressText raw ∈ w → (start.after raw.toList).region = .code)
    (hpragmas : PragmasClosed w) : ∃ pieces tail rest, CutTogether text w phase pieces tail rest :=
  cut_behind h rfl (Begun.nil text) hreturns haddresses hpragmas

end SoliditySchema
