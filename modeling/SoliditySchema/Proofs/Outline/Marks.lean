/-
  SoliditySchema.Proofs.Outline.Marks — what the cutting of a text and the lexer take for code.

  Braces and semicolons count where they are code. The cutting meets them in its walk over the characters
  (`Region.marks`), which are those among the segments of the text that are code (`Divides.marks_eq`); the lexer
  yields them as tokens. For a text without a fault both are the same, at the same offsets (`marks_of_scan`),
  unless the two are set apart: a line comment goes on for the cutting behind a carriage return where it has
  ended for the lexer (`marks_apart_at_return`), and in an address literal a backslash takes the closing quote
  with it for the cutting alone (`marks_apart_at_backslash`).
-/

import SoliditySchema.Proofs.Item.Segments
import SoliditySchema.Proofs.Outline.Agreement

namespace SoliditySchema

open Cursor Text

/-! ## The marks of a walk -/

/-- A brace or a semicolon. -/
def IsMark (c : Char) : Prop := c = '{' ∨ c = '}' ∨ c = ';'

instance (c : Char) : Decidable (IsMark c) := inferInstanceAs (Decidable (_ ∨ _))

namespace Region

/-- The region behind a character; the depth of the braces does not matter to it. -/
def next (r : Region) (c : Char) : Region := ((⟨r, 0⟩ : Cursor).step c).1.region

theorem step_region (r : Region) (d : Nat) (c : Char) : ((⟨r, d⟩ : Cursor).step c).1.region = r.next c := by
  have hcode : (stepCode d c).1.region = (stepCode 0 c).1.region := by
    unfold stepCode
    repeat' split
    all_goals rfl
  unfold next
  cases r with
  | code => exact hcode
  | slash =>
    by_cases hline : c = '/'
    · subst hline
      rfl
    by_cases hblock : c = '*'
    · subst hblock
      rfl
    · simp only [Cursor.step, if_neg hline, if_neg hblock]
      exact hcode
  | _ => rfl

theorem after_region (r : Region) (d e : Nat) (x : List Char) :
    ((⟨r, d⟩ : Cursor).after x).region = ((⟨r, e⟩ : Cursor).after x).region := by
  induction x generalizing r d e with
  | nil => rfl
  | cons c x ih =>
    have hstep : ∀ d, ((⟨r, d⟩ : Cursor).step c).1 = ⟨r.next c, ((⟨r, d⟩ : Cursor).step c).1.depth⟩ :=
      fun d => by rw [← step_region r d c]
    rw [after_cons, after_cons, hstep d, hstep e]
    exact ih _ _ _

/-- The marks that a walk meets in code, each with its offset. Behind a slash that opens no comment it is in
code as well. -/
def marks (r : Region) (n : Nat) : List Char → List (Nat × Char)
  | [] => []
  | c :: cs =>
    (if (r = .code ∨ r = .slash) ∧ IsMark c then [(n, c)] else []) ++ marks (r.next c) (n + c.utf8Size) cs

/-- A mark does what it does in code only where it is code. -/
theorem code_of_step {r : Region} {c : Char} (hc : IsMark c) (h : (⟨r, 0⟩ : Cursor).step c = stepCode 0 c) :
    r = .code ∨ r = .slash := by
  cases r with
  | code => exact .inl rfl
  | slash => exact .inr rfl
  | _ => rcases hc with rfl | rfl | rfl <;> simp [Cursor.step, stepCode] at h

theorem step_mark {r : Region} (hr : r = .code ∨ r = .slash) {c : Char} (hc : IsMark c) (d : Nat) :
    (⟨r, d⟩ : Cursor).step c = stepCode d c := by
  rcases hr with rfl | rfl
  · rfl
  · rcases hc with rfl | rfl | rfl <;> rfl

/-- What is no mark of code leaves the depth as it is. -/
theorem step_depth {r : Region} {c : Char} (h : ¬ ((r = .code ∨ r = .slash) ∧ IsMark c)) (d : Nat) :
    ((⟨r, d⟩ : Cursor).step c).1.depth = d := by
  have hcode : ¬ IsMark c → (stepCode d c).1.depth = d := by
    intro hc
    obtain ⟨ho, hcl, -⟩ : c ≠ '{' ∧ c ≠ '}' ∧ c ≠ ';' := by simpa [IsMark] using hc
    simp only [stepCode, ho, hcl, if_false]
    repeat' split
    all_goals rfl
  cases r with
  | code => exact hcode fun hc => h ⟨.inl rfl, hc⟩
  | slash =>
    unfold Cursor.step
    repeat' split
    all_goals first | rfl | exact hcode fun hc => h ⟨.inr rfl, hc⟩
  | _ => rfl

/-- A walk that ends no item and comes back to depth zero began there, and has met no mark: behind an opened
brace it would have to close it, and that ends an item. -/
theorem marks_of_unbroken {x : List Char} {r : Region} {d : Nat} (n : Nat) (hu : Unbroken ⟨r, d⟩ x)
    (hdepth : ((⟨r, d⟩ : Cursor).after x).depth = 0) : d = 0 ∧ marks r n x = [] := by
  induction x generalizing r d n with
  | nil => exact ⟨hdepth, rfl⟩
  | cons c x ih =>
    obtain ⟨hends, hu⟩ := hu
    have hstep : ((⟨r, d⟩ : Cursor).step c).1 = ⟨r.next c, ((⟨r, d⟩ : Cursor).step c).1.depth⟩ := by rw [← step_region r d c]
    rw [after_cons] at hdepth
    rw [hstep] at hu hdepth
    obtain ⟨hd, hmarks⟩ := ih (n + c.utf8Size) hu hdepth
    by_cases hc : (r = .code ∨ r = .slash) ∧ IsMark c
    · rw [step_mark hc.1 hc.2] at hends hd
      rcases hc.2 with rfl | rfl | rfl
      · exact absurd hd (Nat.succ_ne_zero d)
      · have hle : ¬ d ≤ 1 := by simpa [stepCode] using hends
        have hzero : d - 1 = 0 := hd
        omega
      · have hne : d ≠ 0 := by simpa [stepCode] using hends
        exact absurd hd hne
    · rw [step_depth hc] at hd
      exact ⟨hd, by rw [marks, if_neg hc, hmarks]; rfl⟩

theorem marks_append (r : Region) (n : Nat) (x y : List Char) :
    marks r n (x ++ y) = marks r n x ++ marks ((⟨r, 0⟩ : Cursor).after x).region (n + byteLength x) y := by
  induction x generalizing r n with
  | nil => rfl
  | cons c x ih =>
    have hstep : ((⟨r, 0⟩ : Cursor).after (c :: x)).region = ((⟨r.next c, 0⟩ : Cursor).after x).region :=
      after_region (r.next c) ((⟨r, 0⟩ : Cursor).step c).1.depth 0 x
    rw [List.cons_append, marks, marks, hstep, ih, List.append_assoc, byteLength_cons, Nat.add_assoc]

end Region

/-! ## The marks among segments -/

namespace Segment

/-- The mark that a segment at an offset is, with the offset. -/
def mark? (n : Nat) : Segment → Option (Nat × Char)
  | .code c => if IsMark c then some (n, c) else none
  | _ => none

/-- The marks among some segments, with their offsets. -/
def marks (n : Nat) : List Segment → List (Nat × Char)
  | [] => []
  | s :: ss => (s.mark? n).toList ++ marks (n + byteLength s.text) ss

theorem Resumes.marks_eq {r : Region} {rest : List Char} (h : Resumes r rest) (n : Nat) : r.marks n rest = Region.code.marks n rest := by
  rcases h with rfl | rfl | ⟨rfl, hrest⟩
  · rfl
  · rfl
  · obtain ⟨rest, rfl⟩ := List.head?_eq_some_iff.mp hrest
    rw [Region.marks, Region.marks, if_neg (by decide), if_neg (by decide)]
    rfl

/-- Behind a character of code the walk goes on as in code, also behind a slash. -/
theorem marks_behind {c : Char} {rest : List Char} (h : Stands (.code c) rest) (n : Nat) :
    (Region.code.next c).marks n rest = Region.code.marks n rest := by
  have hquote : ¬ (c = '"' ∨ c = '\'') := h.1
  by_cases hc : c = '/'
  · subst hc
    cases rest with
    | nil => rfl
    | cons e rest =>
      obtain ⟨hline, hblock⟩ := h.2 rfl e rfl
      have hnext : Region.slash.next e = Region.code.next e := by
        simp only [Region.next, Cursor.step, if_neg hline, if_neg hblock]
      show Region.slash.marks n (e :: rest) = _
      rw [Region.marks, Region.marks, hnext]
      simp
  · have hnext : Region.code.next c = .code := by
      simp only [Region.next, Cursor.step, stepCode, if_neg hc, if_neg hquote]
      repeat' split
      all_goals rfl
    rw [hnext]

theorem InPlace.marks_eq {ss : List Segment} (h : InPlace ss) (n : Nat) : Region.code.marks n (textOf ss) = marks n ss := by
  induction ss generalizing n with
  | nil => rfl
  | cons s ss ih =>
    obtain ⟨hs, hss⟩ := h
    rw [marks, ← ih hss]
    by_cases hcode : ∃ c, s = .code c
    · obtain ⟨c, rfl⟩ := hcode
      show Region.code.marks n (c :: textOf ss) = _
      rw [Region.marks, marks_behind hs]
      by_cases hc : IsMark c <;> simp [mark?, text, hc]
    · have hne : ∀ c, s ≠ .code c := fun c hc => hcode ⟨c, hc⟩
      obtain ⟨hu, r, ho, hr⟩ := hs.run hne 0
      have hnone : s.mark? n = none := by
        cases s with
        | code c => exact absurd rfl (hne c)
        | _ => rfl
      have hnothing := (Region.marks_of_unbroken n hu (by rw [ho])).2
      rw [textOf_cons, Region.marks_append, hnothing, ho, hnone, hr.marks_eq]
      rfl

/-- The marks that the walk over a text meets are those of code in its segments. -/
theorem Divides.marks_eq {text : List Char} {ss : List Segment} (h : Divides text ss) : Region.code.marks 0 text = marks 0 ss := by
  rw [← h.1]
  exact h.2.marks_eq 0

end Segment

/-! ## The marks among tokens -/

/-- The mark that a token at an offset is, with the offset. -/
def Token.markAt (n : Nat) (t : Token) : Option (Nat × Char) := if t.mark = 'a' then none else some (n, t.mark)

/-- The marks among the tokens of a scan, with their offsets. -/
def Scan.marks (scan : Scan) : List (Nat × Char) := scan.tokens.filterMap fun t => t.token.markAt t.start

/-- A lexeme shows the walk the mark that it is, or none. -/
theorem Passes.marks_eq {r : Region} {x u : List Char} {t : Option Token} (h : Passes ⟨r, 0⟩ x u t) (n : Nat) :
    r.marks n x = (t.bind (Token.markAt n)).toList ∧ InStep ((⟨r, 0⟩ : Cursor).after x).region u := by
  cases h with
  | quiet hunmarked hunbroken hover hin =>
    have hnone : t.bind (Token.markAt n) = none := by
      cases t with
      | none => rfl
      | some t => exact if_pos (hunmarked t rfl)
    rw [hover, hnone]
    exact ⟨(Region.marks_of_unbroken n hunbroken (by rw [hover])).2, hin⟩
  | @mark c _ t hmark hc hstep =>
    have hne : c ≠ 'a' := by rcases hc with rfl | rfl | rfl <;> decide
    have hsome : t.markAt n = some (n, c) := by rw [Token.markAt, hmark, if_neg hne]
    have hnext : ((⟨r, 0⟩ : Cursor).after [c]).region = .code := by
      rw [after_cons, hstep]
      rcases hc with rfl | rfl | rfl <;> rfl
    rw [hnext, Option.bind_some, hsome, Region.marks, if_pos ⟨Region.code_of_step hc hstep, hc⟩]
    exact ⟨rfl, .code⟩

theorem marks_addLexeme (l : Lexeme) (cs : List Char) (start : Nat) (after : Scan) :
    (Scan.addLexeme l cs start after).marks = ((l.token.map Prod.fst).bind (Token.markAt start)).toList ++ after.marks := by
  rw [Scan.marks, Scan.addLexeme, List.filterMap_append]
  cases l.token with
  | none => rfl
  | some t =>
    show (List.filterMap _ [_]) ++ _ = (t.1.markAt start).toList ++ _
    cases hmark : t.1.markAt start <;> simp [hmark, Scan.marks]

/-- Behind the beginning of a text the walk and the lexer go on to meet the same marks. -/
theorem marks_of_suffix {phase : PragmaPhase} {start : Nat} {text : List Char} {r : Region}
    (hfaults : (Scan.ofSuffix phase start 0 text).faults = []) (hstep : InStep r text)
    (hreturns : ∀ x v, text = x ++ '\r' :: v → ((⟨r, 0⟩ : Cursor).after x).region = .lineComment → Harmless v)
    (haddresses : ∀ t ∈ (Scan.ofSuffix phase start 0 text).tokens, CutsAddress (some t.token)) :
    r.marks start text = (Scan.ofSuffix phase start 0 text).marks := by
  induction hn : text.length using Nat.strongRecOn generalizing phase start text r with
  | ind n ih =>
    cases text with
    | nil => rfl
    | cons c cs =>
      generalize hl : Lexeme.atStart (phase == .version) c cs = l
      rw [Scan.ofSuffix_cons hl] at hfaults haddresses ⊢
      rw [Scan.faults_addLexeme] at hfaults
      obtain ⟨y, u, rfl, hlength, hlexeme⟩ := atStart_begins hl hfaults.1
      have hskip := Scan.ofSuffix_skip (phase.behind (l.token.map Prod.fst)) y u (start + c.utf8Size)
      have hstart : start + c.utf8Size + byteLength y = start + byteLength (c :: y) := Nat.add_assoc _ _ _
      have hlt : u.length < n := by
        rw [← hn, List.length_cons, List.length_append]
        omega
      rw [hlength, Nat.add_sub_cancel, hskip, hstart] at hfaults haddresses ⊢
      have haddress : CutsAddress (l.token.map Prod.fst) := by
        intro raw hraw
        obtain ⟨⟨token, k⟩, htoken, rfl⟩ := Option.map_eq_some_iff.mp hraw
        exact haddresses _ (List.mem_append_left _ (by rw [htoken]; exact List.mem_singleton_self _)) raw rfl
      have hreturn : Returns ⟨r, 0⟩ (c :: y) u := by
        intro v hv hregion
        exact hreturns (c :: y) v (by rw [hv]; rfl) hregion
      -- one lexeme keeps the walk in step, at depth zero as at any other
      obtain ⟨hmarks, hin⟩ := (hlexeme.shape.passes (List.cons_ne_nil c y) haddress hstep hreturn).marks_eq start
      have hrest := ih u.length hlt hfaults.2 hin (fun x v hu hregion => ?_)
        (fun t ht => haddresses t (List.mem_append_right _ ht)) rfl
      · rw [marks_addLexeme, ← hmarks, ← hrest]
        exact Region.marks_append r start (c :: y) u
      · refine hreturns (c :: y ++ x) v (by rw [hu, List.cons_append, List.cons_append, List.append_assoc]) ?_
        rw [after_append, ← hregion]
        exact Region.after_region _ _ _ x

/-- For a text without a fault the cutting and the lexer take the same marks for code, at the same offsets, if
nothing sets them apart. -/
theorem marks_of_scan {text : List Char} {ss : List Segment} (hss : Segment.Divides text ss)
    (hfaults : (Scan.ofText text).faults = []) (hreturns : ReturnsIn text)
    (haddresses : ∀ t ∈ (Scan.ofText text).tokens, CutsAddress (some t.token)) :
    Segment.marks 0 ss = (Scan.ofText text).marks := by
  rw [← hss.marks_eq]
  exact marks_of_suffix hfaults .code hreturns haddresses

theorem marks_around_address :
    ∃ ss, Segment.Divides "\x7baddress\"0\"\x7d".toList ss ∧
      Segment.marks 0 ss = (Scan.ofText "\x7baddress\"0\"\x7d".toList).marks ∧
      (Scan.ofText "\x7baddress\"0\"\x7d".toList).marks = [(0, '{'), (11, '}')] := by
  obtain ⟨ss, hss⟩ := Segment.exists_divides "\x7baddress\"0\"\x7d".toList
  have htokens : (Scan.ofText "\x7baddress\"0\"\x7d".toList).tokens.map PlacedToken.token =
      [.operator .openBrace, .addressText "address\"0\"", .operator .closeBrace] := by decide
  refine ⟨ss, hss, marks_of_scan hss (by decide) ?_ ?_, by decide⟩
  · intro x v htext
    have hmem : '\r' ∈ x ++ '\r' :: v := by simp
    rw [← htext] at hmem
    exact absurd hmem (by decide)
  · intro t ht raw hraw
    have hmem := List.mem_map_of_mem (f := PlacedToken.token) ht
    rw [htokens, Option.some_inj.mp hraw] at hmem
    obtain rfl : raw = "address\"0\"" := by simpa using hmem
    decide

/-- The comment has ended for the lexer, and not for the cutting. -/
theorem marks_apart_at_return :
    (Scan.ofText "//\r\x7d".toList).faults = [] ∧ Region.code.marks 0 "//\r\x7d".toList = [] ∧
      (Scan.ofText "//\r\x7d".toList).marks = [(3, '}')] := by
  decide

/-- The literal has ended for the lexer, and not for the cutting. -/
theorem marks_apart_at_backslash :
    (Scan.ofText "address\"\\\";".toList).faults = [] ∧ Region.code.marks 0 "address\"\\\";".toList = [] ∧
      (Scan.ofText "address\"\\\";".toList).marks = [(10, ';')] := by
  decide

end SoliditySchema
