/-
  SoliditySchema.Proofs.Json.Skip — a value that is not wanted is skipped.

  Whichever way a value is written, skipping takes its text and stops behind it (`passes_skipValue`). The open
  brackets are kept on a stack, so it goes to any depth. What is shown by induction on the text is how many rounds it
  takes: fewer than twice the length of a value, and at most twice that of what is left of a container.
-/

import SoliditySchema.Proofs.Json.Written

namespace SoliditySchema.Json

open Input Reader

-- Nearly every proof below takes a step of `skipFrom`, so its equations are made ready once.
attribute [local simp] skipFrom

/-! ## Skipping numbers -/

/-- A text that does not go on with a digit. -/
def EndsDigits (r : List Char) : Prop := ∀ c ∈ r.head?, isDigit c = false

theorem Behind.endsDigits {r : List Char} (h : Behind r) : EndsDigits r := h.avoids rfl

theorem Exponent.endsDigits {x r : List Char} {e : Int} (h : Exponent x e) (hr : Behind r) : EndsDigits (x ++ r) := by
  have hmark : ∀ {e : Char} {u : List Char}, e = 'e' ∨ e = 'E' → EndsDigits (e :: u) := by
    intro e u he c hc
    obtain rfl := Option.some_inj.mp hc
    rcases he with rfl | rfl <;> rfl
  cases h with
  | none => exact hr.endsDigits
  | plain he _ => exact hmark he
  | plus he _ => exact hmark he
  | minus he _ => exact hmark he

theorem Fraction.endsDigits {f ds x r : List Char} {e : Int} (h : Fraction f ds) (hx : Exponent x e) (hr : Behind r) :
    EndsDigits (f ++ (x ++ r)) := by
  cases h with
  | none => exact hx.endsDigits hr
  | digits _ =>
    intro c hc
    obtain rfl := Option.some_inj.mp hc
    rfl

theorem rest_digits {i : Input} {ds r : List Char} (hds : ∀ c ∈ ds, isDigit c = true) (hr : EndsDigits r)
    (hi : i.rest = ds ++ r) : i.digits.2.rest = r := by
  have htake : i.rest.takeWhile isDigit = ds := by
    rw [hi, List.takeWhile_append_of_pos hds]
    cases r with
    | nil => exact List.append_nil ds
    | cons c r => rw [List.takeWhile_cons_of_neg (by rw [hr c rfl]; exact Bool.false_ne_true), List.append_nil]
  rw [digits, htake, rest_skip, hi, List.drop_left]

theorem passes_someDigits {ds r : List Char} (hds : Digits ds) (hr : EndsDigits r) (atEnd : Cause) {i : Input}
    (hi : i.rest = ds ++ r) : ∃ j, (i.someDigits atEnd).map Prod.snd = .ok j ∧ j.rest = r := by
  refine ⟨i.digits.2, ?_, rest_digits hds.2 hr hi⟩
  obtain ⟨hne, hall⟩ := hds
  cases ds with
  | nil => exact absurd rfl hne
  | cons d ds =>
    rw [List.cons_append] at hi
    simp only [someDigits, hi, hall d List.mem_cons_self, if_true]
    rfl

theorem atDigit_of_endsDigits {i : Input} (h : EndsDigits i.rest) : i.atDigit = false := by
  unfold atDigit peek?
  cases hi : i.rest with
  | nil => rfl
  | cons c r =>
    rw [hi] at h
    exact h c rfl

theorem ne_sign_of_digits {ds r : List Char} (h : Digits ds) : (ds ++ r).head? ≠ some '+' ∧ (ds ++ r).head? ≠ some '-' := by
  obtain ⟨hne, hall⟩ := h
  cases ds with
  | nil => exact absurd rfl hne
  | cons d ds =>
    have hd := hall d List.mem_cons_self
    constructor
    · intro hc
      rw [Option.some_inj.mp hc] at hd
      cases hd
    · intro hc
      rw [Option.some_inj.mp hc] at hd
      cases hd

/-- An exponent behind its mark. -/
theorem passes_exponent {e : Char} {u r : List Char} {n : Int} (h : Exponent (e :: u) n) (hr : Behind r) :
    Passes skipExponent (u ++ r) r := by
  intro i hi
  have hsigned : ∀ {s : Char} {ds : List Char}, s = '+' ∨ s = '-' → Digits ds → i.rest = s :: (ds ++ r) →
      ∃ j, skipExponent i = .ok j ∧ j.rest = r := by
    intro s ds hs hds hi
    have hpeek : i.peek? = some '+' ∨ i.peek? = some '-' := by
      rw [peek?, hi]
      rcases hs with rfl | rfl
      · exact .inl rfl
      · exact .inr rfl
    unfold skipExponent
    rw [if_pos hpeek]
    exact passes_someDigits hds hr.endsDigits _ (by rw [rest_skip, hi]; rfl)
  cases h with
  | plain _ hds =>
    obtain ⟨hplus, hminus⟩ := ne_sign_of_digits (r := r) hds
    have hpeek : ¬ (i.peek? = some '+' ∨ i.peek? = some '-') := by
      rw [peek?, hi]
      exact fun h => h.elim hplus hminus
    unfold skipExponent
    rw [if_neg hpeek]
    exact passes_someDigits hds hr.endsDigits _ hi
  | plus _ hds => exact hsigned (.inl rfl) hds hi
  | minus _ hds => exact hsigned (.inr rfl) hds hi

/-- Where there is no fraction there may be an exponent. -/
theorem passes_exponent? {x r : List Char} {n : Int} (h : Exponent x n) (hr : Behind r) {i : Input} (hi : i.rest = x ++ r) :
    ∃ j, (if i.peek? = some 'e' ∨ i.peek? = some 'E' then skipExponent (i.skip 1) else .ok i) = .ok j ∧ j.rest = r := by
  have hmarked : ∀ {e : Char} {u : List Char}, e = 'e' ∨ e = 'E' → Exponent (e :: u) n → i.rest = e :: (u ++ r) →
      ∃ j, (if i.peek? = some 'e' ∨ i.peek? = some 'E' then skipExponent (i.skip 1) else .ok i) = .ok j ∧ j.rest = r := by
    intro e u he h hi
    have hpeek : i.peek? = some 'e' ∨ i.peek? = some 'E' := by
      rw [peek?, hi]
      rcases he with rfl | rfl
      · exact .inl rfl
      · exact .inr rfl
    rw [if_pos hpeek]
    exact passes_exponent h hr _ (by rw [rest_skip, hi]; rfl)
  cases h with
  | none =>
    have hpeek : ¬ (i.peek? = some 'e' ∨ i.peek? = some 'E') := by
      rw [peek?, hi]
      rintro (h | h)
      · exact absurd (hr _ h) (by decide)
      · exact absurd (hr _ h) (by decide)
    rw [if_neg hpeek]
    exact ⟨i, rfl, hi⟩
  | plain he hds => exact hmarked he (.plain he hds) hi
  | plus he hds => exact hmarked he (.plus he hds) hi
  | minus he hds => exact hmarked he (.minus he hds) hi

/-- Without a point there can only be an exponent. -/
theorem skipFraction_eq {i : Input} (h : i.peek? ≠ some '.') :
    skipFraction i = if i.peek? = some 'e' ∨ i.peek? = some 'E' then skipExponent (i.skip 1) else .ok i := by
  unfold skipFraction
  unfold peek? at h ⊢
  cases hi : i.rest with
  | nil => rfl
  | cons c r =>
    rw [hi] at h
    simp only [List.head?_cons, Option.some.injEq, ne_eq] at h ⊢
    by_cases hl : c = 'e'
    · subst hl; rfl
    by_cases hu : c = 'E'
    · subst hu; rfl
    rw [if_neg (not_or_intro hl hu)]
    split
    · rename_i heq
      injection heq with hc
      exact absurd hc h
    · rename_i heq
      injection heq with hc
      exact absurd hc hl
    · rename_i heq
      injection heq with hc
      exact absurd hc hu
    · rfl

theorem Exponent.ne_point {x r : List Char} {n : Int} (h : Exponent x n) (hr : Behind r) : (x ++ r).head? ≠ some '.' := by
  cases h with
  | none => exact fun hc => absurd (hr _ hc) (by decide)
  | plain he _ => rcases he with rfl | rfl <;> (intro hc; cases hc)
  | plus he _ => rcases he with rfl | rfl <;> (intro hc; cases hc)
  | minus he _ => rcases he with rfl | rfl <;> (intro hc; cases hc)

theorem passes_fraction {f ds x r : List Char} {n : Int} (hf : Fraction f ds) (hx : Exponent x n) (hr : Behind r) :
    Passes skipFraction (f ++ (x ++ r)) r := by
  intro i hi
  cases hf with
  | none =>
    have hpoint : i.peek? ≠ some '.' := by
      rw [peek?, hi]
      exact hx.ne_point hr
    rw [skipFraction_eq hpoint]
    exact passes_exponent? hx hr hi
  | digits hds =>
    have hskip : (i.skip 1).rest = ds ++ (x ++ r) := by
      rw [rest_skip, hi]
      rfl
    have hdigit : (i.skip 1).atDigit = true := by
      obtain ⟨hne, hall⟩ := hds
      unfold atDigit peek?
      rw [hskip]
      cases ds with
      | nil => exact absurd rfl hne
      | cons d ds => exact hall d List.mem_cons_self
    have hrest := rest_digits hds.2 (hx.endsDigits hr) hskip
    unfold skipFraction
    rw [hi]
    simp only [List.cons_append, hdigit, Bool.not_true, Bool.false_eq_true, if_false]
    exact passes_exponent? hx hr hrest

theorem passes_number {w f ds x r : List Char} {n : Int} (hw : Whole w) (hf : Fraction f ds) (hx : Exponent x n) (hr : Behind r) :
    Passes skipNumber (w ++ (f ++ (x ++ r))) r := by
  intro i hi
  cases hw with
  | zero =>
    have hskip : (i.skip 1).rest = f ++ (x ++ r) := by
      rw [rest_skip, hi]
      rfl
    have hdigit : (i.skip 1).atDigit = false := atDigit_of_endsDigits (by rw [hskip]; exact hf.endsDigits hx hr)
    obtain ⟨j, hj, hrest⟩ := passes_fraction hf hx hr _ hskip
    refine ⟨j, ?_, hrest⟩
    unfold skipNumber
    rw [hi]
    simp only [List.cons_append, List.nil_append, hdigit, Bool.false_eq_true, if_false]
    exact hj
  | digits hds hzero =>
    obtain ⟨j, hj, hrest⟩ := passes_fraction hf hx hr _ (rest_digits hds.2 (hf.endsDigits hx hr) hi)
    refine ⟨j, ?_, hrest⟩
    obtain ⟨hne, hall⟩ := hds
    cases w with
    | nil => exact absurd rfl hne
    | cons d w =>
      rw [List.cons_append] at hi
      unfold skipNumber
      split
      · rename_i hnil
        rw [hi] at hnil
        cases hnil
      · rename_i hcons
        rw [hi] at hcons
        injection hcons with hd
        exact absurd (congrArg some hd) hzero
      · rename_i c cs _ hcons
        rw [hi] at hcons
        injection hcons with hd
        rw [← hd, if_pos (hall d List.mem_cons_self)]
        exact hj

/-! ## Skipping words and text literals -/

theorem passes_word (cs r : List Char) : Passes (word cs) (cs ++ r) r := by
  induction cs with
  | nil => exact fun i hi => ⟨i, rfl, hi⟩
  | cons c cs ih =>
    intro i hi
    obtain ⟨j, hj, hrest⟩ := ih (i.skip 1) (by rw [rest_skip, hi]; rfl)
    refine ⟨j, ?_, hrest⟩
    rw [word, hi]
    simp only [List.cons_append, if_true, hj]

/-- The content of a literal and its closing quote. -/
theorem passes_content {t cs : List Char} (h : Spells t cs) (r : List Char) : Passes skipText (t ++ '"' :: r) r := by
  have hall : ∀ offset, ∃ j : Input, skipContent offset (t ++ '"' :: r) = .ok j ∧ j.rest = r := by
    induction h with
    | nil => exact fun offset => ⟨⟨r, offset + 1⟩, by rw [List.nil_append, skipContent], rfl⟩
    | @plain c t cs hquote hslash hcode _ ih =>
      intro offset
      obtain ⟨j, hj, hrest⟩ := ih (offset + c.utf8Size)
      refine ⟨j, ?_, hrest⟩
      rw [List.cons_append, skipContent, if_neg hslash, if_neg (Nat.not_lt.mpr hcode), hj]
      · exact hquote
      · intro x₁ x₂ x₃ x₄ rest h
        exact absurd h hslash
      · intro e rest h
        exact absurd h hslash
    | @simple e c t cs he _ ih =>
      intro offset
      obtain ⟨j, hj, hrest⟩ := ih (offset + 2)
      refine ⟨j, ?_, hrest⟩
      rw [List.cons_append, List.cons_append, skipContent, he]
      · exact hj
      · intro x₁ x₂ x₃ x₄ rest h
        exact absurd h (ne_u_of_simpleEscape? he)
    | code hn _ _ _ ih =>
      intro offset
      obtain ⟨j, hj, hrest⟩ := ih (offset + 6)
      refine ⟨j, ?_, hrest⟩
      simp only [List.cons_append, skipContent, hn]
      exact hj
    | halves hx _ hy _ _ ih =>
      intro offset
      obtain ⟨j, hj, hrest⟩ := ih (offset + 12)
      refine ⟨j, ?_, hrest⟩
      simp only [List.cons_append, skipContent, hx, hy]
      exact hj
  intro i hi
  rw [skipText, hi]
  exact hall i.offset

/-- A text is skipped as a value in fewer rounds than twice its length. -/
def Skipped (t : List Char) : Prop :=
  ∀ b r i, Blanks b → Behind r → i.rest = b ++ (t ++ r) →
    ∃ n j, n < 2 * t.length ∧ j.rest = r ∧ ∀ fuel bs, skipFrom (fuel + n) .value bs i = skipFrom fuel .done bs j

/-- Where skipping stands in a container, before its first item or behind one. -/
def Input.SkipPhase.inside : Bool → SkipPhase
  | true => .opened
  | false => .done

/-- A text is skipped as what is left of a container. -/
def SkippedInside (bracket : Bracket) (first : Bool) (t : List Char) : Prop :=
  ∀ r i, i.rest = t ++ r →
    ∃ n j, n ≤ 2 * t.length ∧ j.rest = r ∧
      ∀ fuel bs, skipFrom (fuel + n) (.inside first) (bracket :: bs) i = skipFrom fuel .done bs j

/-- A value without brackets takes one round. -/
theorem skipped_scalar {c : Char} {u : List Char} (hc : isBlank c = false) (take : Input → Except Fault Input)
    (htake : ∀ r, Behind r → Passes take (c :: (u ++ r)) r)
    (hstep : ∀ fuel bs i, i.skipBlanks.peek? = some c → skipFrom (fuel + 1) .value bs i =
      match take i.skipBlanks with | .error f => .error f | .ok j => skipFrom fuel .done bs j) : Skipped (c :: u) := by
  intro b r i hb hr hi
  have hpeek := peek?_skipBlanks hb hc hi
  obtain ⟨j, hj, hrest⟩ := htake r hr i.skipBlanks (rest_skipBlanks hb hc hi)
  refine ⟨1, j, by simp only [List.length_cons]; omega, hrest, fun fuel bs => ?_⟩
  rw [hstep fuel bs i hpeek, hj]

/-- The character that is known is taken. -/
theorem Passes.skip {take : Input → Except Fault Input} {u r : List Char} (h : Passes take u r) (c : Char) :
    Passes (fun i => take (i.skip 1)) (c :: u) r := by
  intro i hi
  exact h (i.skip 1) (by rw [rest_skip, hi]; rfl)

theorem skipFrom_digit {c : Char} (hc : isDigit c = true) (fuel : Nat) (bs : List Bracket) (i : Input)
    (h : i.skipBlanks.peek? = some c) : skipFrom (fuel + 1) .value bs i =
      match skipNumber i.skipBlanks with | .error f => .error f | .ok j => skipFrom fuel .done bs j := by
  have := digit_cases hc
  simp only [List.mem_cons, List.not_mem_nil, or_false] at this
  rcases this with rfl | rfl | rfl | rfl | rfl | rfl | rfl | rfl | rfl | rfl <;> (rw [skipFrom, h]; rfl)

/-- A number, with its sign if it has one. -/
theorem skipped_number {s w f ds x : List Char} {sign n : Int} (hs : Sign s sign) (hw : Whole w) (hf : Fraction f ds)
    (hx : Exponent x n) : Skipped (s ++ (w ++ (f ++ x))) := by
  have htake : ∀ r, Behind r → Passes skipNumber ((w ++ (f ++ x)) ++ r) r := by
    intro r hr
    rw [List.append_assoc, List.append_assoc]
    exact passes_number hw hf hx hr
  cases hs with
  | none =>
    obtain ⟨c, cs, rfl, hc⟩ := hw.exists_digit
    refine skipped_scalar (isBlank_of_isDigit hc) _ htake ?_
    exact fun fuel bs i h => skipFrom_digit hc fuel bs i h
  | minus =>
    refine skipped_scalar rfl _ (fun r hr => (htake r hr).skip '-') fun fuel bs i h => ?_
    rw [skipFrom, h]
    rfl

theorem skipped_word {c : Char} (cs : List Char) (hc : c = 'n' ∧ cs = ['u', 'l', 'l'] ∨ c = 't' ∧ cs = ['r', 'u', 'e'] ∨
    c = 'f' ∧ cs = ['a', 'l', 's', 'e']) : Skipped (c :: cs) := by
  have htake : ∀ r, Behind r → Passes (fun i => word cs (i.skip 1)) (c :: (cs ++ r)) r :=
    fun r _ => (passes_word cs r).skip c
  rcases hc with ⟨rfl, rfl⟩ | ⟨rfl, rfl⟩ | ⟨rfl, rfl⟩ <;>
    (refine skipped_scalar rfl _ htake fun fuel bs i h => ?_; rw [skipFrom, h]; rfl)

theorem skipped_string {t cs : List Char} (h : Spells t cs) : Skipped ('"' :: (t ++ ['"'])) := by
  refine skipped_scalar rfl (fun i => skipText (i.skip 1)) (fun r _ => ?_) fun fuel bs i h => ?_
  · rw [List.append_assoc]
    exact (passes_content h r).skip '"'
  · rw [skipFrom, h]
    rfl

/-- The bracket of a container, and its content. -/
theorem skipped_container (bracket : Bracket) {c : Char} {t : List Char} (hc : isBlank c = false)
    (hstep : ∀ fuel bs i, i.skipBlanks.peek? = some c →
      skipFrom (fuel + 1) .value bs i = skipFrom fuel .opened (bracket :: bs) (i.skipBlanks.skip 1))
    (h : SkippedInside bracket true t) : Skipped (c :: t) := by
  intro b r i hb _ hi
  obtain ⟨n, j, hn, hrest, hskip⟩ := h r (i.skipBlanks.skip 1) (by
    rw [rest_skip, rest_skipBlanks hb hc hi]
    rfl)
  refine ⟨n + 1, j, by simp only [List.length_cons]; omega, hrest, fun fuel bs => ?_⟩
  rw [← Nat.add_assoc, hstep _ bs i (peek?_skipBlanks hb hc hi)]
  exact hskip fuel bs

theorem skippedInside_close {bracket : Bracket} {first : Bool} {b : List Char} (hb : Blanks b) :
    SkippedInside bracket first (b ++ [bracket.close]) := by
  intro r i hi
  have hi : i.rest = b ++ bracket.close :: r := by rw [hi, List.append_assoc]; rfl
  have hblank : isBlank bracket.close = false := by cases bracket <;> rfl
  have hpeek := peek?_skipBlanks hb hblank hi
  refine ⟨1, i.skipBlanks.skip 1, by simp only [List.length_append, List.length_cons]; omega, ?_, fun fuel bs => ?_⟩
  · rw [rest_skip, rest_skipBlanks hb hblank hi]
    rfl
  · cases first <;> cases bracket <;> (simp only [SkipPhase.inside, skipFrom, hpeek]; rfl)

/-- What stands before a value in a container takes one round, up to blanks. -/
def Approached (bracket : Bracket) (first : Bool) (before : List Char) : Prop :=
  ∀ c v i, isBlank c = false → c ≠ ']' → i.rest = before ++ c :: v →
    ∃ b j, Blanks b ∧ j.rest = b ++ c :: v ∧ ∀ fuel bs,
      skipFrom (fuel + 1) (.inside first) (bracket :: bs) i = skipFrom fuel .value (bracket :: bs) j

/-- A value and what follows it in a container. -/
theorem Approached.value {bracket : Bracket} {first : Bool} {before t rest : List Char} {j : Json}
    (h : Approached bracket first before) (hw : Written j t) (ht : Skipped t) (hbehind : ∀ r, Behind (rest ++ r))
    (hrest : SkippedInside bracket false rest) : SkippedInside bracket first (before ++ (t ++ rest)) := by
  intro r i hi
  rw [List.append_assoc, List.append_assoc] at hi
  obtain ⟨c, cs, rfl, hc⟩ := hw.opening
  obtain ⟨b, k, hb, hk, happroach⟩ := h c _ i hc.isBlank_eq_false hc.ne_close hi
  obtain ⟨n, l, hn, hl, hvalue⟩ := ht b (rest ++ r) k hb (hbehind r) hk
  obtain ⟨m, o, hm, ho, hmore⟩ := hrest r l hl
  -- One round up to the value, `n` for the value, and `m` for what follows it.
  refine ⟨m + n + 1, o, by simp only [List.length_append] at hn hm ⊢; omega, ho, fun fuel bs => ?_⟩
  calc skipFrom (fuel + (m + n + 1)) (.inside first) (bracket :: bs) i
      = skipFrom (fuel + m + n) .value (bracket :: bs) k := by
        rw [← happroach, ← Nat.add_assoc, ← Nat.add_assoc]
    _ = skipFrom (fuel + m) .done (bracket :: bs) l := hvalue _ _
    _ = skipFrom fuel .done bs o := hmore _ _

theorem approached_element {first : Bool} {lead : List Char} (hl : Lead first lead) : Approached .list first lead := by
  intro c v i hc hclose hi
  cases hl with
  | first hb =>
    have hpeek := peek?_skipBlanks hb hc hi
    refine ⟨[], i.skipBlanks, .nil, rest_skipBlanks hb hc hi, fun fuel bs => ?_⟩
    simp only [SkipPhase.inside, skipFrom, hpeek, if_neg (show ¬ c = Bracket.list.close from hclose)]
  | next hb hb' =>
    rw [List.append_assoc, List.cons_append] at hi
    have hpeek := peek?_skipBlanks hb rfl hi
    refine ⟨_, i.skipBlanks.skip 1, hb', ?_, fun fuel bs => ?_⟩
    · rw [rest_skip, rest_skipBlanks hb rfl hi]
      rfl
    · simp only [SkipPhase.inside, skipFrom, hpeek, if_true]

/-- The key of a member, and its colon. -/
theorem passes_skipKey {b b' k : List Char} {key : String} (hb : Blanks b) (hk : Spells k key.toList) (hb' : Blanks b')
    (v : List Char) : Passes skipKey (b ++ '"' :: (k ++ '"' :: (b' ++ ':' :: v))) v := by
  intro i hi
  have hpeek := peek?_skipBlanks hb rfl hi
  obtain ⟨j, hj, hrest⟩ := passes_content hk _ (i.skipBlanks.skip 1) (by
    rw [rest_skip, rest_skipBlanks hb rfl hi]
    rfl)
  have hcolon := peek?_skipBlanks hb' rfl hrest
  refine ⟨j.skipBlanks.skip 1, ?_, ?_⟩
  · simp only [skipKey, hpeek, hj, hcolon]
  · rw [rest_skip, rest_skipBlanks hb' rfl hrest]
    rfl

theorem approached_member {first : Bool} {lead k b b' : List Char} {key : String} (hl : Lead first lead)
    (hk : Spells k key.toList) (hb : Blanks b) (hb' : Blanks b') :
    Approached .object first (lead ++ '"' :: (k ++ '"' :: (b ++ ':' :: b'))) := by
  intro c v i _ _ hi
  have hi : i.rest = lead ++ '"' :: (k ++ '"' :: (b ++ ':' :: (b' ++ c :: v))) := by rw [hi]; simp
  cases hl with
  | first hlead =>
    have hpeek := peek?_skipBlanks hlead rfl hi
    obtain ⟨j, hj, hrest⟩ := passes_skipKey .nil hk hb _ i.skipBlanks (rest_skipBlanks hlead rfl hi)
    refine ⟨b', j, hb', hrest, fun fuel bs => ?_⟩
    simp only [SkipPhase.inside, skipFrom, hpeek, hj]
    rfl
  | next hlead hlead' =>
    rw [List.append_assoc, List.cons_append] at hi
    have hpeek := peek?_skipBlanks hlead rfl hi
    obtain ⟨j, hj, hrest⟩ := passes_skipKey hlead' hk hb _ (i.skipBlanks.skip 1) (by
      rw [rest_skip, rest_skipBlanks hlead rfl hi]
      rfl)
    refine ⟨b', j, hb', hrest, fun fuel bs => ?_⟩
    simp only [SkipPhase.inside, skipFrom, hpeek, hj, if_true]

mutual

theorem Written.skipped {j : Json} {t : List Char} (h : Written j t) : Skipped t := by
  cases h with
  | null => exact skipped_word _ (.inl ⟨rfl, rfl⟩)
  | yes => exact skipped_word _ (.inr (.inl ⟨rfl, rfl⟩))
  | no => exact skipped_word _ (.inr (.inr ⟨rfl, rfl⟩))
  | number hs hw hf hx => exact skipped_number hs hw hf hx
  | string ht => exact skipped_string ht
  | array ht =>
    refine skipped_container .list rfl (fun fuel bs i h => ?_) ht.skipped
    rw [skipFrom, h]
    rfl
  | object ht =>
    refine skipped_container .object rfl (fun fuel bs i h => ?_) ht.skipped
    rw [skipFrom, h]
    rfl

theorem WrittenElements.skipped {first : Bool} {js : List Json} {t : List Char} (h : WrittenElements first js t) :
    SkippedInside .list first t := by
  cases h with
  | close hb => exact skippedInside_close hb
  | element hl hw hrest => exact (approached_element hl).value hw hw.skipped hrest.behind hrest.skipped

theorem WrittenMembers.skipped {first : Bool} {ms : List (String × Json)} {t : List Char} (h : WrittenMembers first ms t) :
    SkippedInside .object first t := by
  cases h with
  | close hb => exact skippedInside_close hb
  | member hl hk hb hb' hw hrest =>
    have := (approached_member hl hk hb hb').value hw hw.skipped hrest.behind hrest.skipped
    simpa using this

end

/-- A value behind blanks is skipped, and what is behind it is left. -/
theorem passes_skipValue {j : Json} {t b r : List Char} (h : Written j t) (hb : Blanks b) (hr : Behind r) :
    Passes skipValue (b ++ (t ++ r)) r := by
  intro i hi
  obtain ⟨n, k, hn, hrest, hskip⟩ := h.skipped b r i hb hr hi
  refine ⟨k, ?_, hrest⟩
  have hlen : i.rest.length = b.length + (t.length + r.length) := by rw [hi, List.length_append, List.length_append]
  obtain ⟨fuel, hfuel⟩ : ∃ fuel, 2 * i.rest.length + 2 = fuel + 1 + n := ⟨2 * i.rest.length + 1 - n, by omega⟩
  rw [skipValue, hfuel, hskip, skipFrom]

end SoliditySchema.Json
