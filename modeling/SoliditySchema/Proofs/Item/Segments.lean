/-
  SoliditySchema.Proofs.Item.Segments — the items of a text, read off its comments, literals and code.

  A text is divided from left to right into comments, literals between quotes and single characters of
  code, in one way (`exists_divides`, `Divides.unique`). The cutting goes over a segment at a time
  (`Stands.pieces_eq`): only a brace or a semicolon of code ends an item, so the cuts are where the depth of the
  braces of code says. What is inside a comment or a literal decides nothing, and another inside of the same
  length leaves every item where it is (`spans_refill`).
-/

import Mathlib.Data.List.Forall2
import SoliditySchema.Proofs.Item.ByteWalk

namespace SoliditySchema

open Cursor Text

/-- The offset behind an item. -/
def Item.stop (item : Item) : Nat := item.start + byteLength item.text

/-- The offset and the length of an item. -/
def Item.span (item : Item) : Nat × Nat := (item.start, byteLength item.text)

/-- A quote opens a literal. -/
def IsQuote (c : Char) : Prop := c = '"' ∨ c = '\''

instance (c : Char) : Decidable (IsQuote c) := inferInstanceAs (Decidable (_ ∨ _))

/-- A part of a text that is read as one: a comment, a literal or a character of code. What is not closed
reaches to the end of the text. -/
inductive Segment where
  | lineComment (inside : List Char)
  | blockComment (inside : List Char) (closed : Bool)
  | literal (quote : Char) (inside : List Char) (closed : Bool)
  | code (c : Char)
  deriving DecidableEq, Repr

namespace Segment

def text : Segment → List Char
  | .lineComment w => '/' :: '/' :: w
  | .blockComment w closed => '/' :: '*' :: (w ++ if closed then ['*', '/'] else [])
  | .literal q w closed => q :: (w ++ if closed then [q] else [])
  | .code c => [c]

/-- A segment ends where a rest begins, not earlier and not later. -/
def Stands : Segment → List Char → Prop
  | .lineComment w, rest => '\n' ∉ w ∧ ∀ c ∈ rest.head?, c = '\n'
  | .blockComment w true, _ => ¬ ['*', '/'] <:+: w
  | .blockComment w false, rest => ¬ ['*', '/'] <:+: w ∧ rest = []
  | .literal q w true, _ => IsQuote q ∧ Enclosed q w
  | .literal q w false, rest => IsQuote q ∧ (∀ x y, w = x ++ q :: y → ¬ Enclosed q x) ∧ rest = []
  | .code c, rest => ¬ IsQuote c ∧ (c = '/' → ∀ e ∈ rest.head?, e ≠ '/' ∧ e ≠ '*')

/-- The number of open braces of code behind a segment. -/
def depthAfter (depth : Nat) (s : Segment) : Nat :=
  if s = .code '{' then depth + 1 else if s = .code '}' then depth - 1 else depth

/-- A segment ends an item: a brace of code that closes the outermost one, or a semicolon of code outside all
braces. -/
def Cuts (depth : Nat) (s : Segment) : Prop :=
  s = .code '}' ∧ depth - 1 = 0 ∨ s = .code ';' ∧ depth = 0

instance (depth : Nat) (s : Segment) : Decidable (Cuts depth s) := inferInstanceAs (Decidable (_ ∨ _))

/-- The same comment or literal with another inside of the same length, which does not close it either. -/
inductive Refilled : Segment → Segment → Prop
  | lineComment {w w' : List Char} : byteLength w' = byteLength w → '\n' ∉ w' →
      Refilled (.lineComment w) (.lineComment w')
  | blockComment {w w' : List Char} {closed : Bool} : byteLength w' = byteLength w → ¬ ['*', '/'] <:+: w' →
      Refilled (.blockComment w closed) (.blockComment w' closed)
  | literal {q : Char} {w w' : List Char} {closed : Bool} : byteLength w' = byteLength w → q ∉ w' → '\\' ∉ w' →
      Refilled (.literal q w closed) (.literal q w' closed)

/-- The text that consecutive segments make up. -/
def textOf (ss : List Segment) : List Char := ss.flatMap Segment.text

/-- Each of some consecutive segments stands before those behind it. -/
def InPlace : List Segment → Prop
  | [] => True
  | s :: ss => s.Stands (textOf ss) ∧ InPlace ss

/-- The segments into which a text is divided from left to right. -/
def Divides (text : List Char) (ss : List Segment) : Prop := textOf ss = text ∧ InPlace ss

/-- The number of open braces of code behind some segments; it never goes below none. -/
def depth (ss : List Segment) : Nat := ss.foldl depthAfter 0

/-- An offset right after a segment that ends an item. -/
def IsCutPoint (ss : List Segment) (n : Nat) : Prop :=
  ∃ before s after, ss = before ++ s :: after ∧ Cuts (depth before) s ∧ n = byteLength (textOf (before ++ [s]))

@[simp] theorem textOf_nil : textOf [] = [] := rfl
@[simp] theorem textOf_cons (s : Segment) (ss : List Segment) : textOf (s :: ss) = s.text ++ textOf ss := rfl

/-! ## The segments of a text -/

theorem text_ne_nil (s : Segment) : s.text ≠ [] := by cases s <;> simp [text]

/-- Nothing but the end of a block comment stands before its end. -/
theorem nil_of_comment {w t u v : List Char} (hw : ¬ ['*', '/'] <:+: w ++ t)
    (ht : '*' :: '/' :: u = t ++ '*' :: '/' :: v) : t = [] := by
  match t with
  | [] => rfl
  | [c] => simp at ht
  | c :: e :: t =>
    obtain ⟨rfl, rfl, -⟩ : '*' = c ∧ '/' = e ∧ u = t ++ '*' :: '/' :: v := by simpa using ht
    exact absurd ⟨w, t, by simp⟩ hw

/-- A block comment ends with the first star and slash behind its beginning. -/
theorem comment_unique {w w' u u' : List Char} (hw : ¬ ['*', '/'] <:+: w) (hw' : ¬ ['*', '/'] <:+: w')
    (htext : w ++ '*' :: '/' :: u = w' ++ '*' :: '/' :: u') : w = w' := by
  rcases List.append_eq_append_iff.mp htext with ⟨t, rfl, ht⟩ | ⟨t, rfl, ht⟩
  · rw [nil_of_comment hw' ht, List.append_nil]
  · rw [nil_of_comment hw ht, List.append_nil]

/-- What the first characters of a text say of its first segment. -/
def opening : List Char → Region
  | [] => .code
  | c :: cs =>
    if IsQuote c then .quoted c
    else if c = '/' ∧ cs.head? = some '/' then .lineComment
    else if c = '/' ∧ cs.head? = some '*' then .blockComment
    else .code

def region : Segment → Region
  | .lineComment _ => .lineComment
  | .blockComment _ _ => .blockComment
  | .literal q _ _ => .quoted q
  | .code _ => .code

theorem Stands.opening_eq {s : Segment} {rest : List Char} (h : s.Stands rest) : opening (s.text ++ rest) = s.region := by
  have hslash : ¬ IsQuote '/' := by decide
  cases s with
  | lineComment w => simp [opening, text, region, hslash]
  | blockComment w closed => simp [opening, text, region, hslash]
  | literal q w closed =>
    have hq : IsQuote q := by cases closed <;> exact h.1
    simp [opening, text, region, hq]
  | code c =>
    have hline : ¬ (c = '/' ∧ rest.head? = some '/') := fun hc => (h.2 hc.1 _ hc.2).1 rfl
    have hblock : ¬ (c = '/' ∧ rest.head? = some '*') := fun hc => (h.2 hc.1 _ hc.2).2 rfl
    simp [opening, text, region, h.1, hline, hblock]

/-- A line comment ends where a text has its first newline. -/
theorem lineComment_unique {w w' u u' : List Char} (hw : '\n' ∉ w) (hw' : '\n' ∉ w') (hu : ∀ c ∈ u.head?, c = '\n')
    (hu' : ∀ c ∈ u'.head?, c = '\n') (htext : w ++ u = w' ++ u') : w = w' := by
  rcases List.append_eq_append_iff.mp htext with ⟨t, rfl, ht⟩ | ⟨t, rfl, ht⟩
  · cases t with
    | nil => simp
    | cons c t => exact absurd (by rw [← hu c (by rw [ht]; rfl)]; simp) hw'
  · cases t with
    | nil => simp
    | cons c t => exact absurd (by rw [← hu' c (by rw [ht]; rfl)]; simp) hw

/-- A text has one first segment. -/
theorem Stands.unique {s s' : Segment} {rest rest' : List Char} (h : s.Stands rest) (h' : s'.Stands rest')
    (htext : s.text ++ rest = s'.text ++ rest') : s = s' := by
  have hregion : s.region = s'.region := by rw [← h.opening_eq, ← h'.opening_eq, htext]
  cases s with
  | lineComment w =>
    cases s' with
    | lineComment w' =>
      rw [lineComment_unique h.1 h'.1 h.2 h'.2 (List.cons.inj (List.cons.inj htext).2).2]
    | _ => cases hregion
  | blockComment w closed =>
    cases s' with
    | blockComment w' closed' =>
      have hinside : w ++ (if closed then ['*', '/'] else []) ++ rest = w' ++ (if closed' then ['*', '/'] else []) ++ rest' :=
        (List.cons.inj (List.cons.inj htext).2).2
      cases closed with
      | true =>
        cases closed' with
        | true => rw [comment_unique h h' (by simpa using hinside)]
        | false =>
          obtain ⟨hw', rfl⟩ := h'
          exact absurd ⟨w, rest, by simpa using hinside⟩ hw'
      | false =>
        obtain ⟨hw, rfl⟩ := h
        cases closed' with
        | true => exact absurd ⟨w', rest', by simpa using hinside.symm⟩ hw
        | false =>
          obtain ⟨hw', rfl⟩ := h'
          obtain rfl : w = w' := by simpa using hinside
          rfl
    | _ => cases hregion
  | literal q w closed =>
    cases s' with
    | literal q' w' closed' =>
      obtain ⟨rfl, hinside⟩ := List.cons.inj htext
      cases closed with
      | true =>
        cases closed' with
        | true => rw [h.2.unique (ne_backslash h.1) h'.2 (by simpa using hinside)]
        | false =>
          obtain ⟨-, hw', rfl⟩ := h'
          exact absurd h.2 (hw' w rest (by simpa using hinside.symm))
      | false =>
        obtain ⟨-, hw, rfl⟩ := h
        cases closed' with
        | true => exact absurd h'.2 (hw w' rest' (by simpa using hinside))
        | false =>
          obtain ⟨-, -, rfl⟩ := h'
          obtain rfl : w = w' := by simpa using hinside
          rfl
    | _ => cases hregion
  | code c =>
    cases s' with
    | code c' => rw [(List.cons.inj htext).1]
    | _ => cases hregion

/-- A text that is not empty has a first segment. -/
theorem exists_stands (c : Char) (cs : List Char) : ∃ s rest, text s ++ rest = c :: cs ∧ s.Stands rest := by
  by_cases hq : IsQuote c
  · by_cases hw : ∃ w rest, cs = w ++ c :: rest ∧ Enclosed c w
    · obtain ⟨w, rest, rfl, hw⟩ := hw
      exact ⟨.literal c w true, rest, by simp [text], hq, hw⟩
    · exact ⟨.literal c cs false, [], by simp [text], hq, fun x y hx h => hw ⟨x, y, hx, h⟩, rfl⟩
  by_cases hline : c = '/' ∧ cs.head? = some '/'
  · obtain ⟨rfl, hcs⟩ := hline
    obtain ⟨cs, rfl⟩ := List.head?_eq_some_iff.mp hcs
    rcases find?_cases (List.cons_ne_nil '\n' []) cs with ⟨w, rest, rfl, hw, -⟩ | ⟨hw, -⟩
    · rw [List.singleton_infix_iff] at hw
      refine ⟨.lineComment w, '\n' :: rest, rfl, hw, fun e he => (Option.some_inj.mp he).symm⟩
    · rw [List.singleton_infix_iff] at hw
      exact ⟨.lineComment cs, [], by simp [text], hw, by simp⟩
  by_cases hblock : c = '/' ∧ cs.head? = some '*'
  · obtain ⟨rfl, hcs⟩ := hblock
    obtain ⟨cs, rfl⟩ := List.head?_eq_some_iff.mp hcs
    rcases find?_cases (List.cons_ne_nil '*' ['/']) cs with ⟨w, rest, rfl, hw, -⟩ | ⟨hw, -⟩
    · exact ⟨.blockComment w true, rest, by simp [text], hw⟩
    · exact ⟨.blockComment cs false, [], by simp [text], hw, rfl⟩
  · refine ⟨.code c, cs, rfl, hq, fun hc e he => ⟨?_, ?_⟩⟩
    · rintro rfl
      exact hline ⟨hc, he⟩
    · rintro rfl
      exact hblock ⟨hc, he⟩

theorem exists_divides (text : List Char) : ∃ ss, Divides text ss := by
  induction hn : text.length using Nat.strongRecOn generalizing text with
  | ind n ih =>
    cases text with
    | nil => exact ⟨[], rfl, trivial⟩
    | cons c cs =>
      obtain ⟨s, rest, htext, hs⟩ := exists_stands c cs
      have hlt : rest.length < n := by
        have hsum := congrArg List.length htext
        have hpos := List.length_pos_iff.mpr s.text_ne_nil
        rw [List.length_append, hn] at hsum
        omega
      obtain ⟨ss, rfl, hss⟩ := ih _ hlt rest rfl
      exact ⟨s :: ss, htext, hs, hss⟩

theorem InPlace.unique {ss ss' : List Segment} (h : InPlace ss) (h' : InPlace ss') (htext : textOf ss = textOf ss') :
    ss = ss' := by
  induction ss generalizing ss' with
  | nil =>
    cases ss' with
    | nil => rfl
    | cons s' ss' => exact absurd (List.append_eq_nil_iff.mp htext.symm).1 s'.text_ne_nil
  | cons s ss ih =>
    cases ss' with
    | nil => exact absurd (List.append_eq_nil_iff.mp htext).1 s.text_ne_nil
    | cons s' ss' =>
      obtain rfl := h.1.unique h'.1 htext
      rw [ih h.2 h'.2 (List.append_cancel_left htext)]

/-- A text is divided in one way. -/
theorem Divides.unique {text : List Char} {ss ss' : List Segment} (h : Divides text ss) (h' : Divides text ss') : ss = ss' :=
  h.2.unique h'.2 (h.1.trans h'.1.symm)

/-! ## The cutting of a segment -/

open Item

/-- Where a walk stands when it goes on before a rest as it does in code. -/
def Resumes (r : Region) (rest : List Char) : Prop :=
  r = .code ∨ rest = [] ∨ r = .lineComment ∧ rest.head? = some '\n'

theorem Resumes.pieces_eq {r : Region} {rest : List Char} (h : Resumes r rest) (d : Nat) :
    pieces ⟨r, d⟩ rest = pieces ⟨.code, d⟩ rest := by
  rcases h with rfl | rfl | ⟨rfl, hrest⟩
  · rfl
  · rfl
  · -- the newline ends the comment, and it means nothing in code either
    obtain ⟨rest, rfl⟩ := List.head?_eq_some_iff.mp hrest
    rfl

/-- A comment or a literal ends no item and leaves the depth as it is. -/
theorem Stands.run {s : Segment} {rest : List Char} (h : s.Stands rest) (hs : ∀ c, s ≠ .code c) (d : Nat) :
    Unbroken ⟨.code, d⟩ s.text ∧ ∃ r, after ⟨.code, d⟩ s.text = ⟨r, d⟩ ∧ Resumes r rest := by
  cases s with
  | lineComment w =>
    obtain ⟨hu, ho⟩ := after_comment h.1 d
    refine ⟨⟨rfl, rfl, hu⟩, .lineComment, ho, ?_⟩
    cases rest with
    | nil => exact .inr (.inl rfl)
    | cons c rest => exact .inr (.inr ⟨rfl, by rw [h.2 c rfl]; rfl⟩)
  | blockComment w closed =>
    cases closed with
    | true =>
      obtain ⟨hu, ho⟩ := closed_comment_run h d
      exact ⟨⟨rfl, rfl, hu⟩, .code, ho, .inl rfl⟩
    | false =>
      obtain ⟨hw, rfl⟩ := h
      obtain ⟨hu, r, -, ho⟩ := comment_run hw d (Or.inl rfl)
      have htext : text (.blockComment w false) = '/' :: '*' :: w := by
        rw [text, if_neg Bool.false_ne_true, List.append_nil]
      rw [htext]
      exact ⟨⟨rfl, rfl, hu⟩, r, ho, .inr (.inl rfl)⟩
  | literal q w closed =>
    have hq : IsQuote q := by cases closed <;> exact h.1
    have hopen : step ⟨.code, d⟩ q = (⟨.quoted q, d⟩, false) := by rcases hq with rfl | rfl <;> rfl
    cases closed with
    | true =>
      obtain ⟨hu, ho⟩ := closed_run (ne_backslash hq) (h.2.run d)
      rw [text, unbroken_cons, after_cons, hopen]
      exact ⟨⟨rfl, hu⟩, .code, ho, .inl rfl⟩
    | false =>
      obtain ⟨-, hw, rfl⟩ := h
      obtain ⟨r, -, hrun⟩ := unclosed_run q w hw
      obtain ⟨hu, ho⟩ := hrun d
      rw [text, if_neg Bool.false_ne_true, List.append_nil, unbroken_cons, after_cons, hopen]
      exact ⟨⟨rfl, hu⟩, r, ho, .inr (.inl rfl)⟩
  | code c => exact absurd rfl (hs c)

theorem neutral_of_ne_code {s : Segment} (hs : ∀ c, s ≠ .code c) (d : Nat) : ¬ Cuts d s ∧ depthAfter d s = d := by
  simp [Cuts, depthAfter, hs]

/-- A character of code does what the walk does in code, also if it is a slash. -/
theorem code_pieces {c : Char} {rest : List Char} (h : Stands (.code c) rest) (d : Nat) :
    pieces ⟨.code, d⟩ (c :: rest) =
      if Cuts d (.code c) then [c] :: pieces ⟨.code, depthAfter d (.code c)⟩ rest
      else attach [c] (pieces ⟨.code, depthAfter d (.code c)⟩ rest) := by
  have hquote : ¬ (c = '"' ∨ c = '\'') := h.1
  rw [pieces_cons]
  by_cases hc : c = '/'
  · subst hc
    have hslash : pieces ⟨.slash, d⟩ rest = pieces ⟨.code, d⟩ rest :=
      pieces_slash fun cs => ⟨fun hr => (h.2 rfl '/' (by rw [hr]; rfl)).1 rfl,
        fun hr => (h.2 rfl '*' (by rw [hr]; rfl)).2 rfl⟩
    exact congrArg (attach ['/']) hslash
  by_cases ho : c = '{'
  · subst ho
    rfl
  by_cases hcl : c = '}'
  · subst hcl
    by_cases hd : d ≤ 1
    · have hd' : d - 1 = 0 := by omega
      simp [step, stepCode, Cuts, depthAfter, hd, hd']
    · have hd' : d - 1 ≠ 0 := by omega
      simp [step, stepCode, Cuts, depthAfter, hd, hd']
  · have hstep : step ⟨.code, d⟩ c = (⟨.code, d⟩, decide (c = ';' ∧ d = 0)) := by
      simp only [step, stepCode, if_neg hc, if_neg hquote, if_neg ho, if_neg hcl]
    simp [hstep, Cuts, depthAfter, ho, hcl]

/-- A segment ends an item, or belongs to the item of what follows it. -/
theorem Stands.pieces_eq {s : Segment} {rest : List Char} (h : s.Stands rest) (d : Nat) :
    pieces ⟨.code, d⟩ (s.text ++ rest) =
      if Cuts d s then s.text :: pieces ⟨.code, depthAfter d s⟩ rest
      else attach s.text (pieces ⟨.code, depthAfter d s⟩ rest) := by
  by_cases hs : ∃ c, s = .code c
  · obtain ⟨c, rfl⟩ := hs
    exact code_pieces h d
  · have hne : ∀ c, s ≠ .code c := fun c hc => hs ⟨c, hc⟩
    obtain ⟨hu, r, ho, hr⟩ := h.run hne d
    obtain ⟨hcuts, hdepth⟩ := neutral_of_ne_code hne d
    rw [if_neg hcuts, hdepth, pieces_of_unbroken hu, ho, hr.pieces_eq]

/-- The pieces of a text from its segments, behind some open braces. -/
def piecesOf : Nat → List Segment → List (List Char)
  | _, [] => [[]]
  | d, s :: ss =>
    if Cuts d s then s.text :: piecesOf (depthAfter d s) ss else attach s.text (piecesOf (depthAfter d s) ss)

theorem InPlace.pieces_eq {ss : List Segment} (h : InPlace ss) (d : Nat) : pieces ⟨.code, d⟩ (textOf ss) = piecesOf d ss := by
  induction ss generalizing d with
  | nil => rfl
  | cons s ss ih => rw [textOf_cons, h.1.pieces_eq, ih h.2, piecesOf]

/-! ## Cut points -/

theorem stops_attach (n : Nat) (x : List Char) {ps : List (List Char)} (hps : ps ≠ []) :
    (place n (attach x ps)).map Item.stop = (place (n + byteLength x) ps).map Item.stop := by
  cases ps with
  | nil => exact absurd rfl hps
  | cons p ps => simp only [attach_cons, place, List.map_cons, Item.stop, byteLength_append, Nat.add_assoc]

theorem piecesOf_ne_nil (d : Nat) (ss : List Segment) : piecesOf d ss ≠ [] := by
  cases ss with
  | nil => simp [piecesOf]
  | cons s ss =>
    rw [piecesOf]
    split
    · simp
    · cases piecesOf (depthAfter d s) ss <;> simp [attach]

/-- The cut points of some segments that begin at an offset, behind some open braces. -/
def cutPoints : Nat → Nat → List Segment → List Nat
  | _, _, [] => []
  | n, d, s :: ss =>
    (if Cuts d s then [n + byteLength s.text] else []) ++ cutPoints (n + byteLength s.text) (depthAfter d s) ss

theorem stops_piecesOf (n d : Nat) (ss : List Segment) :
    (place n (piecesOf d ss)).map Item.stop = cutPoints n d ss ++ [n + byteLength (textOf ss)] := by
  induction ss generalizing n d with
  | nil => rfl
  | cons s ss ih =>
    have hend : n + byteLength s.text + byteLength (textOf ss) = n + byteLength (textOf (s :: ss)) := by
      rw [textOf_cons, byteLength_append, Nat.add_assoc]
    by_cases hs : Cuts d s
    · rw [piecesOf, if_pos hs, place, List.map_cons, ih, cutPoints, if_pos hs, hend]
      rfl
    · rw [piecesOf, if_neg hs, stops_attach n s.text (piecesOf_ne_nil _ ss), ih, cutPoints, if_neg hs, hend]
      rfl

theorem mem_cutPoints {n d k : Nat} {ss : List Segment} :
    k ∈ cutPoints n d ss ↔ ∃ before s after, ss = before ++ s :: after ∧ Cuts (before.foldl depthAfter d) s ∧
      k = n + byteLength (textOf (before ++ [s])) := by
  induction ss generalizing n d with
  | nil => simp [cutPoints]
  | cons s ss ih =>
    rw [cutPoints, List.mem_append, ih]
    constructor
    · rintro (h | ⟨before, t, after, rfl, ht, rfl⟩)
      · have hs : Cuts d s := Classical.byContradiction fun hs => by simp [hs] at h
        rw [if_pos hs, List.mem_singleton] at h
        exact ⟨[], s, ss, rfl, hs, by simpa using h⟩
      · exact ⟨s :: before, t, after, rfl, ht, by simp [Nat.add_assoc]⟩
    · rintro ⟨before, t, after, hss, ht, rfl⟩
      cases before with
      | nil =>
        obtain ⟨rfl, rfl⟩ := List.cons.inj hss
        exact Or.inl (by simp [show Cuts d s from ht])
      | cons b before =>
        obtain ⟨rfl, rfl⟩ := List.cons.inj hss
        exact Or.inr ⟨before, t, after, rfl, ht, by simp [Nat.add_assoc]⟩

/-! ## Another inside -/

/-- Of what stands behind it a segment sees the first character only. -/
theorem Stands.congr {s : Segment} {rest rest' : List Char} (h : s.Stands rest) (hrest : rest.head? = rest'.head?) :
    s.Stands rest' := by
  have hnil : rest = [] → rest' = [] := by
    rintro rfl
    exact List.head?_eq_none_iff.mp hrest.symm
  cases s with
  | lineComment w => exact ⟨h.1, hrest ▸ h.2⟩
  | blockComment w closed =>
    cases closed with
    | true => exact h
    | false => exact ⟨h.1, hnil h.2⟩
  | literal q w closed =>
    cases closed with
    | true => exact h
    | false => exact ⟨h.1, h.2.1, hnil h.2.2⟩
  | code c => exact ⟨h.1, hrest ▸ h.2⟩

theorem Stands.refill {s s' : Segment} {rest : List Char} (h : s.Stands rest) (hrefill : Refilled s s') : s'.Stands rest := by
  cases hrefill with
  | lineComment _ hw => exact ⟨hw, h.2⟩
  | @blockComment _ _ closed _ hw =>
    cases closed with
    | true => exact hw
    | false => exact ⟨hw, h.2⟩
  | @literal q _ w' closed _ hq he =>
    cases closed with
    | true => exact ⟨h.1, .of_not_mem hq he⟩
    | false => exact ⟨h.1, fun x y hx _ => hq (by simp [hx]), h.2.2⟩

theorem Refilled.byteLength_eq {s s' : Segment} (h : Refilled s s') : byteLength s'.text = byteLength s.text := by
  cases h with
  | lineComment hlen _ => simp [text, hlen]
  | blockComment hlen _ => simp [text, hlen]
  | literal hlen _ _ => simp [text, hlen]

theorem Refilled.head?_eq {s s' : Segment} (h : Refilled s s') : s'.text.head? = s.text.head? := by cases h <;> rfl

theorem Refilled.ne_code {s s' : Segment} (h : Refilled s s') (c : Char) : s ≠ .code c ∧ s' ≠ .code c := by
  cases h <;> simp

/-- A comment or a literal is not blank. -/
theorem Refilled.visible {s s' : Segment} {rest : List Char} (h : Refilled s s') (hs : s.Stands rest) :
    isBlankText s.text = false ∧ isBlankText s'.text = false := by
  have hvisible : ∀ {c : Char} {cs : List Char}, c = '/' ∨ IsQuote c → isBlankText (c :: cs) = false := by
    intro c cs hc
    obtain rfl | rfl | rfl := hc <;> rfl
  cases h with
  | lineComment => exact ⟨hvisible (Or.inl rfl), hvisible (Or.inl rfl)⟩
  | blockComment => exact ⟨hvisible (Or.inl rfl), hvisible (Or.inl rfl)⟩
  | @literal q _ _ closed =>
    have hq : IsQuote q := by cases closed <;> exact hs.1
    exact ⟨hvisible (Or.inr hq), hvisible (Or.inr hq)⟩

section Refill

variable {before after : List Segment} {s s' : Segment}

theorem head?_refill (h : Refilled s s') : (textOf (before ++ s' :: after)).head? = (textOf (before ++ s :: after)).head? := by
  have hfront : ∀ (t : Segment) (cs : List Char), (t.text ++ cs).head? = t.text.head? := by
    intro t cs
    obtain ⟨c, x, hx⟩ := List.exists_cons_of_ne_nil t.text_ne_nil
    rw [hx]
    rfl
  cases before with
  | nil => rw [List.nil_append, List.nil_append, textOf_cons, textOf_cons, hfront, hfront, h.head?_eq]
  | cons b before => rw [List.cons_append, List.cons_append, textOf_cons, textOf_cons, hfront, hfront]

theorem InPlace.refill (hss : InPlace (before ++ s :: after)) (h : Refilled s s') : InPlace (before ++ s' :: after) := by
  induction before with
  | nil => exact ⟨hss.1.refill h, hss.2⟩
  | cons b before ih => exact ⟨hss.1.congr (head?_refill h).symm, ih hss.2⟩

/-- Texts of the same length that are blank or not together. -/
def Alike (p q : List Char) : Prop := byteLength p = byteLength q ∧ isBlankText p = isBlankText q

theorem Alike.append {p q p' q' : List Char} (h : Alike p q) (h' : Alike p' q') : Alike (p ++ p') (q ++ q') :=
  ⟨by rw [byteLength_append, byteLength_append, h.1, h'.1], by rw [isBlankText_append, isBlankText_append, h.2, h'.2]⟩

theorem alike_attach {x y : List Char} {ps qs : List (List Char)} (h : Alike x y) (hps : List.Forall₂ Alike ps qs) :
    List.Forall₂ Alike (attach x ps) (attach y qs) := by
  cases hps with
  | nil => exact .cons h .nil
  | cons hp hps => exact .cons (h.append hp) hps

theorem piecesOf_refill (hss : InPlace (before ++ s :: after)) (h : Refilled s s') (d : Nat) :
    List.Forall₂ Alike (piecesOf d (before ++ s' :: after)) (piecesOf d (before ++ s :: after)) := by
  induction before generalizing d with
  | nil =>
    obtain ⟨hs, hdepth⟩ := neutral_of_ne_code (fun c => (h.ne_code c).1) d
    obtain ⟨hs', hdepth'⟩ := neutral_of_ne_code (fun c => (h.ne_code c).2) d
    obtain ⟨hblank, hblank'⟩ := h.visible hss.1
    rw [List.nil_append, List.nil_append, piecesOf, piecesOf, if_neg hs, if_neg hs', hdepth, hdepth']
    exact alike_attach ⟨h.byteLength_eq, hblank'.trans hblank.symm⟩ (List.forall₂_same.mpr fun _ _ => ⟨rfl, rfl⟩)
  | cons b before ih =>
    rw [List.cons_append, List.cons_append, piecesOf, piecesOf]
    split
    · exact .cons ⟨rfl, rfl⟩ (ih hss.2 _)
    · exact alike_attach ⟨rfl, rfl⟩ (ih hss.2 _)

theorem spans_alike (n : Nat) {ps qs : List (List Char)} (h : List.Forall₂ Alike ps qs) :
    ((place n ps).filter fun item => !isBlankText item.text).map Item.span =
      ((place n qs).filter fun item => !isBlankText item.text).map Item.span := by
  induction h generalizing n with
  | nil => rfl
  | @cons p q ps qs hpq _ ih =>
    have hspan : Item.span ⟨n, p⟩ = Item.span ⟨n, q⟩ := by rw [Item.span, Item.span, hpq.1]
    rw [place, place, List.filter_cons, List.filter_cons, hpq.2, hpq.1]
    split
    · rw [List.map_cons, List.map_cons, hspan, ih]
    · exact ih _

theorem spans_refill (hss : InPlace (before ++ s :: after)) (h : Refilled s s') :
    (ofText (textOf (before ++ s' :: after))).map Item.span = (ofText (textOf (before ++ s :: after))).map Item.span := by
  have hpieces : pieces .start (textOf (before ++ s :: after)) = piecesOf 0 (before ++ s :: after) := hss.pieces_eq 0
  have hrefilled : pieces .start (textOf (before ++ s' :: after)) = piecesOf 0 (before ++ s' :: after) :=
    (hss.refill h).pieces_eq 0
  rw [ofText, ofText, hpieces, hrefilled]
  exact spans_alike 0 (piecesOf_refill hss h 0)

end Refill

/-- A text has one division into segments. The walk over its bytes cuts it right after those that end an
item, and its items are the pieces between the cuts, less a blank rest. Another inside of the same length,
which closes no comment or literal, leaves the offset and the length of every item as they are. -/
theorem items_at_cut_points (text : List Char) :
    ∃ ss, (∀ ss', Divides text ss' ↔ ss' = ss) ∧
      (∃ ps tail, text = ps.flatten ++ tail ∧ (∀ p ∈ ps, p ≠ []) ∧
        (∀ n, n ∈ (place 0 ps).map Item.stop ↔ IsCutPoint ss n) ∧
        ofBytes? text = some (ofText text) ∧ ofText text = place 0 (kept ps tail)) ∧
      ∀ before s s' after, ss = before ++ s :: after → Refilled s s' →
        (ofText (textOf (before ++ s' :: after))).map Item.span = (ofText text).map Item.span := by
  obtain ⟨ss, hss⟩ := exists_divides text
  refine ⟨ss, fun ss' => ⟨fun h => h.unique hss, fun h => h ▸ hss⟩, ?_, ?_⟩
  · obtain ⟨ps, tail, rfl, hps, ht⟩ := exists_cut text
    refine ⟨ps, tail, rfl, fun p hp => (hps p hp).ne_nil, fun n => ?_, ofBytes?_eq _, ofText_cut hps ht⟩
    have hpieces : piecesOf 0 ss = ps ++ [tail] := by
      rw [← hss.2.pieces_eq 0, hss.1]
      exact pieces_cut hps ht
    have hstops : (place 0 ps).map Item.stop = cutPoints 0 0 ss := by
      have h := stops_piecesOf 0 0 ss
      rw [hpieces, place_append, List.map_append] at h
      exact List.append_inj_left' h rfl
    rw [hstops, mem_cutPoints]
    simp only [Nat.zero_add, IsCutPoint, depth]
  · rintro before s s' after rfl hrefill
    rw [spans_refill hss.2 hrefill, hss.1]

theorem items_of_refilled_comment :
    (ofText "A\x7b\x7d/*;\x7d*/B\x7b\x7d".toList).map Item.span = [(0, 3), (3, 9)] := by
  obtain ⟨ss, hdivides, -, hrefill⟩ := items_at_cut_points "A\x7b\x7d/*ab*/B\x7b\x7d".toList
  have hss : ss = [.code 'A', .code '{', .code '}'] ++ .blockComment ['a', 'b'] true :: [.code 'B', .code '{', .code '}'] := by
    refine ((hdivides _).mp ⟨by decide, ?_⟩).symm
    simp [InPlace, Stands, IsQuote, List.infix_cons_iff]
  have hrefilled := hrefill _ _ (.blockComment [';', '}'] true) _ hss
    (.blockComment (by decide) (by simp [List.infix_cons_iff]))
  exact hrefilled.trans (by decide)

end Segment

end SoliditySchema
