/-
  SoliditySchema.Proofs.Item.Pieces — where a text is cut.

  A walk over a text either ends no item (`Unbroken`), or there is a first character that ends one
  (`Closes`). After that character the walk is back at its start, so the pieces of a text are those
  beginnings that close an item, one after the other, and a rest that closes none (`exists_cut`,
  `pieces_cut`). Every other statement about items is read off from that form (`ofText_cut`). Over the
  inside of a comment or of a literal the walk ends no item (`comment_run`, `Enclosed.run`).
-/

import SoliditySchema.Item
import SoliditySchema.Proofs.Text.Slice

namespace SoliditySchema

theorem Text.isBlankText_append (a b : List Char) : isBlankText (a ++ b) = (isBlankText a && isBlankText b) :=
  List.all_append

theorem Text.not_blank_append (a : List Char) {b : List Char} (h : isBlankText b = false) : isBlankText (a ++ b) = false := by
  rw [isBlankText_append, h, Bool.and_false]

namespace Cursor

/-- The state after a text. -/
def after (s : Cursor) (cs : List Char) : Cursor := cs.foldl (fun s c => (s.step c).1) s

/-- No item ends inside a text. -/
def Unbroken : Cursor → List Char → Prop
  | _, [] => True
  | s, c :: cs => (s.step c).2 = false ∧ Unbroken (s.step c).1 cs

/-- An item ends right after a text and not before. -/
def Closes (s : Cursor) (p : List Char) : Prop :=
  ∃ x c, p = x ++ [c] ∧ Unbroken s x ∧ ((s.after x).step c).2 = true

@[simp] theorem after_nil (s : Cursor) : s.after [] = s := rfl
@[simp] theorem after_cons (s : Cursor) (c : Char) (cs : List Char) :
    s.after (c :: cs) = (s.step c).1.after cs := rfl
theorem after_append (s : Cursor) (a b : List Char) : s.after (a ++ b) = (s.after a).after b := List.foldl_append

@[simp] theorem unbroken_nil (s : Cursor) : Unbroken s [] := trivial
theorem unbroken_cons {s : Cursor} {c : Char} {cs : List Char} :
    Unbroken s (c :: cs) ↔ (s.step c).2 = false ∧ Unbroken (s.step c).1 cs := Iff.rfl

theorem unbroken_append {s : Cursor} {a b : List Char} :
    Unbroken s (a ++ b) ↔ Unbroken s a ∧ Unbroken (s.after a) b := by
  induction a generalizing s with
  | nil => simp
  | cons c a ih => rw [List.cons_append, unbroken_cons, unbroken_cons, ih, after_cons, and_assoc]

/-! ## Comments -/

theorem after_comment {w : List Char} (hw : '\n' ∉ w) (d : Nat) :
    Unbroken ⟨.lineComment, d⟩ w ∧ after ⟨.lineComment, d⟩ w = ⟨.lineComment, d⟩ := by
  induction w with
  | nil => exact ⟨trivial, rfl⟩
  | cons c w ih =>
    have hc : c ≠ '\n' := fun h => hw (by rw [h]; exact List.mem_cons_self)
    have hstep : step ⟨.lineComment, d⟩ c = (⟨.lineComment, d⟩, false) := by simp [step, hc]
    obtain ⟨hu, ho⟩ := ih fun h => hw (List.mem_cons_of_mem _ h)
    rw [unbroken_cons, after_cons, hstep]
    exact ⟨⟨rfl, hu⟩, ho⟩

/-- Inside a block comment, where behind a star no slash follows. -/
theorem comment_run {w : List Char} (hw : ¬ ['*', '/'] <:+: w) (d : Nat) {r : Region}
    (hr : r = .blockComment ∨ r = .star ∧ w.head? ≠ some '/') :
    Unbroken ⟨r, d⟩ w ∧ ∃ r', (r' = .blockComment ∨ r' = .star) ∧ after ⟨r, d⟩ w = ⟨r', d⟩ := by
  induction w generalizing r with
  | nil => exact ⟨trivial, r, hr.imp_right And.left, rfl⟩
  | cons c w ih =>
    have hstep : step ⟨r, d⟩ c = (⟨if c = '*' then .star else .blockComment, d⟩, false) := by
      rcases hr with rfl | ⟨rfl, hh⟩
      · rfl
      · have hc : c ≠ '/' := fun h => hh (by rw [h]; rfl)
        simp [step, hc]
    have htail : ¬ ['*', '/'] <:+: w := fun h => hw (List.infix_cons_iff.mpr (Or.inr h))
    rw [unbroken_cons, after_cons, hstep]
    by_cases hc : c = '*'
    · subst hc
      obtain ⟨hu, ho⟩ := ih (r := .star) htail (Or.inr ⟨rfl, fun hslash => by
        obtain ⟨v, rfl⟩ := List.head?_eq_some_iff.mp hslash
        exact hw ⟨[], v, rfl⟩⟩)
      exact ⟨⟨rfl, hu⟩, ho⟩
    · rw [if_neg hc]
      obtain ⟨hu, ho⟩ := ih (r := .blockComment) htail (Or.inl rfl)
      exact ⟨⟨rfl, hu⟩, ho⟩

/-- The star and slash behind its inside end a block comment. -/
theorem closed_comment_run {w : List Char} (hw : ¬ ['*', '/'] <:+: w) (d : Nat) :
    Unbroken ⟨.blockComment, d⟩ (w ++ ['*', '/']) ∧ after ⟨.blockComment, d⟩ (w ++ ['*', '/']) = ⟨.code, d⟩ := by
  obtain ⟨hu, r, hr, ho⟩ := comment_run hw d (Or.inl rfl)
  have hend : Unbroken ⟨r, d⟩ ['*', '/'] ∧ after ⟨r, d⟩ ['*', '/'] = ⟨.code, d⟩ := by
    rcases hr with rfl | rfl <;> exact ⟨⟨rfl, rfl, trivial⟩, rfl⟩
  rw [unbroken_append, after_append, ho]
  exact ⟨⟨hu, hend.1⟩, hend.2⟩

/-! ## Literals -/

/-- A text that a quote behind it closes: a backslash takes the next character with it. -/
inductive Enclosed (q : Char) : List Char → Prop
  | nil : Enclosed q []
  | plain {c : Char} {w : List Char} : c ≠ q → c ≠ '\\' → Enclosed q w → Enclosed q (c :: w)
  | escape (c : Char) {w : List Char} : Enclosed q w → Enclosed q ('\\' :: c :: w)

theorem ne_backslash {q : Char} (hq : q = '"' ∨ q = '\'') : q ≠ '\\' := by rcases hq with rfl | rfl <;> decide

theorem Enclosed.of_not_mem {q : Char} {w : List Char} (hq : q ∉ w) (he : '\\' ∉ w) : Enclosed q w := by
  induction w with
  | nil => exact .nil
  | cons c w ih =>
    rw [List.mem_cons, not_or] at hq he
    exact .plain (Ne.symm hq.1) (Ne.symm he.1) (ih hq.2 he.2)

/-- Where two texts are closed by the same quote, they are the same. -/
theorem Enclosed.unique {q : Char} (hq : q ≠ '\\') {w w' u u' : List Char} (h : Enclosed q w) (h' : Enclosed q w')
    (htext : w ++ q :: u = w' ++ q :: u') : w = w' := by
  induction h generalizing w' with
  | nil =>
    cases h' with
    | nil => rfl
    | plain hc _ _ => exact absurd (List.cons.inj htext).1.symm hc
    | escape c _ => exact absurd (List.cons.inj htext).1 hq
  | @plain c w hc he _ ih =>
    cases h' with
    | nil => exact absurd (List.cons.inj htext).1 hc
    | plain _ _ h' =>
      obtain ⟨rfl, htail⟩ := List.cons.inj htext
      rw [ih h' htail]
    | escape _ _ => exact absurd (List.cons.inj htext).1 he
  | @escape c w _ ih =>
    cases h' with
    | nil => exact absurd (List.cons.inj htext).1.symm hq
    | plain _ he _ => exact absurd (List.cons.inj htext).1.symm he
    | escape c' h' =>
      obtain ⟨rfl, htail⟩ := List.cons.inj (List.cons.inj htext).2
      rw [ih h' htail]

theorem Enclosed.run {q : Char} {w : List Char} (h : Enclosed q w) (d : Nat) :
    Unbroken ⟨.quoted q, d⟩ w ∧ after ⟨.quoted q, d⟩ w = ⟨.quoted q, d⟩ := by
  induction h with
  | nil => exact ⟨trivial, rfl⟩
  | @plain c w hc he _ ih =>
    have hstep : step ⟨.quoted q, d⟩ c = (⟨.quoted q, d⟩, false) := by simp [step, hc, he]
    rw [unbroken_cons, after_cons, hstep]
    exact ⟨⟨rfl, ih.1⟩, ih.2⟩
  | escape c _ ih => exact ⟨⟨rfl, rfl, ih.1⟩, ih.2⟩

/-- A quote that is behind no backslash ends a literal. -/
theorem closed_run {q : Char} (hq : q ≠ '\\') {w : List Char} {d : Nat}
    (h : Unbroken ⟨.quoted q, d⟩ w ∧ after ⟨.quoted q, d⟩ w = ⟨.quoted q, d⟩) :
    Unbroken ⟨.quoted q, d⟩ (w ++ [q]) ∧ after ⟨.quoted q, d⟩ (w ++ [q]) = ⟨.code, d⟩ := by
  have hstep : step ⟨.quoted q, d⟩ q = (⟨.code, d⟩, false) := by simp [step, hq]
  obtain ⟨hu, ho⟩ := h
  rw [unbroken_append, after_append, ho, unbroken_cons, after_cons, hstep]
  exact ⟨⟨hu, rfl, trivial⟩, rfl⟩

/-- Over a text that no quote closes the walk stays in a literal, maybe behind a backslash. -/
theorem unclosed_run (q : Char) : (w : List Char) → (∀ x y, w = x ++ q :: y → ¬ Enclosed q x) →
    ∃ r, (r = .quoted q ∨ r = .escaped q) ∧ ∀ d, Unbroken ⟨.quoted q, d⟩ w ∧ after ⟨.quoted q, d⟩ w = ⟨r, d⟩
  | [], _ => ⟨.quoted q, Or.inl rfl, fun _ => ⟨trivial, rfl⟩⟩
  | c :: w, hw => by
    by_cases hc : c = '\\'
    · subst hc
      cases w with
      | nil => exact ⟨.escaped q, Or.inr rfl, fun _ => ⟨⟨rfl, trivial⟩, rfl⟩⟩
      | cons e w =>
        obtain ⟨r, hr, hrun⟩ := unclosed_run q w fun x y hx hinside =>
          hw ('\\' :: e :: x) y (by rw [hx]; rfl) (.escape e hinside)
        exact ⟨r, hr, fun d => ⟨⟨rfl, rfl, (hrun d).1⟩, (hrun d).2⟩⟩
    · have hq : c ≠ q := by
        rintro rfl
        exact hw [] w rfl .nil
      obtain ⟨r, hr, hrun⟩ := unclosed_run q w fun x y hx hinside =>
        hw (c :: x) y (by rw [hx]; rfl) (.plain hq hc hinside)
      refine ⟨r, hr, fun d => ?_⟩
      have hstep : step ⟨.quoted q, d⟩ c = (⟨.quoted q, d⟩, false) := by simp [step, hq, hc]
      rw [unbroken_cons, after_cons, hstep]
      exact ⟨⟨rfl, (hrun d).1⟩, (hrun d).2⟩

/-! ## The character that ends an item -/

theorem stepCode_ends {d : Nat} {c : Char} (h : (stepCode d c).2 = true) :
    (stepCode d c).1 = start ∧ (c = '}' ∧ d ≤ 1 ∨ c = ';' ∧ d = 0) := by
  unfold stepCode at h
  split at h
  · cases h
  split at h
  · cases h
  split at h
  · cases h
  split at h
  · rename_i hc
    subst hc
    have hd : d ≤ 1 := by simpa using h
    have h0 : d - 1 = 0 := by omega
    exact ⟨by simp [stepCode, start, h0], Or.inl ⟨rfl, hd⟩⟩
  · obtain ⟨rfl, rfl⟩ : c = ';' ∧ d = 0 := by simpa using h
    exact ⟨rfl, Or.inr ⟨rfl, rfl⟩⟩

/-- Only a brace or a semicolon of code ends an item, and then the walk begins again. -/
theorem step_ends {s : Cursor} {c : Char} (h : (s.step c).2 = true) :
    (s.step c).1 = start ∧ s.step c = stepCode s.depth c ∧ (c = '}' ∧ s.depth ≤ 1 ∨ c = ';' ∧ s.depth = 0) := by
  obtain ⟨r, d⟩ := s
  cases r with
  | code => exact ⟨(stepCode_ends h).1, rfl, (stepCode_ends h).2⟩
  | slash =>
    simp only [step] at h ⊢
    split at h
    · cases h
    · rename_i h1
      split at h
      · cases h
      · rename_i h2
        simp only [h1, h2, if_false]
        exact ⟨(stepCode_ends h).1, trivial, (stepCode_ends h).2⟩
  | lineComment => cases h
  | blockComment => cases h
  | star => cases h
  | quoted q => cases h
  | escaped q => cases h

theorem Closes.after_eq {s : Cursor} {p : List Char} (h : Closes s p) : s.after p = start := by
  obtain ⟨x, c, rfl, _, hc⟩ := h
  rw [after_append]
  exact (step_ends hc).1

theorem Closes.ne_nil {s : Cursor} {p : List Char} (h : Closes s p) : p ≠ [] := by
  obtain ⟨x, c, rfl, _, _⟩ := h
  simp

theorem Closes.last {s : Cursor} {p : List Char} (h : Closes s p) : ∃ x, p = x ++ ['}'] ∨ p = x ++ [';'] := by
  obtain ⟨x, c, rfl, _, hc⟩ := h
  rcases (step_ends hc).2.2 with ⟨rfl, _⟩ | ⟨rfl, _⟩
  · exact ⟨x, Or.inl rfl⟩
  · exact ⟨x, Or.inr rfl⟩

/-- What closes an item is not blank. -/
theorem Closes.not_blank {s : Cursor} {p : List Char} (h : Closes s p) : Text.isBlankText p = false := by
  obtain ⟨x, rfl | rfl⟩ := h.last
  · exact Text.not_blank_append x (by decide)
  · exact Text.not_blank_append x (by decide)

theorem Closes.not_unbroken {s : Cursor} {p : List Char} (h : Closes s p) : ¬ Unbroken s p := by
  obtain ⟨x, c, rfl, _, hc⟩ := h
  intro hu
  have := (unbroken_append.mp hu).2.1
  rw [hc] at this
  cases this

/-- A text ends no item, or there is a first character that does. -/
theorem unbroken_or_closes (s : Cursor) (cs : List Char) :
    Unbroken s cs ∨ ∃ p rest, cs = p ++ rest ∧ Closes s p := by
  induction cs generalizing s with
  | nil => exact Or.inl trivial
  | cons c cs ih =>
    cases hc : (s.step c).2 with
    | true => exact Or.inr ⟨[c], cs, rfl, [], c, rfl, trivial, hc⟩
    | false =>
      rcases ih (s.step c).1 with h | ⟨p, rest, rfl, x, d, rfl, hx, hd⟩
      · exact Or.inl ⟨hc, h⟩
      · exact Or.inr ⟨c :: (x ++ [d]), rest, rfl, c :: x, d, rfl, ⟨hc, hx⟩, hd⟩

end Cursor

namespace Item

open Cursor

/-- Puts a text before the first piece. -/
def attach (x : List Char) : List (List Char) → List (List Char)
  | [] => [x]
  | p :: ps => (x ++ p) :: ps

@[simp] theorem attach_cons (x p : List Char) (ps : List (List Char)) : attach x (p :: ps) = (x ++ p) :: ps := rfl

theorem extend_eq (c : Char) (ps : List (List Char)) : extend c ps = attach [c] ps := by cases ps <;> rfl

theorem attach_attach (x y : List Char) (ps : List (List Char)) : attach x (attach y ps) = attach (x ++ y) ps := by
  cases ps <;> simp [attach]

theorem pieces_cons (s : Cursor) (c : Char) (cs : List Char) :
    pieces s (c :: cs) =
      if (s.step c).2 then [c] :: pieces (s.step c).1 cs else attach [c] (pieces (s.step c).1 cs) := by
  rw [← extend_eq]
  rfl

theorem pieces_ne_nil (s : Cursor) (cs : List Char) : pieces s cs ≠ [] := by
  cases cs with
  | nil => simp [pieces]
  | cons c cs =>
    rw [pieces_cons]
    split
    · simp
    · cases pieces (s.step c).1 cs <;> simp [attach]

theorem attach_nil_pieces (s : Cursor) (cs : List Char) : attach [] (pieces s cs) = pieces s cs := by
  cases h : pieces s cs with
  | nil => exact absurd h (pieces_ne_nil s cs)
  | cons p ps => rfl

/-- What ends no item belongs to the first piece of what follows. -/
theorem pieces_of_unbroken {s : Cursor} {x : List Char} (h : Unbroken s x) (rest : List Char) :
    pieces s (x ++ rest) = attach x (pieces (s.after x) rest) := by
  induction x generalizing s with
  | nil => exact (attach_nil_pieces s rest).symm
  | cons c x ih =>
    rw [List.cons_append, pieces_cons, h.1, ih h.2, attach_attach]
    rfl

/-- What closes an item is a piece, and the rest is cut as if it stood alone. -/
theorem pieces_of_closes {s : Cursor} {p : List Char} (h : Closes s p) (rest : List Char) :
    pieces s (p ++ rest) = p :: pieces .start rest := by
  obtain ⟨x, c, rfl, hx, hc⟩ := h
  rw [List.append_assoc, pieces_of_unbroken hx, List.singleton_append, pieces_cons, hc, (step_ends hc).1]
  rfl

/-- Pieces that close an item are pieces of a text that begins with them, and the rest is cut as if it stood alone. -/
theorem pieces_append {ps : List (List Char)} (hp : ∀ p ∈ ps, Closes .start p) (rest : List Char) :
    pieces .start (ps.flatten ++ rest) = ps ++ pieces .start rest := by
  induction ps with
  | nil => rfl
  | cons p ps ih =>
    rw [List.flatten_cons, List.append_assoc, pieces_of_closes (hp p (by simp)),
      ih (fun q hq => hp q (by simp [hq])), List.cons_append]

/-- The pieces of a text: those that close an item, and what follows them. -/
theorem pieces_cut {ps : List (List Char)} {tail : List Char} (hp : ∀ p ∈ ps, Closes .start p)
    (ht : Unbroken .start tail) : pieces .start (ps.flatten ++ tail) = ps ++ [tail] := by
  have htail := pieces_of_unbroken ht []
  rw [List.append_nil] at htail
  rw [pieces_append hp, htail]
  simp [pieces, attach]

theorem exists_cut (text : List Char) :
    ∃ (ps : List (List Char)) (tail : List Char), text = ps.flatten ++ tail ∧ (∀ p ∈ ps, Closes .start p) ∧ Unbroken .start tail := by
  induction hn : text.length using Nat.strongRecOn generalizing text with
  | ind n ih =>
    rcases unbroken_or_closes .start text with h | ⟨p, rest, rfl, hp⟩
    · exact ⟨[], text, rfl, by simp, h⟩
    · have hlt : rest.length < n := by
        have := List.length_pos_iff.mpr hp.ne_nil
        rw [List.length_append] at hn; omega
      obtain ⟨ps, tail, rfl, hps, ht⟩ := ih _ hlt rest rfl
      refine ⟨p :: ps, tail, by simp, fun q hq => ?_, ht⟩
      rcases List.mem_cons.mp hq with rfl | hq
      · exact hp
      · exact hps q hq

/-! ## Items -/

theorem place_append (n : Nat) (ps qs : List (List Char)) :
    place n (ps ++ qs) = place n ps ++ place (n + Text.byteLength ps.flatten) qs := by
  induction ps generalizing n with
  | nil => simp [place]
  | cons p ps ih => simp only [List.cons_append, place, ih, List.flatten_cons, Text.byteLength_append, Nat.add_assoc]

@[simp] theorem map_text_place (n : Nat) (ps : List (List Char)) : (place n ps).map Item.text = ps := by
  induction ps generalizing n with
  | nil => rfl
  | cons p ps ih => rw [place, List.map_cons, ih]

/-- The pieces that count as items: those that close one, and the rest unless it is blank. -/
def kept (ps : List (List Char)) (tail : List Char) : List (List Char) :=
  ps ++ if Text.isBlankText tail then [] else [tail]

theorem filter_place {ps : List (List Char)} (hp : ∀ p ∈ ps, Text.isBlankText p = false) (n : Nat) :
    (place n ps).filter (fun item => !Text.isBlankText item.text) = place n ps := by
  induction ps generalizing n with
  | nil => rfl
  | cons p ps ih =>
    rw [place, List.filter_cons, hp p (by simp), ih (fun q hq => hp q (by simp [hq]))]
    rfl

/-- The items of a text, from the form in which it is cut. -/
theorem ofText_cut {ps : List (List Char)} {tail : List Char} (hp : ∀ p ∈ ps, Closes .start p)
    (ht : Unbroken .start tail) : ofText (ps.flatten ++ tail) = place 0 (kept ps tail) := by
  rw [ofText, pieces_cut hp ht, kept, place_append, place_append, List.filter_append,
    filter_place (fun p h => (hp p h).not_blank)]
  cases h : Text.isBlankText tail <;> simp [place, h]

end Item

end SoliditySchema
