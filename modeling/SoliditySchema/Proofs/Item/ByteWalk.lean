/-
  SoliditySchema.Proofs.Item.ByteWalk — the walk over bytes finds the items of a text.

  The walk is followed character by character: it stands after `before ++ inside`, where `inside` is what
  the present item holds so far, and `rest` is still to come (`walks`). A byte of a character that is not
  below U+0080 is like no byte of code, so the walk passes over it; a comment or a literal is passed over
  in one leap (`lineComment_leap`, `blockComment_leap`, `quoted_leap`). Every offset at which the walk
  takes a part of the text falls between two characters, so it always has a result (`ofBytes?_eq`).
-/

import Mathlib.Data.List.Infix
import SoliditySchema.Item.ByteWalk
import SoliditySchema.Proofs.Item.Pieces

namespace SoliditySchema.Item

open Cursor Text

/-! ## Bytes of characters -/

theorem byte_toNat {k : Char} (hk : k.toNat < 128) : (byte k).toNat = k.toNat := by
  have h : (byte k).toNat = k.toNat % 256 := rfl
  omega

/-- No byte of a character is the byte of another one below U+0080. -/
theorem encode_ne_byte {c k : Char} (hk : k.toNat < 128) (hne : c ≠ k) {b : UInt8}
    (hb : b ∈ String.utf8EncodeChar c) : b ≠ byte k := by
  rintro rfl
  have hbk := byte_toNat hk
  by_cases hc : c.toNat < 128
  · rw [encode_ascii hc, List.mem_singleton] at hb
    have hbc : (byte c).toNat = c.toNat := byte_toNat hc
    have : (byte k).toNat = (byte c).toNat := congrArg UInt8.toNat hb
    exact hne (Char.toNat_inj.mp (by omega))
  · have := encode_high (by omega) hb
    omega

theorem bytes_ascii {k : Char} (hk : k.toNat < 128) (cs : List Char) : bytes (k :: cs) = byte k :: bytes cs := by
  rw [bytes_cons, encode_ascii hk]
  rfl

theorem head?_bytes {k : Char} (hk : k.toNat < 128) (cs : List Char) :
    (bytes cs).head? = some (byte k) ↔ ∃ cs', cs = k :: cs' := by
  constructor
  · intro h
    cases cs with
    | nil => simp [bytes] at h
    | cons c cs =>
      by_cases hc : c = k
      · exact ⟨cs, by rw [hc]⟩
      · rw [bytes_cons] at h
        cases hb : String.utf8EncodeChar c with
        | nil => exact absurd hb String.utf8EncodeChar_ne_nil
        | cons b bs =>
          rw [hb, List.cons_append, List.head?_cons, Option.some_inj] at h
          exact absurd h (encode_ne_byte hk hc (by rw [hb]; simp))
  · rintro ⟨cs', rfl⟩
    rw [bytes_ascii hk, List.head?_cons]

/-! ## Leaps over comments -/

theorem lineComment_leap (d : Nat) (cs : List Char) :
    (∃ x rest, cs = x ++ '\n' :: rest ∧ find? ['\n'] cs = some (byteLength x) ∧
      Unbroken ⟨.lineComment, d⟩ x ∧ after ⟨.lineComment, d⟩ x = ⟨.lineComment, d⟩) ∨
    (find? ['\n'] cs = none ∧ Unbroken ⟨.lineComment, d⟩ cs) := by
  rcases find?_cases (List.cons_ne_nil '\n' []) cs with ⟨x, rest, rfl, hx, hf⟩ | ⟨hcs, hf⟩
  · rw [List.singleton_infix_iff] at hx
    exact Or.inl ⟨x, rest, rfl, hf, after_comment hx d⟩
  · rw [List.singleton_infix_iff] at hcs
    exact Or.inr ⟨hf, (after_comment hcs d).1⟩

theorem blockComment_leap (d : Nat) (cs : List Char) :
    (∃ x rest, cs = x ++ '*' :: '/' :: rest ∧ find? ['*', '/'] cs = some (byteLength x) ∧
      Unbroken ⟨.blockComment, d⟩ (x ++ ['*', '/']) ∧ after ⟨.blockComment, d⟩ (x ++ ['*', '/']) = ⟨.code, d⟩) ∨
    (find? ['*', '/'] cs = none ∧ Unbroken ⟨.blockComment, d⟩ cs) := by
  rcases find?_cases (List.cons_ne_nil '*' ['/']) cs with ⟨x, rest, rfl, hx, hf⟩ | ⟨hcs, hf⟩
  · exact Or.inl ⟨x, rest, rfl, hf, closed_comment_run hx d⟩
  · exact Or.inr ⟨hf, (comment_run hcs d (Or.inl rfl)).1⟩

/-! ## Leaps over literals -/

theorem closing_cons (q b : UInt8) (bs : List UInt8) :
    closing q (b :: bs) =
      if b = q then 0 else if b = byte '\\' then closing q bs.tail + 2 else closing q bs + 1 := by
  cases bs with
  | nil => rfl
  | cons b' bs => rfl

theorem closing_append {q : UInt8} {bs : List UInt8} (h : ∀ b ∈ bs, b ≠ q ∧ b ≠ byte '\\') (rest : List UInt8) :
    closing q (bs ++ rest) = bs.length + closing q rest := by
  induction bs with
  | nil => simp
  | cons b bs ih =>
    obtain ⟨h1, h2⟩ := h b (by simp)
    rw [List.cons_append, closing_cons, if_neg h1, if_neg h2, ih (fun b' hb' => h b' (by simp [hb'])),
      List.length_cons]
    omega

/-- A backslash takes a whole character with it, since the other bytes of the character are passed over. -/
theorem closing_escape {q : Char} (hq : q.toNat < 128) (hne : q ≠ '\\') (c : Char) (cs : List Char) :
    closing (byte q) (bytes ('\\' :: c :: cs)) = 1 + c.utf8Size + closing (byte q) (bytes cs) := by
  have hb : byte '\\' ≠ byte q := encode_ne_byte hq (Ne.symm hne) (by rw [encode_ascii (by decide)]; simp [byte])
  rw [bytes_ascii (by decide), closing_cons, if_neg hb, if_pos rfl, bytes_cons]
  cases he : String.utf8EncodeChar c with
  | nil => exact absurd he String.utf8EncodeChar_ne_nil
  | cons b bs =>
    have hlen : c.utf8Size = bs.length + 1 := by rw [← String.length_utf8EncodeChar, he, List.length_cons]
    have hrest : ∀ b' ∈ bs, b' ≠ byte q ∧ b' ≠ byte '\\' := by
      intro b' hb'
      have hc : 128 ≤ c.toNat := by
        by_cases hc : c.toNat < 128
        · rw [encode_ascii hc] at he
          injection he with _ hbs
          rw [← hbs] at hb'
          cases hb'
        · omega
      have hhigh := encode_high hc (show b' ∈ _ by rw [he]; exact List.mem_cons_of_mem _ hb')
      have h1 := byte_toNat hq
      have h2 : (byte '\\').toNat = 92 := rfl
      constructor
      · rintro rfl; omega
      · rintro rfl; omega
    rw [List.cons_append, List.tail_cons, closing_append hrest]
    omega

section Literals

variable {q : Char} (hq : q.toNat < 128) (hne : q ≠ '\\')

include hq

theorem closing_plain {c : Char} (hc : c ≠ q) (he : c ≠ '\\') (cs : List Char) :
    closing (byte q) (bytes (c :: cs)) = c.utf8Size + closing (byte q) (bytes cs) := by
  rw [bytes_cons, closing_append, String.length_utf8EncodeChar]
  exact fun b hb => ⟨encode_ne_byte hq hc hb, encode_ne_byte (by decide) he hb⟩

include hne

theorem closing_enclosed {x : List Char} (h : Enclosed q x) (rest : List Char) :
    closing (byte q) (bytes (x ++ q :: rest)) = byteLength x := by
  induction h with
  | nil =>
    rw [List.nil_append, bytes_ascii hq, closing_cons, if_pos rfl]
    rfl
  | plain hc he _ ih => rw [List.cons_append, closing_plain hq hc he, ih, byteLength_cons]
  | escape c _ ih =>
    have hsize : ('\\' : Char).utf8Size = 1 := by decide
    rw [List.cons_append, List.cons_append, closing_escape hq hne, ih, byteLength_cons, byteLength_cons, hsize, Nat.add_assoc]

/-- A literal that is not closed ends where its text does, or beyond that behind a last backslash. -/
theorem closing_unclosed : (cs : List Char) → (∀ x y, cs = x ++ q :: y → ¬ Enclosed q x) →
    byteLength cs ≤ closing (byte q) (bytes cs)
  | [], _ => Nat.zero_le _
  | c :: cs, hcs => by
    by_cases he : c = '\\'
    · subst he
      have hsize : ('\\' : Char).utf8Size = 1 := by decide
      cases cs with
      | nil =>
        have hb : byte '\\' ≠ byte q := encode_ne_byte hq hne.symm (by rw [encode_ascii (by decide)]; simp [byte])
        rw [bytes_ascii (by decide), closing_cons, if_neg hb, if_pos rfl, byteLength_cons, byteLength_nil, hsize]
        omega
      | cons e cs =>
        have hrest := closing_unclosed cs fun x y hx h => hcs ('\\' :: e :: x) y (by rw [hx]; rfl) (.escape e h)
        rw [closing_escape hq hne, byteLength_cons, byteLength_cons, hsize]
        omega
    · have hc : c ≠ q := by
        rintro rfl
        exact hcs [] cs rfl .nil
      have hrest := closing_unclosed cs fun x y hx h => hcs (c :: x) y (by rw [hx]; rfl) (.plain hc he h)
      rw [closing_plain hq hc he, byteLength_cons]
      exact Nat.add_le_add_left hrest _

theorem quoted_leap (d : Nat) (cs : List Char) :
    (∃ x rest, cs = x ++ q :: rest ∧ closing (byte q) (bytes cs) = byteLength x ∧
      Unbroken ⟨.quoted q, d⟩ (x ++ [q]) ∧ after ⟨.quoted q, d⟩ (x ++ [q]) = ⟨.code, d⟩) ∨
    (byteLength cs ≤ closing (byte q) (bytes cs) ∧ Unbroken ⟨.quoted q, d⟩ cs) := by
  by_cases hcs : ∃ x rest, cs = x ++ q :: rest ∧ Enclosed q x
  · obtain ⟨x, rest, rfl, hx⟩ := hcs
    exact Or.inl ⟨x, rest, rfl, closing_enclosed hq hne hx rest, closed_run hne (hx.run d)⟩
  · have hopen : ∀ x y, cs = x ++ q :: y → ¬ Enclosed q x := fun x y hx h => hcs ⟨x, y, hx, h⟩
    obtain ⟨r, -, hrun⟩ := unclosed_run q cs hopen
    exact Or.inr ⟨closing_unclosed hq hne cs hopen, (hrun d).1⟩

end Literals

/-! ## One round of the walk -/

section Rounds

variable {text : List Char} {start depth here : Nat} {items : List Item} {bs : List UInt8}

theorem walk_end (h : (bytes text).drop here = []) :
    walk text start depth here items =
      if start < byteLength text then push? text start (byteLength text) items else some items := by
  rw [walk.eq_def, h, length_bytes]

theorem walk_lineComment {rest : List Char} (h : (bytes text).drop here = byte '/' :: byte '/' :: bs)
    (hd : dropBytes? text here = some rest) :
    walk text start depth here items =
      walk text start depth (((find? ['\n'] rest).map (here + ·)).getD (byteLength text)) items := by
  rw [walk.eq_def, h, length_bytes]
  simp only [List.head?_cons, and_self, dite_true]
  split
  · rename_i hnone
    rw [hd] at hnone
    cases hnone
  · rename_i hsome
    rw [hd] at hsome
    injection hsome with hsome
    rw [hsome]

theorem walk_blockComment {rest : List Char} (h : (bytes text).drop here = byte '/' :: byte '*' :: bs)
    (hd : dropBytes? text (here + 2) = some rest) :
    walk text start depth here items =
      walk text start depth (((find? ['*', '/'] rest).map (here + 2 + · + 2)).getD (byteLength text)) items := by
  rw [walk.eq_def, h, length_bytes]
  simp only [List.head?_cons, and_self, if_true, hd]
  rfl

theorem walk_quote {q : Char} (hq : q = '"' ∨ q = '\'') (h : (bytes text).drop here = byte q :: bs) :
    walk text start depth here items = walk text start depth (here + 1 + closing (byte q) bs + 1) items := by
  rw [walk.eq_def, h]
  have hs : byte q ≠ byte '/' := by rcases hq with rfl | rfl <;> decide
  have hb : byte q = byte '"' ∨ byte q = byte '\'' := by rcases hq with rfl | rfl <;> decide
  simp only [hs, false_and, dite_false, if_false, hb, if_true]

theorem walk_open (h : (bytes text).drop here = byte '{' :: bs) :
    walk text start depth here items = walk text start (depth + 1) (here + 1) items := by
  have h1 : byte '{' ≠ byte '/' := by decide
  have h2 : ¬ (byte '{' = byte '"' ∨ byte '{' = byte '\'') := by decide
  rw [walk.eq_def, h]
  simp only [h1, false_and, dite_false, if_false, h2, if_true]

theorem walk_close (h : (bytes text).drop here = byte '}' :: bs) :
    walk text start depth here items =
      if depth - 1 = 0 then do
        let items' ← push? text start (here + 1) items
        walk text (here + 1) 0 (here + 1) items'
      else walk text start (depth - 1) (here + 1) items := by
  have h1 : byte '}' ≠ byte '/' := by decide
  have h2 : ¬ (byte '}' = byte '"' ∨ byte '}' = byte '\'') := by decide
  have h3 : byte '}' ≠ byte '{' := by decide
  rw [walk.eq_def, h]
  simp only [h1, false_and, dite_false, if_false, h2, h3, if_true]

theorem walk_semicolon (h : (bytes text).drop here = byte ';' :: bs) :
    walk text start 0 here items =
      (do let items' ← push? text start (here + 1) items
          walk text (here + 1) 0 (here + 1) items') := by
  have h1 : byte ';' ≠ byte '/' := by decide
  have h2 : ¬ (byte ';' = byte '"' ∨ byte ';' = byte '\'') := by decide
  have h3 : byte ';' ≠ byte '{' := by decide
  have h4 : byte ';' ≠ byte '}' := by decide
  rw [walk.eq_def, h]
  simp only [h1, false_and, dite_false, if_false, h2, h3, h4, and_self, if_true]

/-- Any other byte is passed over, also a slash or a semicolon that means nothing. -/
theorem walk_other {b : UInt8} (h : (bytes text).drop here = b :: bs)
    (hquote : b ≠ byte '"' ∧ b ≠ byte '\'') (hbrace : b ≠ byte '{' ∧ b ≠ byte '}')
    (hslash : b = byte '/' → bs.head? ≠ some (byte '/') ∧ bs.head? ≠ some (byte '*'))
    (hsemi : b = byte ';' → depth ≠ 0) :
    walk text start depth here items = walk text start depth (here + 1) items := by
  have h1 : ¬ (b = byte '/' ∧ bs.head? = some (byte '/')) := fun h => (hslash h.1).1 h.2
  have h2 : ¬ (b = byte '/' ∧ bs.head? = some (byte '*')) := fun h => (hslash h.1).2 h.2
  have h3 : ¬ (b = byte '"' ∨ b = byte '\'') := fun h => h.elim hquote.1 hquote.2
  have h4 : ¬ (b = byte ';' ∧ depth = 0) := fun h => hsemi h.1 h.2
  rw [walk.eq_def, h]
  simp only [h1, h2, h3, h4, hbrace.1, hbrace.2, dite_false, if_false]

/-- Bytes that mean nothing are passed over one by one, so also all those of a character. -/
theorem walk_bytes {xs : List UInt8}
    (hx : ∀ b ∈ xs, ∀ k ∈ ['"', '\'', '{', '}', '/', ';'], b ≠ byte k) (h : (bytes text).drop here = xs ++ bs) :
    walk text start depth here items = walk text start depth (here + xs.length) items := by
  induction xs generalizing here with
  | nil => rfl
  | cons b xs ih =>
    have hb := hx b (by simp)
    rw [walk_other h ⟨hb _ (by simp), hb _ (by simp)⟩ ⟨hb _ (by simp), hb _ (by simp)⟩
      (fun he => absurd he (hb _ (by simp))) (fun he => absurd he (hb _ (by simp))),
      ih (fun b' hb' => hx b' (by simp [hb'])), List.length_cons]
    · congr 1; omega
    · rw [← List.drop_drop, h]; rfl

end Rounds

/-! ## The whole walk -/

/-- What the walk adds to the items from a place on. -/
def found (before inside rest : List Char) (depth : Nat) : List Item :=
  (place (byteLength before) (attach inside (pieces ⟨.code, depth⟩ rest))).filter fun item => !isBlankText item.text

theorem push?_eq (before inside rest : List Char) (items : List Item) :
    push? (before ++ (inside ++ rest)) (byteLength before) (byteLength before + byteLength inside) items =
      some (if isBlankText inside then items else items ++ [⟨byteLength before, inside⟩]) := by
  rw [push?, slice?_append, Option.map_some]

theorem drop_here (before inside rest : List Char) :
    (bytes (before ++ (inside ++ rest))).drop (byteLength before + byteLength inside) = bytes rest := by
  rw [← List.append_assoc, ← byteLength_append, drop_bytes]

/-- A leap over `x` inside an item, which leaves `e` braces open, goes on as the walk does after it. -/
theorem found_leap {d e : Nat} {before inside x rest : List Char}
    (hp : pieces ⟨.code, d⟩ (x ++ rest) = attach x (pieces ⟨.code, e⟩ rest)) :
    found before inside (x ++ rest) d = found before (inside ++ x) rest e := by
  rw [found, found, hp, attach_attach]

/-- A cut after `p` gives an item and begins anew. -/
theorem found_cut {d : Nat} {before inside p rest : List Char}
    (hp : pieces ⟨.code, d⟩ (p ++ rest) = p :: pieces .start rest) (hb : isBlankText (inside ++ p) = false) :
    found before inside (p ++ rest) d =
      ⟨byteLength before, inside ++ p⟩ :: found (before ++ (inside ++ p)) [] rest 0 := by
  rw [found, found, hp, attach_cons, place, List.filter_cons, hb, ← byteLength_append]
  change _ = _ :: List.filter _ (place _ (attach [] (pieces .start rest)))
  rw [attach_nil_pieces]
  rfl

theorem dropBytes?_here (before inside rest : List Char) :
    dropBytes? (before ++ (inside ++ rest)) (byteLength before + byteLength inside) = some rest := by
  rw [← List.append_assoc, ← byteLength_append, dropBytes?_append]

/-- The walk from a place on finds what there is to be found. -/
def Walks (before inside rest : List Char) (depth : Nat) : Prop :=
  ∀ items, walk (before ++ (inside ++ rest)) (byteLength before) depth (byteLength before + byteLength inside) items =
    some (items ++ found before inside rest depth)

/-- After a slash that opens no comment the walk is in code again. -/
theorem pieces_slash {d : Nat} {cs : List Char} (h : ∀ cs', cs ≠ '/' :: cs' ∧ cs ≠ '*' :: cs') :
    pieces ⟨.slash, d⟩ cs = pieces ⟨.code, d⟩ cs := by
  cases cs with
  | nil => rfl
  | cons c cs =>
    have h1 : c ≠ '/' := by rintro rfl; exact (h cs).1 rfl
    have h2 : c ≠ '*' := by rintro rfl; exact (h cs).2 rfl
    have hstep : step ⟨.slash, d⟩ c = step ⟨.code, d⟩ c := by simp only [step, h1, h2, if_false]
    rw [pieces_cons, pieces_cons, hstep]

theorem walks_leap {d e : Nat} {before inside x rest : List Char}
    (hp : pieces ⟨.code, d⟩ (x ++ rest) = attach x (pieces ⟨.code, e⟩ rest))
    (hw : ∀ items, walk (before ++ (inside ++ (x ++ rest))) (byteLength before) d (byteLength before + byteLength inside)
      items = walk (before ++ (inside ++ (x ++ rest))) (byteLength before) e
        (byteLength before + byteLength inside + byteLength x) items)
    (ih : Walks before (inside ++ x) rest e) : Walks before inside (x ++ rest) d := by
  intro items
  have := ih items
  rw [byteLength_append, List.append_assoc, ← Nat.add_assoc] at this
  rw [hw, this, found_leap hp]

theorem walks_cut {d : Nat} {before inside p rest : List Char}
    (hp : pieces ⟨.code, d⟩ (p ++ rest) = p :: pieces .start rest) (hb : isBlankText (inside ++ p) = false)
    (hw : ∀ items, walk (before ++ (inside ++ (p ++ rest))) (byteLength before) d
      (byteLength before + byteLength inside) items =
        (do let items' ← push? (before ++ (inside ++ (p ++ rest))) (byteLength before)
              (byteLength before + byteLength (inside ++ p)) items
            walk (before ++ (inside ++ (p ++ rest))) (byteLength before + byteLength (inside ++ p)) 0
              (byteLength before + byteLength (inside ++ p)) items'))
    (ih : Walks (before ++ (inside ++ p)) [] rest 0) : Walks before inside (p ++ rest) d := by
  intro items
  have hpush := push?_eq before (inside ++ p) rest items
  rw [List.append_assoc, hb] at hpush
  have := ih (items ++ [⟨byteLength before, inside ++ p⟩])
  rw [List.nil_append, byteLength_append, byteLength_nil, Nat.add_zero, List.append_assoc, List.append_assoc] at this
  rw [hw, hpush, found_cut hp hb]
  simpa using this

theorem walks_nil (before inside : List Char) (d : Nat) : Walks before inside [] d := by
  intro items
  have hend : (bytes (before ++ (inside ++ []))).drop (byteLength before + byteLength inside) = [] := drop_here _ _ _
  have hsize : byteLength (before ++ (inside ++ [])) = byteLength before + byteLength inside := by simp
  have hfound : found before inside [] d = if isBlankText inside then [] else [⟨byteLength before, inside⟩] := by
    cases h : isBlankText inside <;> simp [found, pieces, attach, place, h]
  rw [walk_end hend, hsize, push?_eq, hfound]
  by_cases hi : inside = []
  · subst hi
    have hlt : ¬ byteLength before < byteLength before + byteLength [] := by simp
    rw [if_neg hlt]
    simp [isBlankText]
  · have := byteLength_pos hi
    rw [if_pos (by omega)]
    cases isBlankText inside <;> simp

theorem walks_lineComment {d : Nat} {before inside cs : List Char}
    (ih : ∀ inside' rest, rest.length < cs.length + 2 → Walks before inside' rest d) :
    Walks before inside ('/' :: '/' :: cs) d := by
  have hdrop := drop_here before inside ('/' :: '/' :: cs)
  rw [bytes_ascii (by decide), bytes_ascii (by decide)] at hdrop
  have hrest := dropBytes?_here before inside ('/' :: '/' :: cs)
  have hopen : after ⟨.code, d⟩ ['/', '/'] = ⟨.lineComment, d⟩ := rfl
  have hstart : Unbroken ⟨.code, d⟩ ['/', '/'] := ⟨rfl, rfl, trivial⟩
  have hfind : find? ['\n'] ('/' :: '/' :: cs) = ((find? ['\n'] cs).map (1 + ·)).map (1 + ·) := rfl
  rcases lineComment_leap d cs with ⟨x, rest, rfl, hf, hu, ho⟩ | ⟨hf, hu⟩
  · have hx : Unbroken ⟨.code, d⟩ (['/', '/'] ++ x) := unbroken_append.mpr ⟨hstart, by rw [hopen]; exact hu⟩
    have hover : after ⟨.code, d⟩ (['/', '/'] ++ x) = ⟨.lineComment, d⟩ := by rw [after_append, hopen, ho]
    change Walks before inside ((['/', '/'] ++ x) ++ '\n' :: rest) d
    refine walks_leap (e := d) ?_ (fun items => ?_) (ih _ _ ?_)
    · -- the newline ends the comment, and it means nothing in code either
      rw [pieces_of_unbroken hx, hover]
      rfl
    · have hlen : byteLength (['/', '/'] ++ x) = 1 + (1 + byteLength x) := by simp; rfl
      rw [hlen]
      refine (walk_lineComment hdrop hrest).trans ?_
      rw [hfind, hf]
      rfl
    · simp only [List.length_append, List.length_cons]; omega
  · have hx : Unbroken ⟨.code, d⟩ (['/', '/'] ++ cs) := unbroken_append.mpr ⟨hstart, by rw [hopen]; exact hu⟩
    have hw : Walks before inside ((['/', '/'] ++ cs) ++ []) d := walks_leap (e := d)
      (by rw [pieces_of_unbroken hx]; rfl) (fun items => by
        rw [List.append_nil]
        refine (walk_lineComment hdrop hrest).trans ?_
        rw [hfind, hf]
        simp [Nat.add_assoc]) (ih _ _ (by simp))
    rwa [List.append_nil] at hw

theorem walks_blockComment {d : Nat} {before inside cs : List Char}
    (ih : ∀ inside' rest, rest.length < cs.length + 2 → Walks before inside' rest d) :
    Walks before inside ('/' :: '*' :: cs) d := by
  have hdrop := drop_here before inside ('/' :: '*' :: cs)
  rw [bytes_ascii (by decide), bytes_ascii (by decide)] at hdrop
  have hrest : dropBytes? (before ++ (inside ++ '/' :: '*' :: cs)) (byteLength before + byteLength inside + 2) =
      some cs := by
    have := dropBytes?_here before (inside ++ ['/', '*']) cs
    rwa [List.append_assoc, byteLength_append, ← Nat.add_assoc] at this
  have hopen : after ⟨.code, d⟩ ['/', '*'] = ⟨.blockComment, d⟩ := rfl
  have hstart : Unbroken ⟨.code, d⟩ ['/', '*'] := ⟨rfl, rfl, trivial⟩
  rcases blockComment_leap d cs with ⟨x, rest, rfl, hf, hu, ho⟩ | ⟨hf, hu⟩
  · have hx : Unbroken ⟨.code, d⟩ (['/', '*'] ++ (x ++ ['*', '/'])) :=
      unbroken_append.mpr ⟨hstart, by rw [hopen]; exact hu⟩
    have hover : after ⟨.code, d⟩ (['/', '*'] ++ (x ++ ['*', '/'])) = ⟨.code, d⟩ := by rw [after_append, hopen, ho]
    have hsplit : '/' :: '*' :: (x ++ '*' :: '/' :: rest) = (['/', '*'] ++ (x ++ ['*', '/'])) ++ rest := by simp
    have hlen : byteLength (['/', '*'] ++ (x ++ ['*', '/'])) = 2 + byteLength x + 2 := by
      have h1 : ('*' : Char).utf8Size = 1 := by decide
      have h2 : ('/' : Char).utf8Size = 1 := by decide
      simp only [byteLength_append, byteLength_cons, byteLength_nil, h1, h2]; omega
    have hwalk : ∀ items, walk (before ++ (inside ++ '/' :: '*' :: (x ++ '*' :: '/' :: rest))) (byteLength before) d
        (byteLength before + byteLength inside) items =
          walk (before ++ (inside ++ '/' :: '*' :: (x ++ '*' :: '/' :: rest))) (byteLength before) d
            (byteLength before + byteLength inside + (2 + byteLength x + 2)) items := by
      intro items
      rw [walk_blockComment hdrop hrest, hf]
      simp only [Option.map_some, Option.getD_some]
      congr 1; omega
    rw [hsplit] at hwalk ⊢
    refine walks_leap (e := d) ?_ (fun items => ?_) (ih _ _ ?_)
    · rw [pieces_of_unbroken hx, hover]
    · rw [hlen]; exact hwalk items
    · simp only [List.length_append, List.length_cons]; omega
  · have hx : Unbroken ⟨.code, d⟩ (['/', '*'] ++ cs) := unbroken_append.mpr ⟨hstart, by rw [hopen]; exact hu⟩
    have hw : Walks before inside ((['/', '*'] ++ cs) ++ []) d := walks_leap (e := d)
      (by rw [pieces_of_unbroken hx]; rfl) (fun items => by
        rw [List.append_nil]
        refine (walk_blockComment hdrop hrest).trans ?_
        rw [hf]
        simp [Nat.add_assoc]) (ih _ _ (by simp))
    rwa [List.append_nil] at hw

theorem walks_quote {d : Nat} {q : Char} (hq : q = '"' ∨ q = '\'') {before inside cs : List Char}
    (ih : ∀ inside' rest, rest.length < cs.length + 1 → Walks before inside' rest d) :
    Walks before inside (q :: cs) d := by
  have hascii : q.toNat < 128 := by rcases hq with rfl | rfl <;> decide
  have hne : q ≠ '\\' := ne_backslash hq
  have hsize : q.utf8Size = 1 := by rcases hq with rfl | rfl <;> decide
  have hopen : step ⟨.code, d⟩ q = (⟨.quoted q, d⟩, false) := by rcases hq with rfl | rfl <;> rfl
  have hdrop := drop_here before inside (q :: cs)
  rw [bytes_ascii hascii] at hdrop
  rcases quoted_leap hascii hne d cs with ⟨x, rest, rfl, hk, hu, ho⟩ | ⟨hk, hu⟩
  · have hx : Unbroken ⟨.code, d⟩ (q :: (x ++ [q])) := by rw [unbroken_cons, hopen]; exact ⟨rfl, hu⟩
    have hover : after ⟨.code, d⟩ (q :: (x ++ [q])) = ⟨.code, d⟩ := by rw [after_cons, hopen]; exact ho
    have hsplit : q :: (x ++ q :: rest) = (q :: (x ++ [q])) ++ rest := by simp
    have hlen : byteLength (q :: (x ++ [q])) = 1 + byteLength x + 1 := by
      simp only [byteLength_append, byteLength_cons, byteLength_nil, hsize]; omega
    have hwalk : ∀ items, walk (before ++ (inside ++ q :: (x ++ q :: rest))) (byteLength before) d
        (byteLength before + byteLength inside) items =
          walk (before ++ (inside ++ q :: (x ++ q :: rest))) (byteLength before) d
            (byteLength before + byteLength inside + (1 + byteLength x + 1)) items := by
      intro items
      rw [walk_quote hq hdrop, hk]
      congr 1; omega
    rw [hsplit] at hwalk ⊢
    refine walks_leap (e := d) ?_ (fun items => ?_) (ih _ _ ?_)
    · rw [pieces_of_unbroken hx, hover]
    · rw [hlen]; exact hwalk items
    · simp only [List.length_append, List.length_cons]; omega
  · -- the literal does not end, so the walk lands at the end of the text or beyond it
    have hx : Unbroken ⟨.code, d⟩ (q :: cs) := by rw [unbroken_cons, hopen]; exact ⟨rfl, hu⟩
    have hend := walks_nil before (inside ++ q :: cs) d
    intro items
    have hfound : found before inside (q :: cs) d = found before (inside ++ q :: cs) [] d := by
      have : found before inside (q :: cs ++ []) d = found before (inside ++ q :: cs) [] d :=
        found_leap (by rw [pieces_of_unbroken hx]; rfl)
      rwa [List.append_nil] at this
    have hfar := hend items
    rw [List.append_nil] at hfar
    rw [walk_quote hq hdrop, hfound, ← hfar]
    have hsizes : byteLength (before ++ (inside ++ q :: cs)) = byteLength before + byteLength (inside ++ q :: cs) :=
      byteLength_append _ _
    rw [walk_end, walk_end]
    · rw [List.drop_eq_nil_iff, length_bytes]; omega
    · rw [List.drop_eq_nil_iff, length_bytes, hsizes]
      simp only [byteLength_append, byteLength_cons, hsize]; omega

theorem walks_open {d : Nat} {before inside cs : List Char} (ih : ∀ inside', Walks before inside' cs (d + 1)) :
    Walks before inside ('{' :: cs) d := by
  have hdrop := drop_here before inside ('{' :: cs)
  rw [bytes_ascii (by decide)] at hdrop
  have hu : Unbroken ⟨.code, d⟩ ['{'] := ⟨rfl, trivial⟩
  refine walks_leap (x := ['{']) (e := d + 1) ?_ (fun items => walk_open hdrop) (ih _)
  rw [pieces_of_unbroken hu]
  rfl

theorem walks_close {d : Nat} {before inside cs : List Char} (hcut : ∀ before', Walks before' [] cs 0)
    (ih : ∀ inside', Walks before inside' cs (d - 1)) : Walks before inside ('}' :: cs) d := by
  have hdrop := drop_here before inside ('}' :: cs)
  rw [bytes_ascii (by decide)] at hdrop
  have hends : (step ⟨.code, d⟩ '}').2 = decide (d ≤ 1) := rfl
  by_cases hd : d - 1 = 0
  · have hcloses : Closes ⟨.code, d⟩ ['}'] := ⟨[], '}', rfl, trivial, hends.trans (decide_eq_true (by omega))⟩
    refine walks_cut (p := ['}']) (pieces_of_closes hcloses cs) ?_ (fun items => ?_) (hcut _)
    · exact not_blank_append inside rfl
    · refine (walk_close hdrop).trans ?_
      rw [if_pos hd, byteLength_append, ← Nat.add_assoc]
      rfl
  · refine walks_leap (x := ['}']) (e := d - 1) ?_ (fun items => ?_) (ih _)
    · have hu : Unbroken ⟨.code, d⟩ ['}'] := ⟨hends.trans (decide_eq_false (by omega)), trivial⟩
      rw [pieces_of_unbroken hu]
      rfl
    · refine (walk_close hdrop).trans ?_
      rw [if_neg hd]
      rfl

theorem walks_semicolon {before inside cs : List Char} (hcut : ∀ before', Walks before' [] cs 0) :
    Walks before inside (';' :: cs) 0 := by
  have hdrop := drop_here before inside (';' :: cs)
  rw [bytes_ascii (by decide)] at hdrop
  have hcloses : Closes ⟨.code, 0⟩ [';'] := ⟨[], ';', rfl, trivial, rfl⟩
  refine walks_cut (p := [';']) (pieces_of_closes hcloses cs) ?_ (fun items => ?_) (hcut _)
  · exact not_blank_append inside rfl
  · refine (walk_semicolon hdrop).trans ?_
    rw [byteLength_append, ← Nat.add_assoc]
    rfl

/-- A character that means nothing here: none of those above, or a slash that opens no comment, or a
semicolon behind an open brace. -/
theorem walks_other {d : Nat} {c : Char} {before inside cs : List Char} (hquote : c ≠ '"' ∧ c ≠ '\'')
    (hbrace : c ≠ '{' ∧ c ≠ '}') (hslash : c = '/' → ∀ cs', cs ≠ '/' :: cs' ∧ cs ≠ '*' :: cs')
    (hsemi : c = ';' → d ≠ 0) (ih : ∀ inside', Walks before inside' cs d) : Walks before inside (c :: cs) d := by
  have hdrop := drop_here before inside (c :: cs)
  have hpieces : pieces ⟨.code, d⟩ ([c] ++ cs) = attach [c] (pieces ⟨.code, d⟩ cs) := by
    by_cases hc : c = '/'
    · subst hc
      have hu : Unbroken ⟨.code, d⟩ ['/'] := ⟨rfl, trivial⟩
      have hover : after ⟨.code, d⟩ ['/'] = ⟨.slash, d⟩ := rfl
      rw [pieces_of_unbroken hu, hover, pieces_slash (hslash rfl)]
    · have hstep : step ⟨.code, d⟩ c = (⟨.code, d⟩, false) := by
        have hends : ¬ (c = ';' ∧ d = 0) := fun h => hsemi h.1 h.2
        simp only [step, stepCode, hc, hquote, hbrace, hends, if_false, or_self, decide_false]
      have hu : Unbroken ⟨.code, d⟩ [c] := ⟨congrArg Prod.snd hstep, trivial⟩
      rw [pieces_of_unbroken hu, after_cons, hstep]
      rfl
  refine walks_leap (x := [c]) hpieces (fun items => ?_) (ih _)
  by_cases hc : c.toNat < 128
  · have hsize : byteLength [c] = 1 := by rw [← length_bytes, bytes_ascii hc]; rfl
    rw [bytes_ascii hc] at hdrop
    have hne : ∀ k : Char, k.toNat < 128 → c ≠ k → byte c ≠ byte k := fun k hk h =>
      encode_ne_byte hk h (by rw [encode_ascii hc]; exact List.mem_singleton.mpr rfl)
    rw [hsize]
    refine walk_other hdrop ⟨hne _ (by decide) hquote.1, hne _ (by decide) hquote.2⟩
      ⟨hne _ (by decide) hbrace.1, hne _ (by decide) hbrace.2⟩ (fun hb => ?_) (fun hb => ?_)
    · have hc' : c = '/' := Classical.byContradiction fun h => hne _ (by decide) h hb
      refine ⟨fun h => ?_, fun h => ?_⟩
      · obtain ⟨cs', rfl⟩ := (head?_bytes (by decide) cs).mp h
        exact (hslash hc' cs').1 rfl
      · obtain ⟨cs', rfl⟩ := (head?_bytes (by decide) cs).mp h
        exact (hslash hc' cs').2 rfl
    · exact hsemi (Classical.byContradiction fun h => hne _ (by decide) h hb)
  · rw [bytes_cons] at hdrop
    have hsize : byteLength [c] = (String.utf8EncodeChar c).length := by rw [String.length_utf8EncodeChar]; rfl
    rw [hsize]
    refine walk_bytes (fun b hb k hk => ?_) hdrop
    have hk : k.toNat < 128 := by
      simp only [List.mem_cons, List.not_mem_nil, or_false] at hk
      rcases hk with rfl | rfl | rfl | rfl | rfl | rfl <;> decide
    exact encode_ne_byte hk (by rintro rfl; exact hc hk) hb

theorem walks (before inside rest : List Char) (depth : Nat) : Walks before inside rest depth := by
  induction hn : rest.length using Nat.strongRecOn generalizing before inside rest depth with
  | ind n ih =>
    subst hn
    have next : ∀ {c cs}, rest = c :: cs → ∀ before' inside' depth', Walks before' inside' cs depth' :=
      fun h before' inside' depth' => ih _ (by rw [h, List.length_cons]; omega) before' inside' _ depth' rfl
    cases rest with
    | nil => exact walks_nil before inside depth
    | cons c cs =>
      by_cases hline : ∃ cs', c = '/' ∧ cs = '/' :: cs'
      · obtain ⟨cs', rfl, rfl⟩ := hline
        exact walks_lineComment fun inside' rest hlt => ih _ (by rw [List.length_cons, List.length_cons]; exact hlt) _ _ _ _ rfl
      by_cases hblock : ∃ cs', c = '/' ∧ cs = '*' :: cs'
      · obtain ⟨cs', rfl, rfl⟩ := hblock
        exact walks_blockComment fun inside' rest hlt => ih _ (by rw [List.length_cons, List.length_cons]; exact hlt) _ _ _ _ rfl
      by_cases hq : c = '"' ∨ c = '\''
      · exact walks_quote hq fun inside' rest hlt => ih _ (by simpa using hlt) _ _ _ _ rfl
      by_cases ho : c = '{'
      · subst ho
        exact walks_open fun inside' => next rfl _ _ _
      by_cases hcl : c = '}'
      · subst hcl
        exact walks_close (fun before' => next rfl _ _ _) fun inside' => next rfl _ _ _
      by_cases hs : c = ';' ∧ depth = 0
      · obtain ⟨rfl, rfl⟩ := hs
        exact walks_semicolon fun before' => next rfl _ _ _
      exact walks_other (not_or.mp hq) ⟨ho, hcl⟩
        (fun hc cs' => ⟨fun h => hline ⟨cs', hc, h⟩, fun h => hblock ⟨cs', hc, h⟩⟩)
        (fun hc hd => hs ⟨hc, hd⟩) fun inside' => next rfl _ _ _

/-- The walk over the bytes of a text has a result, and it is the items of the text. -/
theorem ofBytes?_eq (text : List Char) : ofBytes? text = some (ofText text) := by
  have h := walks [] [] text 0 []
  have hfound : found [] [] text 0 = ofText text := by
    rw [found, ofText, attach_nil_pieces]
    rfl
  rw [hfound] at h
  exact h

end SoliditySchema.Item
