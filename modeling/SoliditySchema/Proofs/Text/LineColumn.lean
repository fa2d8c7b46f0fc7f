/-
  SoliditySchema.Proofs.Text.LineColumn — a line and a column lead back to their byte offset.

  A text is its lines, each with its newline behind it, and one more line that has none (`exists_lines`). So what
  stands before a boundary is some whole lines and the beginning of the next one, and these are what the line and
  the column of the boundary count. `Position.LeadsTo` says this of the lines that splitting the text at its newlines
  gives. A place leads to one offset at most, and the places that lead to one are those of the boundaries
  (`lineColumn_exact`).
-/

import Mathlib.Data.List.Induction
import SoliditySchema.Proofs.Text.Position

namespace SoliditySchema.Text

/-! ## Lines -/

/-- Lines, each with a newline behind it. -/
def ended (lines : List (List Char)) : List Char := lines.flatMap (· ++ ['\n'])

/-- A text without a newline. -/
def IsLine (cs : List Char) : Prop := '\n' ∉ cs

theorem ended_cons (line : List Char) (lines : List (List Char)) (rest : List Char) :
    ended (line :: lines) ++ rest = line ++ '\n' :: (ended lines ++ rest) := by
  simp [ended]

theorem ended_concat (lines : List (List Char)) (line : List Char) :
    ended (lines ++ [line]) = ended lines ++ (line ++ ['\n']) := by
  simp [ended]

/-- Every text is some lines with their newlines and a last line. -/
theorem exists_lines (text : List Char) :
    ∃ lines last, (∀ line ∈ lines, IsLine line) ∧ IsLine last ∧ text = ended lines ++ last := by
  induction text using List.reverseRecOn with
  | nil => exact ⟨[], [], fun _ h => (List.not_mem_nil h).elim, List.not_mem_nil, rfl⟩
  | append_singleton text c ih =>
    obtain ⟨lines, last, hlines, hlast, rfl⟩ := ih
    by_cases hc : c = '\n'
    · subst hc
      refine ⟨lines ++ [last], [], fun line hline => ?_, List.not_mem_nil, ?_⟩
      · rcases List.mem_append.mp hline with hline | hline
        · exact hlines line hline
        · rw [List.mem_singleton.mp hline]
          exact hlast
      · rw [ended_concat, List.append_nil, List.append_assoc]
    · refine ⟨lines, last ++ [c], hlines, ?_, List.append_assoc ..⟩
      unfold IsLine at hlast ⊢
      simp [hlast, Ne.symm hc]

theorem splitOn_ended {lines : List (List Char)} {last : List Char} (hlines : ∀ line ∈ lines, IsLine line)
    (hlast : IsLine last) : (ended lines ++ last).splitOn '\n' = lines ++ [last] := by
  induction lines with
  | nil => exact List.splitOn_eq_singleton hlast
  | cons line lines ih =>
    rw [ended_cons, List.splitOn_append_cons_self_of_not_mem (hlines line List.mem_cons_self),
      ih fun l hl => hlines l (List.mem_cons_of_mem line hl), List.cons_append]

/-- Behind whole lines and the beginning of a line, that line goes on. -/
theorem splitOn_before {lines : List (List Char)} {start : List Char} (hlines : ∀ line ∈ lines, IsLine line)
    (hstart : IsLine start) (rest : List Char) :
    ∃ more later, (ended lines ++ (start ++ rest)).splitOn '\n' = lines ++ (start ++ more) :: later := by
  obtain ⟨restLines, last, hrest, hlast, rfl⟩ := exists_lines rest
  cases restLines with
  | nil =>
    have hline : IsLine (start ++ last) := fun h => (List.mem_append.mp h).elim hstart hlast
    exact ⟨last, [], splitOn_ended hlines hline⟩
  | cons line restLines =>
    have hline : IsLine (start ++ line) := fun h =>
      (List.mem_append.mp h).elim hstart (hrest line List.mem_cons_self)
    have htext : ended lines ++ (start ++ (ended (line :: restLines) ++ last)) =
        ended (lines ++ (start ++ line) :: restLines) ++ last := by simp [ended]
    refine ⟨line, restLines ++ [last], ?_⟩
    rw [htext, splitOn_ended ?_ hlast, List.append_assoc, List.cons_append]
    intro l hl
    rcases List.mem_append.mp hl with hl | hl
    · exact hlines l hl
    rcases List.mem_cons.mp hl with rfl | hl
    · exact hline
    · exact hrest l (List.mem_cons_of_mem line hl)

/-- A line that splitting finds stands behind the lines before it, with their newlines. -/
theorem of_splitOn {text line : List Char} {earlier later : List (List Char)}
    (h : text.splitOn '\n' = earlier ++ line :: later) :
    (∀ l ∈ earlier, IsLine l) ∧ IsLine line ∧ ∃ rest, text = ended earlier ++ (line ++ rest) := by
  obtain ⟨lines, last, hlines, hlast, rfl⟩ := exists_lines text
  rw [splitOn_ended hlines hlast] at h
  rcases List.eq_nil_or_concat later with rfl | ⟨later, l, rfl⟩
  · obtain ⟨rfl, hline⟩ := List.append_inj' h rfl
    obtain rfl : last = line := List.singleton_inj.mp hline
    exact ⟨hlines, hlast, [], by rw [List.append_nil]⟩
  · rw [List.concat_eq_append, ← List.cons_append, ← List.append_assoc] at h
    obtain ⟨rfl, -⟩ := List.append_inj' h rfl
    refine ⟨fun l hl => hlines l (List.mem_append_left _ hl), hlines line (by simp), ?_⟩
    exact ⟨'\n' :: (ended later ++ last), by simp [ended]⟩

/-! ## Places behind lines -/

namespace Position

theorem afterText_line (p : Position) {cs : List Char} (h : IsLine cs) : p.afterText cs = ⟨p.line, p.column + cs.length⟩ := by
  induction cs generalizing p with
  | nil => rfl
  | cons c cs ih =>
    have hc : c ≠ '\n' := Ne.symm (List.ne_of_not_mem_cons h)
    have hafter : p.after c = ⟨p.line, p.column + 1⟩ := if_neg hc
    have hcount : p.column + 1 + cs.length = p.column + (c :: cs).length := by rw [List.length_cons]; omega
    show (p.after c).afterText cs = _
    rw [hafter, ih _ (List.not_mem_of_not_mem_cons h), hcount]

theorem afterText_ended {lines : List (List Char)} (h : ∀ line ∈ lines, IsLine line) (line : Nat) :
    afterText ⟨line, 1⟩ (ended lines) = ⟨line + lines.length, 1⟩ := by
  induction lines generalizing line with
  | nil => rfl
  | cons l lines ih =>
    have hl : afterText ⟨line, 1⟩ (l ++ ['\n']) = ⟨line + 1, 1⟩ := by
      rw [afterText_append, afterText_line _ (h l List.mem_cons_self)]
      rfl
    have hcons : ended (l :: lines) = (l ++ ['\n']) ++ ended lines := rfl
    rw [hcons, afterText_append, hl, ih fun x hx => h x (List.mem_cons_of_mem l hx), List.length_cons]
    congr 1
    omega

/-- The place behind whole lines and the beginning of the next one. -/
theorem afterText_lines {lines : List (List Char)} {start : List Char} (hlines : ∀ line ∈ lines, IsLine line)
    (hstart : IsLine start) : first.afterText (ended lines ++ start) = ⟨lines.length + 1, start.length + 1⟩ := by
  have hfirst : first = ⟨1, 1⟩ := rfl
  rw [hfirst, afterText_append, afterText_ended hlines, afterText_line _ hstart, Nat.add_comm 1, Nat.add_comm 1]

/-- A place in a text and the byte offset there: the text has the line and the line the columns before the place,
and the lines before it with their newlines and the characters before it in its line are so many bytes. -/
def LeadsTo (p : Position) (text : List Char) (offset : Nat) : Prop :=
  ∃ earlier line later, text.splitOn '\n' = earlier ++ line :: later ∧ p.line = earlier.length + 1 ∧
    1 ≤ p.column ∧ p.column - 1 ≤ line.length ∧
    byteLength (ended earlier) + byteLength (line.take (p.column - 1)) = offset

/-- The place of a boundary leads to it. -/
theorem leadsTo_lineColumn {text : List Char} {offset : Nat} (h : IsBoundary text offset) :
    (lineColumn text offset).LeadsTo text offset := by
  obtain ⟨before, after, rfl, rfl⟩ := h
  obtain ⟨lines, start, hlines, hstart, rfl⟩ := exists_lines before
  obtain ⟨more, later, hsplit⟩ := splitOn_before hlines hstart after
  rw [lineColumn_append, afterText_lines hlines hstart, List.append_assoc]
  refine ⟨lines, start ++ more, later, hsplit, rfl, by simp, by simp, ?_⟩
  rw [Nat.add_sub_cancel, List.take_left, byteLength_append]

/-- Every place in a text leads to a boundary, and it is the place of that boundary. -/
theorem LeadsTo.lineColumn_eq {p : Position} {text : List Char} {offset : Nat} (h : p.LeadsTo text offset) :
    IsBoundary text offset ∧ lineColumn text offset = p := by
  obtain ⟨earlier, line, later, hsplit, hline, hcolumn, hlength, rfl⟩ := h
  obtain ⟨hearlier, hl, rest, rfl⟩ := of_splitOn hsplit
  have hstart : IsLine (line.take (p.column - 1)) := fun hmem => hl (List.mem_of_mem_take hmem)
  have htext : ended earlier ++ (line ++ rest) =
      (ended earlier ++ line.take (p.column - 1)) ++ (line.drop (p.column - 1) ++ rest) := by
    rw [List.append_assoc, ← List.append_assoc (line.take _), List.take_append_drop]
  rw [← byteLength_append]
  refine ⟨⟨_, _, htext, rfl⟩, ?_⟩
  rw [htext, lineColumn_append, afterText_lines hearlier hstart, List.length_take_of_le hlength, Nat.sub_add_cancel hcolumn,
    ← hline]

end Position

/-! ## Other offsets -/

/-- What is taken is a beginning of so many bytes. -/
theorem of_takeBytes? {text before : List Char} {n : Nat} (h : takeBytes? text n = some before) :
    ∃ after, text = before ++ after ∧ n = byteLength before := by
  induction text generalizing n before with
  | nil =>
    cases n with
    | zero =>
      cases h
      exact ⟨[], rfl, rfl⟩
    | succ n => cases h
  | cons c cs ih =>
    cases n with
    | zero =>
      cases h
      exact ⟨c :: cs, rfl, rfl⟩
    | succ n =>
      simp only [takeBytes?] at h
      split at h
      · rename_i hle
        obtain ⟨more, hmore, rfl⟩ := Option.map_eq_some_iff.mp h
        obtain ⟨after, rfl, hn⟩ := ih hmore
        exact ⟨after, rfl, by rw [byteLength_cons]; omega⟩
      · cases h

theorem isBoundary_iff {text : List Char} {offset : Nat} : IsBoundary text offset ↔ (takeBytes? text offset).isSome := by
  constructor
  · rintro ⟨before, after, rfl, rfl⟩
    rw [takeBytes?_append]
    rfl
  · intro h
    obtain ⟨before, hbefore⟩ := Option.isSome_iff_exists.mp h
    obtain ⟨after, htext, hn⟩ := of_takeBytes? hbefore
    exact ⟨before, after, htext, hn⟩

instance (text : List Char) (offset : Nat) : Decidable (IsBoundary text offset) := decidable_of_iff _ isBoundary_iff.symm

/-- An offset inside a character or past the end has the place of the end. -/
theorem lineColumn_of_not_boundary {text : List Char} {offset : Nat} (h : ¬ IsBoundary text offset) :
    lineColumn text offset = lineColumn text (byteLength text) := by
  have hnone : takeBytes? text offset = none := by
    rw [isBoundary_iff, Bool.not_eq_true, Option.isSome_eq_false_iff, Option.isNone_iff_eq_none] at h
    exact h
  have hend := lineColumn_append text []
  rw [List.append_nil] at hend
  rw [hend, lineColumn, hnone]
  rfl

/-- The places that lead to an offset are those of the boundaries, and later boundaries have later places. Any other
offset has the place of the end, so every offset has a place in the text. -/
theorem lineColumn_exact (text : List Char) :
    (∀ p offset, p.LeadsTo text offset ↔ IsBoundary text offset ∧ lineColumn text offset = p) ∧
    (∀ m n, IsBoundary text m → IsBoundary text n → m < n → lineColumn text m < lineColumn text n) ∧
    (∀ offset, ¬ IsBoundary text offset → lineColumn text offset = lineColumn text (byteLength text)) ∧
    ∀ offset, ∃ boundary, (lineColumn text offset).LeadsTo text boundary := by
  refine ⟨fun p offset => ⟨Position.LeadsTo.lineColumn_eq, ?_⟩, fun m n => lineColumn_lt,
    fun offset => lineColumn_of_not_boundary, fun offset => ?_⟩
  · rintro ⟨h, rfl⟩
    exact Position.leadsTo_lineColumn h
  · by_cases h : IsBoundary text offset
    · exact ⟨offset, Position.leadsTo_lineColumn h⟩
    · have hend : IsBoundary text (byteLength text) := ⟨text, [], (List.append_nil _).symm, rfl⟩
      rw [lineColumn_of_not_boundary h]
      exact ⟨_, Position.leadsTo_lineColumn hend⟩

/-- Places behind an empty line and a character of four bytes, and an offset inside that character. -/
theorem lineColumn_around_emoji :
    Position.LeadsTo ⟨3, 2⟩ "é\n\n😀b".toList 8 ∧ lineColumn "é\n\n😀b".toList 4 < lineColumn "é\n\n😀b".toList 8 ∧
      lineColumn "é\n\n😀b".toList 6 = ⟨3, 3⟩ :=
  have hexact := lineColumn_exact "é\n\n😀b".toList
  ⟨(hexact.1 _ _).mpr ⟨by decide, by decide⟩, hexact.2.1 _ _ (by decide) (by decide) (by decide),
    (hexact.2.2.1 6 (by decide)).trans (by decide)⟩

end SoliditySchema.Text
