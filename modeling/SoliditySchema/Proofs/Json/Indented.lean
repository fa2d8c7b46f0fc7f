/-
  SoliditySchema.Proofs.Json.Indented — the lines of the indented form.

  The texts inside a value are escaped, so a newline stands only where the indented form begins a line: behind
  it is a blank, or the bracket that closes the outermost container (`indented_pretty`). The text falls into
  lines that begin so, and a first one (`Indented.exists_lines`).
-/

import SoliditySchema.Proofs.Json.Pretty
import SoliditySchema.Proofs.Text.Line

namespace SoliditySchema.Json

/-- A character with which a line after the first one may begin. -/
def BeginsLine (c : Char) : Prop := c = ' ' ∨ c = '}' ∨ c = ']'

theorem BeginsLine.ne_newline {c : Char} (h : BeginsLine c) : c ≠ '\n' := by
  rcases h with rfl | rfl | rfl <;> decide

/-- Characters among which a newline only stands before one that begins a line. -/
inductive Indented : List Char → Prop
  | nil : Indented []
  | plain {c : Char} {cs : List Char} : c ≠ '\n' → Indented cs → Indented (c :: cs)
  | line {c : Char} {cs : List Char} : BeginsLine c → Indented (c :: cs) → Indented ('\n' :: c :: cs)

namespace Indented

theorem append {cs ds : List Char} (hc : Indented cs) (hd : Indented ds) : Indented (cs ++ ds) := by
  induction hc with
  | nil => exact hd
  | plain hne _ ih => exact .plain hne ih
  | line hbegins _ ih => exact .line hbegins ih

theorem of_not_mem {cs : List Char} (h : '\n' ∉ cs) : Indented cs := by
  induction cs with
  | nil => exact .nil
  | cons c cs ih =>
    apply Indented.plain
    · intro hc
      exact h (by rw [hc]; exact List.mem_cons_self)
    · exact ih fun hmem => h (List.mem_cons_of_mem c hmem)

theorem blanks_append {c : Char} {cs : List Char} (hc : BeginsLine c) (h : Indented (c :: cs)) (n : Nat) :
    Indented ('\n' :: (List.replicate n ' ' ++ c :: cs)) := by
  have hall : ∀ n, Indented (List.replicate n ' ' ++ c :: cs) := by
    intro n
    apply append _ h
    apply of_not_mem
    intro hmem
    exact absurd (List.eq_of_mem_replicate hmem) (by decide)
  cases n with
  | zero => exact .line hc h
  | succ n => exact .line (.inl rfl) (hall (n + 1))

theorem newline_append {c : Char} {cs : List Char} (hc : BeginsLine c) (h : Indented (c :: cs)) (depth : Nat) :
    Indented (newline depth ++ c :: cs) := blanks_append hc h (2 * depth)

/-- Below the outermost container a line begins with a blank, whatever it holds. -/
theorem newline_succ_append {cs : List Char} (h : Indented cs) (depth : Nat) : Indented (newline (depth + 1) ++ cs) := by
  have hblank : newline (depth + 1) ++ cs = '\n' :: (List.replicate (2 * depth + 1) ' ' ++ ' ' :: cs) := by
    have hlist : List.replicate (2 * (depth + 1)) ' ' = List.replicate (2 * depth + 1) ' ' ++ [' '] :=
      List.replicate_succ'
    simp [newline, hlist]
  rw [hblank]
  exact blanks_append (.inl rfl) (.plain (by decide) h) _

end Indented

/-! ## The indented form -/

theorem hexDigit_ne_newline {n : Nat} (h : n < 16) : hexDigit n ≠ '\n' := by
  have hall : ∀ n < 16, hexDigit n ≠ '\n' := by decide
  exact hall n h

theorem not_mem_escape (c : Char) : '\n' ∉ escape c := by
  unfold escape
  split
  · decide
  split
  · decide
  split
  · decide
  split
  · decide
  split
  · decide
  split
  · decide
  split
  · decide
  rename_i hnewline _ _
  split
  · rename_i hcode
    have hhigh := hexDigit_ne_newline (show c.toNat / 16 < 16 by omega)
    have hlow := hexDigit_ne_newline (show c.toNat % 16 < 16 by omega)
    simp [hhigh.symm, hlow.symm]
  · intro hmem
    exact hnewline (List.mem_singleton.mp hmem).symm

theorem indented_quote (s : String) : Indented (quote s) := by
  apply Indented.of_not_mem
  intro hmem
  rw [quote, List.cons_append, List.mem_cons, List.mem_append, List.mem_singleton, List.mem_flatMap] at hmem
  rcases hmem with h | ⟨c, -, h⟩ | h
  · exact absurd h (by decide)
  · exact not_mem_escape c h
  · exact absurd h (by decide)

theorem indented_decimal (mantissa : Int) (places : Nat) : Indented (decimal mantissa places) := by
  have hdigits : '\n' ∉ (toString mantissa.natAbs).toList := by
    rw [Nat.toString_eq_repr, Nat.toList_repr]
    exact Text.newline_not_mem_toDigits _
  have hpadded : ∀ n, '\n' ∉ List.replicate n '0' ++ (toString mantissa.natAbs).toList := by
    intro n hmem
    rcases List.mem_append.mp hmem with h | h
    · exact absurd (List.eq_of_mem_replicate h) (by decide)
    · exact hdigits h
  apply Indented.of_not_mem
  intro hmem
  unfold decimal at hmem
  rw [List.mem_append, List.mem_append] at hmem
  rcases hmem with (h | h) | h
  · split at h
    · exact absurd h (by decide)
    · cases h
  · exact hpadded _ (List.mem_of_mem_take h)
  · split at h
    · cases h
    · rcases List.mem_cons.mp h with h | h
      · exact absurd h (by decide)
      · exact hpadded _ (List.mem_of_mem_drop h)

theorem indented_remainder (depth : Nat) {closing : Char} (hclosing : BeginsLine closing) {items : List (List Char)}
    (h : ∀ item ∈ items, Indented item) : Indented (remainder depth closing items) := by
  induction items with
  | nil => exact .newline_append hclosing (.plain hclosing.ne_newline .nil) depth
  | cons item items ih =>
    have hrest := ih fun i hi => h i (List.mem_cons_of_mem _ hi)
    have hitem := h item List.mem_cons_self
    rw [remainder, List.cons_append]
    exact .plain (by decide) (.newline_succ_append (hitem.append hrest) depth)

theorem indented_enclose (depth : Nat) {opening closing : Char} (hopening : opening ≠ '\n') (hclosing : BeginsLine closing)
    {items : List (List Char)} (h : ∀ item ∈ items, Indented item) : Indented (enclose depth opening closing items) := by
  cases items with
  | nil => exact .plain hopening (.plain hclosing.ne_newline .nil)
  | cons item items =>
    have hrest := indented_remainder depth hclosing fun i hi => h i (List.mem_cons_of_mem _ hi)
    have hitem := h item List.mem_cons_self
    rw [enclose_cons]
    exact .plain hopening (.newline_succ_append (hitem.append hrest) depth)

mutual

/-- In the indented form a newline only stands before a blank or a closing bracket. -/
theorem indented_pretty (depth : Nat) : ∀ j : Json, Indented (pretty depth j)
  | .null => Indented.of_not_mem (show '\n' ∉ ['n', 'u', 'l', 'l'] by decide)
  | .bool true => Indented.of_not_mem (show '\n' ∉ ['t', 'r', 'u', 'e'] by decide)
  | .bool false => Indented.of_not_mem (show '\n' ∉ ['f', 'a', 'l', 's', 'e'] by decide)
  | .number mantissa places => indented_decimal mantissa places
  | .string s => indented_quote s
  | .array elements => indented_enclose depth (by decide) (.inr (.inr rfl)) (indented_elements (depth + 1) elements)
  | .object members => indented_enclose depth (by decide) (.inr (.inl rfl)) (indented_members (depth + 1) members)

theorem indented_elements (depth : Nat) : ∀ es : List Json, ∀ item ∈ prettyElements depth es, Indented item
  | [], _, h => by cases h
  | e :: es, item, h => by
    rcases List.mem_cons.mp h with rfl | h
    · exact indented_pretty depth e
    · exact indented_elements depth es item h

theorem indented_members (depth : Nat) : ∀ ms : List (String × Json), ∀ item ∈ prettyMembers depth ms, Indented item
  | [], _, h => by cases h
  | (key, value) :: ms, item, h => by
    rcases List.mem_cons.mp h with rfl | h
    · have hvalue := indented_pretty depth value
      exact (indented_quote key).append (.plain (by decide) (.plain (by decide) hvalue))
    · exact indented_members depth ms item h

end

/-! ## Its lines -/

/-- If the text does not begin with a newline, its first line begins as it does. -/
theorem eq_cons_of_first {c : Char} {cs first : List Char} {rest : List (List Char)} (hc : c ≠ '\n')
    (h : c :: cs = first ++ rest.flatMap ('\n' :: ·)) : ∃ more, first = c :: more := by
  cases first with
  | nil =>
    cases rest with
    | nil => cases h
    | cons line rest =>
      injection h with hhead _
      exact absurd hhead hc
  | cons d more =>
    injection h with hhead _
    exact ⟨more, by rw [hhead]⟩

/-- Each line after the first one begins with a blank or a closing bracket. -/
theorem Indented.exists_lines {cs : List Char} (h : Indented cs) :
    ∃ (first : List Char) (rest : List (List Char)), cs = first ++ rest.flatMap ('\n' :: ·) ∧ '\n' ∉ first ∧
      ∀ line ∈ rest, '\n' ∉ line ∧ ∃ c more, line = c :: more ∧ BeginsLine c := by
  induction h with
  | nil => exact ⟨[], [], rfl, List.not_mem_nil, fun _ hmem => by cases hmem⟩
  | @plain c cs hne _ ih =>
    obtain ⟨first, rest, hcs, hfirst, hrest⟩ := ih
    refine ⟨c :: first, rest, by rw [hcs, List.cons_append], ?_, hrest⟩
    intro hmem
    rcases List.mem_cons.mp hmem with h | h
    · exact hne h.symm
    · exact hfirst h
  | @line c cs hbegins _ ih =>
    obtain ⟨first, rest, hcs, hfirst, hrest⟩ := ih
    obtain ⟨more, hmore⟩ := eq_cons_of_first hbegins.ne_newline hcs
    refine ⟨[], first :: rest, by rw [hcs]; rfl, List.not_mem_nil, ?_⟩
    intro l hl
    rcases List.mem_cons.mp hl with rfl | hl
    · exact ⟨hfirst, c, more, hmore, hbegins⟩
    · exact hrest l hl

theorem getLast?_enclose (depth : Nat) (opening closing : Char) (items : List (List Char)) :
    (enclose depth opening closing items).getLast? = some closing := by
  cases items with
  | nil => rfl
  | cons item items =>
    unfold enclose
    simp only [← List.cons_append, List.getLast?_concat]

end SoliditySchema.Json
