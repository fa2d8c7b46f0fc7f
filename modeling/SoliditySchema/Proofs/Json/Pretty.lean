/-
  SoliditySchema.Proofs.Json.Pretty — the indented form can be read.

  What `escape` writes for a character spells it, so a text in quotes is read as itself. The items of a
  container stand behind blanks and commas as a reader expects them.
-/

import Mathlib.Data.List.Nodup
import SoliditySchema.Json
import SoliditySchema.Proofs.Json.Shape

namespace SoliditySchema.Json

open Input Reader

/-! ## Texts -/

theorem hexValue?_hexDigit {n : Nat} (h : n < 16) : hexValue? (hexDigit n) = some n := by
  have hall : ∀ n < 16, hexValue? (hexDigit n) = some n := by decide
  exact hall n h

theorem hexValue4?_control {n : Nat} (h : n < 32) :
    hexValue4? '0' '0' (hexDigit (n / 16)) (hexDigit (n % 16)) = some n := by
  have hzero : hexValue? '0' = some 0 := rfl
  simp only [hexValue4?, hzero, hexValue?_hexDigit (show n / 16 < 16 by omega),
    hexValue?_hexDigit (show n % 16 < 16 by omega), bind, Option.bind]
  show some _ = some n
  congr 1
  omega

theorem spells_escape (c : Char) {t cs : List Char} (h : Spells t cs) : Spells (escape c ++ t) (c :: cs) := by
  unfold escape
  split
  · rename_i hc; rw [hc]; exact .simple rfl h
  split
  · rename_i hc; rw [hc]; exact .simple rfl h
  split
  · rename_i hc; rw [hc]; exact .simple rfl h
  split
  · rename_i hc; rw [hc]; exact .simple rfl h
  split
  · rename_i hc; rw [hc]; exact .simple rfl h
  split
  · rename_i hc; rw [hc]; exact .simple rfl h
  split
  · rename_i hc; rw [hc]; exact .simple rfl h
  rename_i hquote hslash _ _ _ _ _
  split
  · rename_i hcode
    have hlow : isLowHalf c.toNat = false := by
      simp only [isLowHalf, Bool.and_eq_false_iff, decide_eq_false_iff_not]
      omega
    have hhigh : isHighHalf c.toNat = false := by
      simp only [isHighHalf, Bool.and_eq_false_iff, decide_eq_false_iff_not]
      omega
    have := Spells.code (hexValue4?_control hcode) hlow hhigh h
    rwa [Char.ofNat_toNat] at this
  · exact .plain hquote hslash (by omega) h

theorem spells_escaped (cs : List Char) : Spells (cs.flatMap escape) cs := by
  induction cs with
  | nil => exact .nil
  | cons c cs ih =>
    rw [List.flatMap_cons]
    exact spells_escape c ih

theorem quote_append (s : String) (rest : List Char) :
    quote s ++ rest = '"' :: (s.toList.flatMap escape ++ '"' :: rest) := by
  simp [quote]

/-! ## Containers -/

theorem blanks_newline (depth : Nat) : Blanks (newline depth) := by
  intro c hc
  cases hc with
  | head => rfl
  | tail _ h => exact Blanks.of_spaces _ c h

theorem lead_newline (depth : Nat) : Lead true (newline depth) := .first (blanks_newline depth)

theorem lead_comma (depth : Nat) : Lead false (',' :: newline depth) := .next (b := []) .nil (blanks_newline depth)

/-- What stands behind an item of a container: the further items, each on its line, and the closing
bracket. -/
def remainder (depth : Nat) (closing : Char) : List (List Char) → List Char
  | [] => newline depth ++ [closing]
  | item :: items => ',' :: newline (depth + 1) ++ (item ++ remainder depth closing items)

theorem enclose_cons (depth : Nat) (opening closing : Char) (item : List Char) (items : List (List Char)) :
    enclose depth opening closing (item :: items) =
      opening :: (newline (depth + 1) ++ (item ++ remainder depth closing items)) := by
  have hlines : ∀ items : List (List Char), ∀ item,
      (((item :: items).map (newline (depth + 1) ++ ·)).intersperse [',']).flatten ++ newline depth ++ [closing] =
        newline (depth + 1) ++ (item ++ remainder depth closing items) := by
    intro items
    induction items with
    | nil => intro item; simp [remainder]
    | cons next items ih =>
      intro item
      rw [remainder, List.cons_append, ← ih next]
      simp
  exact congrArg (opening :: ·) (hlines items item)

theorem prettyElements_eq_map (depth : Nat) (es : List Json) : prettyElements depth es = es.map (pretty depth) := by
  induction es with
  | nil => rfl
  | cons e es ih => rw [prettyElements, ih, List.map_cons]

/-! ## Lists -/

/-- A text that is read as a value wherever it stands in a list. -/
structure IsElement (read : Reader Datum) (text : List Char) (value : Datum) : Prop where
  begins : ∃ c t, text = c :: t ∧ isBlank c = false ∧ c ≠ ']'
  reads : ∀ rest, Reads read (text ++ rest) value rest

section Lists

variable {α : Type} {read : Reader Datum} (depth : Nat) {form : α → List Char} {value : α → Datum}

theorem elements_remainder {xs : List α} (h : ∀ x, IsElement read (form x) (value x)) (rest : List Char) :
    Elements read false (remainder depth ']' (xs.map form) ++ rest) (xs.map value) rest := by
  induction xs with
  | nil =>
    rw [List.map_nil, remainder, List.append_assoc]
    exact .close (blanks_newline depth)
  | cons x xs ih =>
    obtain ⟨c, t, hx, hc, hclose⟩ := (h x).begins
    have hread := (h x).reads (remainder depth ']' (xs.map form) ++ rest)
    rw [List.map_cons, remainder, List.append_assoc, List.append_assoc]
    rw [hx] at hread ⊢
    exact .element (lead_comma _) hc hclose hread ih

/-- A list whose elements stand on lines of their own is read element by element. -/
theorem reads_elementLines (h : ∀ x, IsElement read (form x) (value x)) (xs : List α) {b : List Char} (hb : Blanks b)
    (rest : List Char) :
    Reads (list read) (b ++ (enclose depth '[' ']' (xs.map form) ++ rest)) (.list (xs.map value)) rest := by
  cases xs with
  | nil => exact reads_list hb (.close .nil)
  | cons x xs =>
    obtain ⟨c, t, hx, hc, hclose⟩ := (h x).begins
    have hread := (h x).reads (remainder depth ']' (xs.map form) ++ rest)
    have hrest : Elements read true (newline (depth + 1) ++ (form x ++ (remainder depth ']' (xs.map form) ++ rest)))
        (value x :: xs.map value) rest := by
      rw [hx] at hread ⊢
      exact .element (lead_newline _) hc hclose hread (elements_remainder depth h rest)
    rw [List.map_cons, enclose_cons, List.cons_append, List.append_assoc, List.append_assoc]
    exact reads_list hb hrest

end Lists

/-! ## Records -/

/-- A member of an object for a field of a record: the text of its value, as it is read. -/
structure Entry where
  field : FieldBy (Reader Datum)
  text : List Char
  value : Datum
  reads : ∀ rest, Reads field.take (' ' :: (text ++ rest)) value rest

namespace Entry

/-- The line of a member. -/
def line (e : Entry) : List Char := quote e.field.key ++ ':' :: ' ' :: e.text

theorem line_append (e : Entry) (rest : List Char) :
    e.line ++ rest = '"' :: (e.field.key.toList.flatMap escape ++ '"' :: ([] ++ ':' :: ((' ' :: e.text) ++ rest))) := by
  simp [line, quote]

theorem findIdx?_key (done todo : List Entry) (e : Entry)
    (hkeys : ((done ++ e :: todo).map fun e => e.field.key).Nodup) :
    (((done ++ e :: todo).map field).findIdx? fun f => f.key == e.field.key) = some done.length := by
  have hnot : ∀ a ∈ done, a.field.key ≠ e.field.key := by
    intro a ha
    rw [List.map_append, List.map_cons] at hkeys
    exact (List.nodup_append.mp hkeys).2.2 _ (List.mem_map_of_mem ha) _ List.mem_cons_self
  rw [List.findIdx?_map, List.findIdx?_append]
  have hnone : (done.findIdx? ((fun f => f.key == e.field.key) ∘ field)) = none := by
    rw [List.findIdx?_eq_none_iff]
    intro a ha
    exact beq_false_of_ne (hnot a ha)
  rw [hnone, List.findIdx?_cons]
  simp

/-- The slots of members that have been read. -/
def filled (es : List Entry) : Slots := es.map fun e => some e.value

/-- The slots of members that are still to come. -/
def free (es : List Entry) : Slots := es.map fun _ => none

theorem set_slot (done todo : List Entry) (e : Entry) :
    (filled done ++ free (e :: todo)).set done.length (some e.value) = filled (done ++ [e]) ++ free todo := by
  have hlen : (filled done).length = done.length := List.length_map _
  rw [← hlen, List.set_append_right _ _ (Nat.le_refl _), Nat.sub_self]
  simp [filled, free]

/-- With the members in the order of the fields, each round fills the next slot. -/
theorem members (depth : Nat) (done todo : List Entry) (hkeys : ((done ++ todo).map fun e => e.field.key).Nodup)
    (rest : List Char) :
    Members ((done ++ todo).map field) false (remainder depth '}' (todo.map line) ++ rest)
      (filled done ++ free todo) (filled (done ++ todo)) rest := by
  induction todo generalizing done with
  | nil =>
    rw [List.map_nil, remainder, List.append_assoc, List.append_nil, show free [] = [] from rfl, List.append_nil]
    exact .close (blanks_newline depth)
  | cons e todo ih =>
    have hsnoc : done ++ [e] ++ todo = done ++ e :: todo := by simp
    have hnext := ih (done ++ [e]) (by rwa [hsnoc])
    rw [hsnoc, ← set_slot] at hnext
    rw [List.map_cons, remainder, List.append_assoc, List.append_assoc, line_append]
    refine .known (lead_comma _) (spells_escaped _) .nil (findIdx?_key done todo e hkeys) ?_ ?_ (e.reads _) hnext
    · simp
    · simp [filled, free]

theorem complete_filled (es : List Entry) : complete (es.map field) (filled es) = .ok (es.map value) := by
  induction es with
  | nil => rfl
  | cons e es ih =>
    unfold complete filled at ih ⊢
    rw [List.map_cons, List.map_cons, List.map_cons, List.zip_cons_cons, List.mapM_cons, ih]
    rfl

/-- An object whose members stand in the order of the fields, on lines of their own, is read as a record. -/
theorem reads_lines (es : List Entry) (hkeys : (es.map fun e => e.field.key).Nodup) (name : String) {depth : Nat}
    {b : List Char} (hb : Blanks b) (rest : List Char) :
    Reads (record name (es.map field)) (b ++ (enclose depth '{' '}' (es.map line) ++ rest))
      (.record (es.map value)) rest := by
  have hfree : (es.map field).map (fun _ => (none : Option Datum)) = free es := by
    rw [List.map_map]
    rfl
  cases es with
  | nil => exact reads_record hb (.close .nil) (complete_filled []) name
  | cons e es =>
    have hlines : (e :: es).map line = e.line :: es.map line := rfl
    rw [hlines, enclose_cons, List.cons_append, List.append_assoc, List.append_assoc, line_append]
    refine reads_record hb ?_ (complete_filled (e :: es)) name
    rw [hfree]
    have hmore := members depth [e] es hkeys rest
    have hset : (free (e :: es)).set 0 (some e.value) = filled [e] ++ free es := set_slot [] es e
    rw [← hset] at hmore
    exact .known (lead_newline _) (spells_escaped _) .nil (findIdx?_key [] es e hkeys) rfl rfl (e.reads _) hmore

end Entry

end SoliditySchema.Json
