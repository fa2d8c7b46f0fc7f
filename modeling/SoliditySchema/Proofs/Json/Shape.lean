/-
  SoliditySchema.Proofs.Json.Shape — what the readers of shapes take.

  A list is followed from element to element (`Elements`), an object from member to member (`Members`);
  each relation says what may stand before the next item and what is read of it. The readers follow them
  (`reads_list`, `reads_record`). They count down a number of rounds that is larger than the text is long,
  and every round takes a character, so it never ends the reading.
-/

import SoliditySchema.Json.Shape.OfText
import SoliditySchema.Proofs.Json.Input

namespace SoliditySchema.Json.Reader

open Input

/-! ## Texts and names -/

/-- A text in quotes, behind blanks. -/
theorem reads_text {b t : List Char} {s : String} (hb : Blanks b) (h : Spells t s.toList) (expected : String)
    (rest : List Char) : Reads (text expected) (b ++ '"' :: (t ++ '"' :: rest)) s rest := by
  intro i hi
  have hpeek := peek?_skipBlanks hb rfl hi
  obtain ⟨j, hj, hrest⟩ := Input.reads_text h rest (i.skipBlanks.skip 1) (by
    rw [rest_skip, rest_skipBlanks hb rfl hi]
    rfl)
  refine ⟨j, ?_, hrest⟩
  simp only [text, hpeek]
  exact hj

theorem reads_name {b t : List Char} {s : String} {names : List String} (hb : Blanks b) (h : Spells t s.toList)
    (hs : s ∈ names) (rest : List Char) : Reads (name names) (b ++ '"' :: (t ++ '"' :: rest)) (.choice s) rest := by
  intro i hi
  obtain ⟨j, hj, hrest⟩ := reads_text hb h "variant identifier" rest i hi
  exact ⟨j, by simp only [name, hj, if_pos hs], hrest⟩

/-- A name in quotes is a choice. -/
theorem reads_choice {b t : List Char} {s : String} {names : List String} (hb : Blanks b) (h : Spells t s.toList)
    (hs : s ∈ names) (rest : List Char) : Reads (choice names) (b ++ '"' :: (t ++ '"' :: rest)) (.choice s) rest := by
  intro i hi
  have hpeek := peek?_skipBlanks hb rfl hi
  obtain ⟨j, hj, hrest⟩ := reads_name Blanks.nil h hs rest i.skipBlanks (rest_skipBlanks hb rfl hi)
  refine ⟨j, ?_, hrest⟩
  simp only [choice, hpeek]
  exact hj

theorem passes_colon {b : List Char} (hb : Blanks b) (rest : List Char) : Passes colon (b ++ ':' :: rest) rest := by
  intro i hi
  refine ⟨i.skipBlanks.skip 1, ?_, ?_⟩
  · simp only [colon, peek?_skipBlanks hb rfl hi]
  · rw [rest_skip, rest_skipBlanks hb rfl hi]
    rfl

/-! ## Lists -/

/-- What stands before an item: blanks, and a comma among them unless it is the first. -/
inductive Lead : Bool → List Char → Prop
  | first {b : List Char} : Blanks b → Lead true b
  | next {b b' : List Char} : Blanks b → Blanks b' → Lead false (b ++ ',' :: b')

/-- What is left of a list, before an element or before its end, with the values of its elements and what
is left behind it. -/
inductive Elements (read : Reader Datum) : Bool → List Char → List Datum → List Char → Prop
  | close {first : Bool} {b rest : List Char} : Blanks b → Elements read first (b ++ ']' :: rest) [] rest
  | element {first : Bool} {lead : List Char} {c : Char} {t after rest : List Char} {d : Datum} {ds : List Datum} :
      Lead first lead → isBlank c = false → c ≠ ']' → Reads read (c :: t ++ after) d after →
      Elements read false after ds rest → Elements read first (lead ++ (c :: t ++ after)) (d :: ds) rest

theorem nextElement?_close {first : Bool} {b rest : List Char} (hb : Blanks b) {i : Input}
    (hi : i.rest = b ++ ']' :: rest) : nextElement? first i = .ok none := by
  simp only [nextElement?, peek?_skipBlanks hb rfl hi]

theorem passes_listEnd {b : List Char} (hb : Blanks b) (rest : List Char) : Passes listEnd (b ++ ']' :: rest) rest := by
  intro i hi
  refine ⟨i.skipBlanks.skip 1, ?_, ?_⟩
  · simp only [listEnd, peek?_skipBlanks hb rfl hi]
  · rw [rest_skip, rest_skipBlanks hb rfl hi]
    rfl

/-- Before an element the reader comes to it. -/
theorem nextElement?_element {first : Bool} {lead rest : List Char} {c : Char} (hl : Lead first lead)
    (hc : isBlank c = false) (hclose : c ≠ ']') {i : Input} (hi : i.rest = lead ++ c :: rest) :
    ∃ j, nextElement? first i = .ok (some j) ∧ j.rest = c :: rest := by
  cases hl with
  | first hb =>
    refine ⟨i.skipBlanks, ?_, rest_skipBlanks hb hc hi⟩
    have hpeek := peek?_skipBlanks hb hc hi
    simp only [nextElement?, hpeek, if_true]
  | @next b b' hb hb' =>
    rw [List.append_assoc, List.cons_append] at hi
    have hpeek := peek?_skipBlanks hb rfl hi
    have hskip : (i.skipBlanks.skip 1).rest = b' ++ c :: rest := by
      rw [rest_skip, rest_skipBlanks hb rfl hi]
      rfl
    have hpeek' := peek?_skipBlanks hb' hc hskip
    refine ⟨(i.skipBlanks.skip 1).skipBlanks, ?_, rest_skipBlanks hb' hc hskip⟩
    simp only [nextElement?, hpeek, Bool.false_eq_true, if_false, hpeek']
    rfl

theorem Elements.length_lt {read : Reader Datum} {first : Bool} {text rest : List Char} {ds : List Datum}
    (h : Elements read first text ds rest) : ds.length < text.length := by
  induction h with
  | close _ => simp only [List.length_nil, List.length_append, List.length_cons]; omega
  | element _ _ _ _ _ ih =>
    simp only [List.length_append, List.length_cons]
    omega

theorem reads_elements {read : Reader Datum} {first : Bool} {text rest : List Char} {ds : List Datum}
    (h : Elements read first text ds rest) (fuel : Nat) (hf : ds.length < fuel) :
    Reads (elements read fuel first) text ds rest := by
  induction h generalizing fuel with
  | close hb =>
    intro i hi
    obtain ⟨n, rfl⟩ : ∃ n, fuel = n + 1 := ⟨fuel - 1, by omega⟩
    obtain ⟨j, hj, hrest⟩ := passes_listEnd hb _ i hi
    refine ⟨j, ?_, hrest⟩
    simp only [elements, nextElement?_close hb hi, hj]
    rfl
  | element hl hc hclose hread _ ih =>
    intro i hi
    obtain ⟨n, rfl⟩ : ∃ n, fuel = n + 1 := ⟨fuel - 1, by omega⟩
    obtain ⟨j, hj, hjrest⟩ := nextElement?_element hl hc hclose hi
    obtain ⟨k, hk, hkrest⟩ := hread j hjrest
    obtain ⟨l, hl, hlrest⟩ := ih n (by simp only [List.length_cons] at hf; omega) k hkrest
    refine ⟨l, ?_, hlrest⟩
    simp only [elements, hj, hk, hl, bind, Except.bind]
    rfl

/-- A list of elements between brackets. -/
theorem reads_list {read : Reader Datum} {b text rest : List Char} {ds : List Datum} (hb : Blanks b)
    (h : Elements read true text ds rest) : Reads (list read) (b ++ '[' :: text) (.list ds) rest := by
  intro i hi
  have hskip := rest_skipBlanks hb rfl hi
  have hlen := h.length_lt
  obtain ⟨j, hj, hrest⟩ := reads_elements h (i.skipBlanks.rest.length + 1) (by
    rw [hskip, List.length_cons]
    omega) (i.skipBlanks.skip 1) (by
    rw [rest_skip, hskip]
    rfl)
  refine ⟨j, ?_, hrest⟩
  simp only [list, peek?_skipBlanks hb rfl hi, hj]
  rfl

/-! ## Records -/

/-- What is left of an object, before a member or before its end, with the values of the fields before and
behind it, and what is left from its closing brace on. -/
inductive Members (fields : List (FieldBy (Reader Datum))) : Bool → List Char → Slots → Slots → List Char → Prop
  | close {first : Bool} {b rest : List Char} {slots : Slots} :
      Blanks b → Members fields first (b ++ '}' :: rest) slots slots rest
  | known {first : Bool} {lead t b value after rest : List Char} {key : String} {k : Nat}
      {f : FieldBy (Reader Datum)} {d : Datum} {slots slots' : Slots} :
      Lead first lead → Spells t key.toList → Blanks b → (fields.findIdx? fun f => f.key == key) = some k →
      fields[k]? = some f → slots.getD k none = none → Reads f.take (value ++ after) d after →
      Members fields false after (slots.set k (some d)) slots' rest →
      Members fields first (lead ++ '"' :: (t ++ '"' :: (b ++ ':' :: (value ++ after)))) slots slots' rest
  | unknown {first : Bool} {lead t b value after rest : List Char} {key : String} {slots slots' : Slots} :
      Lead first lead → Spells t key.toList → Blanks b → (fields.findIdx? fun f => f.key == key) = none →
      Passes skipValue (value ++ after) after → Members fields false after slots slots' rest →
      Members fields first (lead ++ '"' :: (t ++ '"' :: (b ++ ':' :: (value ++ after)))) slots slots' rest

theorem nextKey?_close {first : Bool} {b rest : List Char} (hb : Blanks b) {i : Input}
    (hi : i.rest = b ++ '}' :: rest) : nextKey? first i = .ok none := by
  simp only [nextKey?, peek?_skipBlanks hb rfl hi]

/-- Before a member the reader comes to its key. -/
theorem nextKey?_member {first : Bool} {lead rest : List Char} (hl : Lead first lead) {i : Input}
    (hi : i.rest = lead ++ '"' :: rest) : ∃ j, nextKey? first i = .ok (some j) ∧ j.rest = rest := by
  cases hl with
  | first hb =>
    refine ⟨i.skipBlanks.skip 1, ?_, ?_⟩
    · simp only [nextKey?, peek?_skipBlanks hb rfl hi, if_true]
      rfl
    · rw [rest_skip, rest_skipBlanks hb rfl hi]
      rfl
  | @next b b' hb hb' =>
    rw [List.append_assoc, List.cons_append] at hi
    have hskip : (i.skipBlanks.skip 1).rest = b' ++ '"' :: rest := by
      rw [rest_skip, rest_skipBlanks hb rfl hi]
      rfl
    refine ⟨(i.skipBlanks.skip 1).skipBlanks.skip 1, ?_, ?_⟩
    · simp only [nextKey?, peek?_skipBlanks hb rfl hi, peek?_skipBlanks hb' rfl hskip, Bool.false_eq_true,
        if_false]
      rfl
    · rw [rest_skip, rest_skipBlanks hb' rfl hskip]
      rfl

/-- The key of the next member is read, up to its value. -/
theorem key_member {first : Bool} {lead t b value : List Char} {key : String} (hl : Lead first lead)
    (ht : Spells t key.toList) (hb : Blanks b) {i : Input}
    (hi : i.rest = lead ++ '"' :: (t ++ '"' :: (b ++ ':' :: value))) :
    ∃ j k l, nextKey? first i = .ok (some j) ∧ Input.text j = .ok (key, k) ∧ colon k = .ok l ∧ l.rest = value := by
  obtain ⟨j, hj, hjrest⟩ := nextKey?_member hl hi
  obtain ⟨k, hk, hkrest⟩ := Input.reads_text ht _ j hjrest
  obtain ⟨l, hl, hlrest⟩ := passes_colon hb _ k hkrest
  exact ⟨j, k, l, hj, hk, hl, hlrest⟩

section Round

variable {fields : List (FieldBy (Reader Datum))} {reader : FieldBy (Reader Datum)} {fuel k : Nat} {first : Bool}
  {slots : Slots} {i i₁ i₂ i₃ i₄ : Input} {key : String}

/-- The value of a key that no field has is skipped. -/
theorem members_unknown (hkey : nextKey? first i = .ok (some i₁)) (htext : Input.text i₁ = .ok (key, i₂))
    (hnone : (fields.findIdx? fun f => f.key == key) = none) (hcolon : colon i₂ = .ok i₃) (hskip : i₃.skipValue = .ok i₄) :
    members fields (fuel + 1) first slots i = members fields fuel false slots i₄ := by
  simp only [members, hkey, htext, hnone, hcolon, hskip, bind, Except.bind]

/-- The value of a field is read into its slot. -/
theorem members_known (hkey : nextKey? first i = .ok (some i₁)) (htext : Input.text i₁ = .ok (key, i₂))
    (hsome : (fields.findIdx? fun f => f.key == key) = some k) (hfield : fields[k]? = some reader)
    (hfree : slots.getD k none = none) (hcolon : colon i₂ = .ok i₃) :
    members fields (fuel + 1) first slots i =
      reader.take i₃ >>= fun p => members fields fuel false (slots.set k (some p.1)) p.2 := by
  simp only [members, hkey, htext, hsome, hfield, hcolon, hfree, bind, Except.bind]
  rfl

/-- A field that has its value already is a fault. -/
theorem members_taken {d : Datum} (hkey : nextKey? first i = .ok (some i₁)) (htext : Input.text i₁ = .ok (key, i₂))
    (hsome : (fields.findIdx? fun f => f.key == key) = some k) (htaken : slots.getD k none = some d) :
    members fields (fuel + 1) first slots i = .error (faultAtEnd i₂ (.duplicateField key)) := by
  simp only [members, hkey, htext, hsome, htaken, bind, Except.bind]
  rfl

end Round

theorem reads_members {fields : List (FieldBy (Reader Datum))} {first : Bool} {text rest : List Char}
    {slots slots' : Slots} (h : Members fields first text slots slots' rest) (fuel : Nat) (hf : text.length ≤ fuel) :
    Reads (members fields fuel first slots) text slots' ('}' :: rest) := by
  induction h generalizing fuel with
  | close hb =>
    intro i hi
    simp only [List.length_append, List.length_cons] at hf
    obtain ⟨n, rfl⟩ : ∃ n, fuel = n + 1 := ⟨fuel - 1, by omega⟩
    refine ⟨i.skipBlanks, ?_, rest_skipBlanks hb rfl hi⟩
    simp only [members, nextKey?_close hb hi]
    rfl
  | known hl ht hb hk hfield hfree hread _ ih =>
    intro i hi
    simp only [List.length_append, List.length_cons] at hf
    obtain ⟨n, rfl⟩ : ∃ n, fuel = n + 1 := ⟨fuel - 1, by omega⟩
    obtain ⟨j, k, l, hkey, htext, hcolon, hl⟩ := key_member hl ht hb hi
    obtain ⟨m, hvalue, hm⟩ := hread l hl
    obtain ⟨o, hmore, ho⟩ := ih n (by omega) m hm
    refine ⟨o, ?_, ho⟩
    rw [members_known hkey htext hk hfield hfree hcolon, hvalue]
    exact hmore
  | unknown hl ht hb hk hskip _ ih =>
    intro i hi
    simp only [List.length_append, List.length_cons] at hf
    obtain ⟨n, rfl⟩ : ∃ n, fuel = n + 1 := ⟨fuel - 1, by omega⟩
    obtain ⟨j, k, l, hkey, htext, hcolon, hl⟩ := key_member hl ht hb hi
    obtain ⟨m, hvalue, hm⟩ := hskip l hl
    obtain ⟨o, hmore, ho⟩ := ih n (by omega) m hm
    refine ⟨o, ?_, ho⟩
    rw [members_unknown hkey htext hk hcolon hvalue]
    exact hmore

/-- An object of members between braces, if every field has a value in the end. -/
theorem reads_record {fields : List (FieldBy (Reader Datum))} {b text rest : List Char} {slots : Slots}
    {ds : List Datum} (hb : Blanks b) (h : Members fields true text (fields.map fun _ => none) slots rest)
    (hc : complete fields slots = .ok ds) (name : String) :
    Reads (record name fields) (b ++ '{' :: text) (.record ds) rest := by
  intro i hi
  have hskip := rest_skipBlanks hb rfl hi
  obtain ⟨j, hj, hrest⟩ := reads_members h (i.skipBlanks.rest.length + 1) (by
    rw [hskip, List.length_cons]
    omega) (i.skipBlanks.skip 1) (by
    rw [rest_skip, hskip]
    rfl)
  refine ⟨j.skip 1, ?_, by rw [rest_skip, hrest]; rfl⟩
  simp only [record, peek?_skipBlanks hb rfl hi, hj, hc, bind, Except.bind]
  rfl

end SoliditySchema.Json.Reader
