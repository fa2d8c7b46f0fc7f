/-
  SoliditySchema.Proofs.Json.Datum — what a shape finds in a value.

  `Shape.datum?` says what a shape finds in a value, if it finds anything there. Of an object it asks only for the
  values of each key: the key of a field comes once, or not at all if the field has a default; the other keys are of
  no account, nor is the order.

  A reader decides what is found in a value if it finds this in every text of the value, and stops behind it, and
  ends in a fault if there is nothing to be found (`Decides`). Here this is shown of the readers of flags, texts,
  choices and lists.
-/

import SoliditySchema.Proofs.Json.Skip

namespace SoliditySchema.Json

open Input

/-! ## What a shape finds in a value -/

/-- The values of a key, in the order of the members. -/
def valuesOf (key : String) (ms : List (String × Json)) : List Json := (ms.filter fun m => m.1 == key).map Prod.snd

/-- A way to find something in a value. -/
abbrev Finder := Json → Option Datum

namespace Find

/-- One of some names, as a text or as the key of an object. -/
def choice (names : List String) : Finder
  | .string s => if s ∈ names then some (.choice s) else none
  | .object [(s, .null)] => if s ∈ names then some (.choice s) else none
  | _ => none

/-- The fields of a record in the elements of a list. -/
def positional : List (FieldBy Finder) → List Json → Option (List Datum)
  | [], [] => some []
  | [], _ :: _ => none
  | f :: fs, j :: js => do return (← f.take j) :: (← positional fs js)
  | f :: fs, [] => do return (← f.default) :: (← positional fs [])

/-- A field of a record in the values of its key. -/
def field (f : FieldBy Finder) : List Json → Option Datum
  | [] => f.default
  | [j] => f.take j
  | _ => none

/-- A record. -/
def record (fields : List (FieldBy Finder)) : Finder
  | .array js => (positional fields js).map .record
  | .object ms => (fields.mapM fun f => field f (valuesOf f.key ms)).map .record
  | _ => none

end Find

namespace Shape

mutual

/-- What a shape finds in a value. -/
def datum? : Shape → Finder
  | .text, .string s => some (.text s)
  | .flag, .bool b => some (.flag b)
  | .list element, .array js => (js.mapM element.datum?).map .list
  | .choice names, j => Find.choice names j
  | .record _ fields, j => Find.record (finders fields) j
  | _, _ => none

/-- What fields find. -/
def finders : List Field → List (FieldBy Finder)
  | [] => []
  | .mk key shape default :: fs => ⟨key, shape.datum?, default⟩ :: finders fs

end

mutual

/-- No two fields of a record have the same key. -/
def Distinct : Shape → Prop
  | .list element => element.Distinct
  | .record _ fields => ((finders fields).map FieldBy.key).Nodup ∧ AllDistinct fields
  | _ => True

/-- The shapes of fields are distinct. -/
def AllDistinct : List Field → Prop
  | [] => True
  | .mk _ shape _ :: fs => shape.Distinct ∧ AllDistinct fs

end

end Shape

/-! ## What is not found -/

theorem Find.field_of_mem {f : FieldBy Finder} {j : Json} {js : List Json} (hj : j ∈ js) (hnone : f.take j = none) :
    field f js = none := by
  match js with
  | [k] =>
    obtain rfl := List.mem_singleton.mp hj
    exact hnone
  | _ :: _ :: _ => rfl

theorem Find.field_of_two {f : FieldBy Finder} {js : List Json} (h : 2 ≤ js.length) : field f js = none := by
  match js with
  | _ :: _ :: _ => rfl

/-- Where one of some things is not found, not all of them are. -/
theorem mapM_eq_none {α β : Type} {f : α → Option β} {a : α} {as : List α} (ha : a ∈ as) (hnone : f a = none) :
    as.mapM f = none := by
  induction as with
  | nil => cases ha
  | cons b as ih =>
    rw [List.mapM_cons]
    cases ha with
    | head => rw [hnone]; rfl
    | tail _ ha =>
      rw [ih ha]
      cases f b <;> rfl

theorem mapM_eq_some {α β : Type} {f : α → Option β} {g : α → β} {as : List α} (h : ∀ a ∈ as, f a = some (g a)) :
    as.mapM f = some (as.map g) := by
  induction as with
  | nil => rfl
  | cons a as ih =>
    rw [List.mapM_cons, h a List.mem_cons_self, ih fun b hb => h b (List.mem_cons_of_mem a hb)]
    rfl

/-! ## Readings -/

/-- What comes of reading: a value with the rest of the text, or a fault. -/
inductive Gives {α : Type} : Except Fault (α × Input) → Option α → List Char → Prop
  | value {a : α} {i : Input} {rest : List Char} : i.rest = rest → Gives (.ok (a, i)) (some a) rest
  | fault {f : Fault} {rest : List Char} : Gives (.error f) none rest

theorem Reads.gives {α : Type} {read : Reader α} {text rest : List Char} {a : α} (h : Reads read text a rest) {i : Input}
    (hi : i.rest = text) : Gives (read i) (some a) rest := by
  obtain ⟨j, hj, hrest⟩ := h i hi
  rw [hj]
  exact .value hrest

theorem Gives.bind {α β : Type} {x : Except Fault (α × Input)} {a? : Option α} {r r' : List Char}
    {f : α × Input → Except Fault (β × Input)} {g : α → Option β} (h : Gives x a? r)
    (hf : ∀ a i, i.rest = r → Gives (f (a, i)) (g a) r') : Gives (x >>= f) (a? >>= g) r' := by
  cases h with
  | value hi => exact hf _ _ hi
  | fault => exact .fault

theorem Gives.map {α β : Type} {x : Except Fault (α × Input)} {a? : Option α} {r : List Char} (h : Gives x a? r)
    (f : α → β) :
    Gives (x.map fun p => (f p.1, p.2)) (a?.map f) r := by
  cases h with
  | value hi => exact .value hi
  | fault => exact .fault

/-- A reader decides what is found in a value, whichever way it is written. -/
def Decides (read : Reader Datum) (find : Finder) : Prop :=
  ∀ {j : Json} {t b r : List Char} {i : Input}, Written j t → Blanks b → Behind r → i.rest = b ++ (t ++ r) →
    Gives (read i) (find j) r

namespace Reader

/-! ## Flags, texts and choices -/

/-- Behind blanks, the reader comes to the first character of the value. -/
theorem peek?_of_written {j : Json} {t b r : List Char} {i : Input} (h : Written j t) (hb : Blanks b)
    (hi : i.rest = b ++ (t ++ r)) : ∃ c, i.skipBlanks.peek? = some c ∧ Opening j c ∧ i.skipBlanks.rest = t ++ r := by
  obtain ⟨c, cs, rfl, hc⟩ := h.opening
  exact ⟨c, peek?_skipBlanks hb hc.isBlank_eq_false hi, hc, rest_skipBlanks hb hc.isBlank_eq_false hi⟩

theorem text_refuses (expected : String) {i : Input} {c : Char} {r : List Char} (h : i.skipBlanks.peek? = some c)
    (hc : c ≠ '"') : Gives (text expected i) none r := by
  unfold text
  simp only [h]
  exact .fault

/-- A text is read from a text only. -/
def textOf? : Json → Option String
  | .string s => some s
  | _ => none

theorem gives_text (expected : String) {j : Json} {t b r : List Char} {i : Input} (h : Written j t) (hb : Blanks b)
    (hi : i.rest = b ++ (t ++ r)) : Gives (text expected i) (textOf? j) r := by
  obtain ⟨c, hpeek, hc, -⟩ := peek?_of_written h hb hi
  cases h with
  | string ht => exact (reads_text hb ht expected r).gives (by rw [hi]; simp)
  | number _ _ _ _ => exact text_refuses expected hpeek (hc.ne_of_number (by decide) (by decide))
  | _ => cases hc; exact text_refuses expected hpeek (by decide)

theorem flag_refuses {i : Input} {c : Char} {r : List Char} (h : i.skipBlanks.peek? = some c) (ht : c ≠ 't')
    (hf : c ≠ 'f') : Gives (flag i) none r := by
  unfold flag
  simp only [h]
  exact .fault

theorem decides_flag : Decides flag Shape.flag.datum? := by
  intro j t b r i h hb _ hi
  obtain ⟨c, hpeek, hc, hrest⟩ := peek?_of_written h hb hi
  cases h with
  | yes =>
    cases hc
    obtain ⟨k, hk, hkrest⟩ := passes_word ['r', 'u', 'e'] r (i.skipBlanks.skip 1) (by rw [rest_skip, hrest]; rfl)
    simp only [flag, hpeek, hk]
    exact .value hkrest
  | no =>
    cases hc
    obtain ⟨k, hk, hkrest⟩ := passes_word ['a', 'l', 's', 'e'] r (i.skipBlanks.skip 1) (by rw [rest_skip, hrest]; rfl)
    simp only [flag, hpeek, hk]
    exact .value hkrest
  | number _ _ _ _ =>
    exact flag_refuses hpeek (hc.ne_of_number (by decide) (by decide)) (hc.ne_of_number (by decide) (by decide))
  | _ => cases hc; exact flag_refuses hpeek (by decide) (by decide)

theorem gives_name (names : List String) {j : Json} {t b r : List Char} {i : Input} (h : Written j t) (hb : Blanks b)
    (hi : i.rest = b ++ (t ++ r)) :
    Gives (name names i) (textOf? j >>= fun s => if s ∈ names then some (.choice s) else none) r := by
  have htext := gives_text "variant identifier" h hb hi
  unfold name
  generalize text "variant identifier" i = x at htext ⊢
  generalize textOf? j = s? at htext ⊢
  cases htext with
  | fault => exact .fault
  | @value s k _ hk =>
    by_cases hs : s ∈ names
    · simp only [bind, Option.bind, if_pos hs]
      exact .value hk
    · simp only [bind, Option.bind, if_neg hs]
      exact .fault

theorem passes_null {b : List Char} (hb : Blanks b) (r : List Char) : Passes null (b ++ (['n', 'u', 'l', 'l'] ++ r)) r := by
  intro i hi
  obtain ⟨k, hk, hrest⟩ := passes_word ['u', 'l', 'l'] r (i.skipBlanks.skip 1) (by
    rw [rest_skip, rest_skipBlanks hb (show isBlank 'n' = false from rfl) hi]
    rfl)
  refine ⟨k, ?_, hrest⟩
  have hpeek := peek?_skipBlanks hb (show isBlank 'n' = false from rfl) hi
  simp only [null, hpeek, hk]

theorem null_refuses {i : Input} {c : Char} (h : i.skipBlanks.peek? = some c) (hc : c ≠ 'n') : ∃ f, null i = .error f := by
  unfold null
  simp only [h]
  exact ⟨_, rfl⟩

/-- The end of an object, where a choice is written as its only key. -/
def braceEnd (chosen : Datum) (i : Input) : Except Fault (Datum × Input) :=
  let i := i.skipBlanks
  match i.peek? with
  | none => .error (i.fault .endInObject)
  | some '}' => .ok (chosen, i.skip 1)
  | some _ => .error (i.fault .expectedValue)

theorem gives_braceEnd {ms : List (String × Json)} {t r : List Char} {i : Input} (h : WrittenMembers false ms t)
    (hi : i.rest = t ++ r) (chosen : Datum) : Gives (braceEnd chosen i) (if ms = [] then some chosen else none) r := by
  cases h with
  | close hb =>
    rw [List.append_assoc] at hi
    have hpeek := peek?_skipBlanks hb rfl hi
    simp only [braceEnd, hpeek]
    refine .value ?_
    rw [rest_skip, rest_skipBlanks hb rfl hi]
    rfl
  | member hl _ _ _ _ _ =>
    cases hl with
    | next hb _ =>
      rw [List.append_assoc, List.append_assoc] at hi
      have hpeek := peek?_skipBlanks hb rfl hi
      simp only [braceEnd, hpeek]
      exact .fault

/-- What is found behind the first key of an object. -/
def ifAlone (chosen : Datum) : Json → List (String × Json) → Option Datum
  | .null, [] => some chosen
  | _, _ => none

/-- Behind the key of an object that is a choice, `null` and the end of the object are left. -/
theorem gives_nullAndEnd {j : Json} {ms : List (String × Json)} {t b rest r : List Char} {i : Input} (h : Written j t)
    (hb : Blanks b) (hrest : WrittenMembers false ms rest) (hi : i.rest = b ++ (t ++ (rest ++ r))) (chosen : Datum) :
    Gives (null i >>= braceEnd chosen) (ifAlone chosen j ms) r := by
  obtain ⟨c, hpeek, hc, -⟩ := peek?_of_written h hb hi
  have hother : c ≠ 'n' → Gives (null i >>= braceEnd chosen) none r := by
    intro hn
    obtain ⟨f, hf⟩ := null_refuses hpeek hn
    rw [hf]
    exact .fault
  cases h with
  | null =>
    obtain ⟨k, hk, hkrest⟩ := passes_null hb _ i hi
    rw [hk]
    have hend := gives_braceEnd hrest hkrest chosen
    cases ms with
    | nil => exact hend
    | cons m ms => exact hend
  | number _ _ _ _ => exact hother (hc.ne_of_number (by decide) (by decide))
  | _ => cases hc; exact hother (by decide)

theorem choice_object (names : List String) (key : String) (j : Json) (ms : List (String × Json)) :
    Find.choice names (.object ((key, j) :: ms)) =
      (if key ∈ names then some (.choice key) else none) >>= fun chosen => ifAlone chosen j ms := by
  cases j <;> cases ms <;> by_cases hkey : key ∈ names <;> simp [Find.choice, ifAlone, hkey]

theorem gives_choiceObject {names : List String} {ms : List (String × Json)} {t r : List Char} {i : Input}
    (h : WrittenMembers true ms t) (hi : i.rest = t ++ r) :
    Gives (name names i >>= fun p => colon p.2 >>= fun j => null j >>= braceEnd p.1) (Find.choice names (.object ms)) r := by
  cases h with
  | close hb =>
    rw [List.append_assoc] at hi
    have htext : Gives (text "variant identifier" i) none r := text_refuses _ (peek?_skipBlanks hb rfl hi) (by decide)
    unfold name
    generalize text "variant identifier" i = x at htext ⊢
    cases htext
    exact .fault
  | @member _ lead k b b' t rest key j ms hl hk hb hb' hw hrest =>
    cases hl with
    | first hlead =>
      rw [choice_object]
      have hshape : i.rest = lead ++ (('"' :: (k ++ ['"'])) ++ (b ++ ':' :: (b' ++ (t ++ (rest ++ r))))) := by rw [hi]; simp
      have hname := gives_name names (.string hk) hlead hshape
      refine hname.bind fun chosen i hi => ?_
      obtain ⟨l, hl, hlrest⟩ := passes_colon hb _ i hi
      rw [hl]
      exact gives_nullAndEnd hw hb' hrest hlrest chosen

theorem decides_choice (names : List String) : Decides (choice names) (Find.choice names) := by
  intro j t b r i h hb _ hi
  obtain ⟨c, hpeek, hc, hrest⟩ := peek?_of_written h hb hi
  have hrefuses : c ≠ '"' → c ≠ '\x7b' → Gives (choice names i) none r := by
    intro hquote hbrace
    unfold choice
    simp only [hpeek]
    exact .fault
  cases h with
  | string ht =>
    cases hc
    simp only [choice, hpeek]
    exact gives_name names (.string ht) .nil hrest
  | object hms =>
    cases hc
    simp only [choice, hpeek]
    exact gives_choiceObject hms (by rw [rest_skip, hrest]; rfl)
  | number _ _ _ _ => exact hrefuses (hc.ne_of_number (by decide) (by decide)) (hc.ne_of_number (by decide) (by decide))
  | _ => cases hc; exact hrefuses (by decide) (by decide)

/-! ## Lists -/

/-- What stands before an element leads to it. -/
theorem nextElement?_written {first : Bool} {lead t r : List Char} {j : Json} {i : Input} (hl : Lead first lead)
    (h : Written j t) (hi : i.rest = lead ++ (t ++ r)) : ∃ k, nextElement? first i = .ok (some k) ∧ k.rest = t ++ r := by
  obtain ⟨c, cs, rfl, hc⟩ := h.opening
  exact nextElement?_element hl hc.isBlank_eq_false hc.ne_close hi

theorem length_lt_of_elements {first : Bool} {js : List Json} {t : List Char} (h : WrittenElements first js t) :
    js.length < t.length := by
  induction js generalizing first t with
  | nil => cases h; simp
  | cons j js ih =>
    cases h with
    | element _ hw hrest =>
      obtain ⟨c, cs, rfl, -⟩ := hw.opening
      have := ih hrest
      simp only [List.length_append, List.length_cons]
      omega

theorem gives_elements {read : Reader Datum} {find : Finder} (hread : Decides read find) {first : Bool} {js : List Json}
    {t r : List Char} (h : WrittenElements first js t) {fuel : Nat} (hf : js.length < fuel) {i : Input}
    (hi : i.rest = t ++ r) : Gives (elements read fuel first i) (js.mapM find) r := by
  induction js generalizing first t fuel i with
  | nil =>
    obtain ⟨n, rfl⟩ : ∃ n, fuel = n + 1 := ⟨fuel - 1, by omega⟩
    cases h with
    | close hb =>
      rw [List.append_assoc] at hi
      obtain ⟨k, hk, hrest⟩ := passes_listEnd hb r i hi
      simp only [elements, nextElement?_close hb hi, hk]
      exact .value hrest
  | cons j js ih =>
    obtain ⟨n, rfl⟩ : ∃ n, fuel = n + 1 := ⟨fuel - 1, by omega⟩
    cases h with
    | element hl hw hrest =>
      rw [List.append_assoc, List.append_assoc] at hi
      obtain ⟨k, hk, hkrest⟩ := nextElement?_written hl hw hi
      rw [List.mapM_cons, elements, hk]
      refine (hread hw .nil (hrest.behind r) hkrest).bind fun d k hk => ?_
      refine (ih hrest (by simpa using hf) hk).bind fun ds k hk => ?_
      exact .value hk

theorem list_refuses {read : Reader Datum} {i : Input} {c : Char} {r : List Char} (h : i.skipBlanks.peek? = some c)
    (hc : c ≠ '[') : Gives (list read i) none r := by
  unfold list
  simp only [h]
  exact .fault

theorem decides_list {read : Reader Datum} {element : Shape} (hread : Decides read element.datum?) :
    Decides (list read) (Shape.list element).datum? := by
  intro j t b r i h hb _ hi
  obtain ⟨c, hpeek, hc, hrest⟩ := peek?_of_written h hb hi
  cases h with
  | array hjs =>
    cases hc
    have hlen := length_lt_of_elements hjs
    simp only [list, hpeek]
    refine Gives.map (gives_elements hread hjs ?_ ?_) Datum.list
    · rw [hrest]
      simp only [List.length_append, List.length_cons]
      omega
    · rw [rest_skip, hrest]
      rfl
  | number _ _ _ _ => exact list_refuses hpeek (hc.ne_of_number (by decide) (by decide))
  | _ => cases hc; exact list_refuses hpeek (by decide)

end Reader

end SoliditySchema.Json
