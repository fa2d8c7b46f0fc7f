/-
  SoliditySchema.Proofs.Json.DataFault — faults of what a text says.

  A text that writes a value can still be refused in two ways: for what it says, as a key that is missing or comes
  twice, or for where it says it, as a list that is not the record it stands for and is left in its middle. Where every
  part of a value is of the kind that its shape asks for (`Shape.Fits`), only the first way is left: reading ends
  behind the value, or in a fault of the category `data` (`Orderly`).

  The proof is by induction on the shape. Of an object, the members that are left are read in turn; what carries the
  induction is that the first value of every field that has not come yet is read in order (`Awaits`). The values behind
  a key that comes twice are never read, so nothing is asked of them.
-/

import SoliditySchema.Proofs.Json.Record

namespace SoliditySchema.Json

open Input

/-! ## Values of the right kind -/

namespace Shape

mutual

/-- Every part of a value is of the kind that the shape asks for. Keys may be missing, and only the first value of
each counts. -/
def Fits : Shape → Json → Prop
  | .text, .string _ => True
  | .flag, .bool _ => True
  | .list element, .array js => ∀ j ∈ js, element.Fits j
  | .choice names, .string s => s ∈ names
  | .record _ fields, .object ms => AllFit fields ms
  | _, _ => False

/-- The first values of fields fit. -/
def AllFit : List Field → List (String × Json) → Prop
  | [], _ => True
  | .mk key shape _ :: fs, ms => (∀ j ∈ (valuesOf key ms).head?, shape.Fits j) ∧ AllFit fs ms

end

end Shape

/-! ## Readings in order -/

/-- Reading ends behind the value, or in a fault of what the text says. -/
inductive Orderly {α : Type} (rest : List Char) : Except Fault (α × Input) → Prop
  | value {a : α} {i : Input} : i.rest = rest → Orderly rest (.ok (a, i))
  | fault {f : Fault} : f.cause.category = .data → Orderly rest (.error f)

theorem Orderly.bind {α β : Type} {x : Except Fault (α × Input)} {r r' : List Char}
    {f : α × Input → Except Fault (β × Input)} (h : Orderly r x) (hf : ∀ a i, i.rest = r → Orderly r' (f (a, i))) :
    Orderly r' (x >>= f) := by
  cases h with
  | value hi => exact hf _ _ hi
  | fault hdata => exact .fault hdata

theorem Orderly.map {α β : Type} {x : Except Fault (α × Input)} {r : List Char} (h : Orderly r x) (f : α → β) :
    Orderly r (x.map fun p => (f p.1, p.2)) := by
  cases h with
  | value hi => exact .value hi
  | fault hdata => exact .fault hdata

/-- Every text of a value is read in order. -/
def ReadInOrder (read : Reader Datum) (j : Json) : Prop :=
  ∀ ⦃t b r : List Char⦄ ⦃i : Input⦄, Written j t → Blanks b → Behind r → i.rest = b ++ (t ++ r) → Orderly r (read i)

theorem Decides.readInOrder {read : Reader Datum} {find : Finder} (h : Decides read find) {j : Json} {d : Datum}
    (hj : find j = some d) : ReadInOrder read j := by
  intro t b r i hw hb hr hi
  have hread := h hw hb hr hi
  rw [hj] at hread
  generalize read i = x at hread ⊢
  cases hread with
  | value hrest => exact .value hrest

namespace Reader

/-! ## Lists -/

theorem orderly_elements {read : Reader Datum} {first : Bool} {js : List Json} (hread : ∀ j ∈ js, ReadInOrder read j)
    {t r : List Char} (h : WrittenElements first js t) {fuel : Nat} (hf : js.length < fuel) {i : Input}
    (hi : i.rest = t ++ r) : Orderly r (elements read fuel first i) := by
  induction js generalizing first t fuel i with
  | nil =>
    obtain ⟨n, rfl⟩ : ∃ n, fuel = n + 1 := ⟨fuel - 1, by omega⟩
    cases h with
    | close hb =>
      rw [List.append_assoc] at hi
      obtain ⟨k, hk, hrest⟩ := passes_listEnd hb r i hi
      simp only [elements, nextElement?_close hb hi, hk]
      exact .value hrest
  | cons j js ih =>
    obtain ⟨n, rfl⟩ : ∃ n, fuel = n + 1 := ⟨fuel - 1, by omega⟩
    have hn : js.length < n := by simpa using hf
    cases h with
    | element hl hw hrest =>
      rw [List.append_assoc, List.append_assoc] at hi
      obtain ⟨k, hk, hkrest⟩ := nextElement?_written hl hw hi
      have hj := hread j List.mem_cons_self
      have hjs : ∀ j ∈ js, ReadInOrder read j := fun j hj => hread j (List.mem_cons_of_mem _ hj)
      rw [elements, hk]
      refine (hj hw .nil (hrest.behind r) hkrest).bind fun d k hk => ?_
      exact (ih hjs hrest hn hk).bind fun ds k hk => .value hk

theorem readInOrder_list {read : Reader Datum} {js : List Json} (hread : ∀ j ∈ js, ReadInOrder read j) :
    ReadInOrder (list read) (.array js) := by
  intro t b r i hw hb _ hi
  obtain ⟨c, hpeek, hc, hrest⟩ := peek?_of_written hw hb hi
  cases hc
  cases hw with
  | array hjs =>
    have hlen := length_lt_of_elements hjs
    simp only [list, hpeek]
    refine (orderly_elements hread hjs ?_ ?_).map Datum.list
    · rw [hrest]
      simp only [List.length_append, List.length_cons]
      omega
    · rw [rest_skip, hrest]
      rfl

/-! ## Records -/

theorem category_faultAtEnd (i : Input) (cause : Cause) : (faultAtEnd i cause).cause.category = cause.category := by
  simp only [faultAtEnd]
  split <;> rfl

/-- A traversal that fails fails at one of the things on its way. -/
theorem exists_of_mapM_error {ε α β : Type} {f : α → Except ε β} {as : List α} {e : ε} (h : as.mapM f = .error e) :
    ∃ a ∈ as, f a = .error e := by
  induction as with
  | nil => cases h
  | cons a as ih =>
    rw [List.mapM_cons] at h
    cases ha : f a with
    | error e' =>
      rw [ha] at h
      cases h
      exact ⟨a, List.mem_cons_self, ha⟩
    | ok b =>
      cases has : as.mapM f with
      | error e' =>
        rw [ha, has] at h
        cases h
        obtain ⟨a', ha', hf⟩ := ih has
        exact ⟨a', List.mem_cons_of_mem _ ha', hf⟩
      | ok bs =>
        rw [ha, has] at h
        cases h

/-- Where a record is not complete, a key is missing. -/
theorem category_of_complete {fields : List (FieldBy (Reader Datum))} {slots : Slots} {cause : Cause}
    (h : complete fields slots = .error cause) : cause.category = .data := by
  obtain ⟨⟨⟨key, take, default⟩, slot⟩, -, hp⟩ := exists_of_mapM_error h
  cases slot <;> cases default <;> cases hp
  rfl

section Fields

variable {rs : List (FieldBy (Reader Datum))} {fs : List (FieldBy Finder)}

/-- The first value of every field that has not come yet is read in order. -/
def Awaits (rs : List (FieldBy (Reader Datum))) (slots : Slots) (ms : List (String × Json)) : Prop :=
  ∀ (k : Nat) (reader : FieldBy (Reader Datum)), rs[k]? = some reader → slots[k]? = some none →
    ∀ j ∈ (valuesOf reader.key ms).head?, ReadInOrder reader.take j

theorem Awaits.of_unknown {slots : Slots} {key : String} {j : Json} {ms : List (String × Json)}
    (h : Awaits rs slots ((key, j) :: ms)) (hkey : ∀ reader ∈ rs, reader.key ≠ key) : Awaits rs slots ms := by
  intro k reader hreader hslot
  have hvalues := h k reader hreader hslot
  rwa [valuesOf_cons_of_ne (hkey reader (List.mem_of_getElem? hreader)).symm] at hvalues

/-- The field whose value has come is not awaited any more, and the others have other keys. -/
theorem Awaits.of_known {slots : Slots} {reader : FieldBy (Reader Datum)} {k : Nat} {j : Json} {ms : List (String × Json)}
    (h : Awaits rs slots ((reader.key, j) :: ms)) (hkeys : (rs.map FieldBy.key).Nodup) (hreader : rs[k]? = some reader)
    (d : Datum) : Awaits rs (slots.set k (some d)) ms := by
  intro l other hother hslot
  -- A slot that is still free is not the one that was filled, so its key is another one.
  have hne : k ≠ l := by
    intro heq
    subst heq
    have hlt : k < slots.length := by
      have := (List.getElem?_eq_some_iff.mp hslot).1
      rwa [List.length_set] at this
    rw [List.getElem?_set_self hlt] at hslot
    cases hslot
  have hkey : reader.key ≠ other.key := by
    intro heq
    have hlt : k < (rs.map FieldBy.key).length := by
      rw [List.length_map]
      exact (List.getElem?_eq_some_iff.mp hreader).1
    refine hne ((List.getElem?_inj hlt hkeys).mp ?_)
    rw [List.getElem?_map, List.getElem?_map, hreader, hother, Option.map_some, Option.map_some, heq]
  rw [List.getElem?_set_ne hne] at hslot
  have hvalues := h l other hother hslot
  rwa [valuesOf_cons_of_ne hkey] at hvalues

theorem orderly_members (h : List.Forall₂ Decided rs fs) (hkeys : (rs.map FieldBy.key).Nodup) {first : Bool}
    {ms : List (String × Json)} {t r : List Char} (hms : WrittenMembers first ms t) {fuel : Nat} (hfuel : ms.length < fuel)
    {slots : Slots} (hslots : slots.length = rs.length) (hawaits : Awaits rs slots ms) {i : Input} (hi : i.rest = t ++ r) :
    Orderly ('\x7d' :: r) (members rs fuel first slots i) := by
  induction ms generalizing first t fuel slots i with
  | nil =>
    obtain ⟨n, rfl⟩ : ∃ n, fuel = n + 1 := ⟨fuel - 1, by omega⟩
    cases hms with
    | close hb =>
      rw [List.append_assoc] at hi
      rw [members, nextKey?_close hb hi]
      exact .value (rest_skipBlanks hb rfl hi)
  | cons m ms ih =>
    obtain ⟨n, rfl⟩ : ∃ n, fuel = n + 1 := ⟨fuel - 1, by omega⟩
    have hn : ms.length < n := by simpa using hfuel
    cases hms with
    | @member _ lead kt b b' t rest key j _ hl hkt hb hb' hw hrest =>
      have hshape : i.rest = lead ++ '"' :: (kt ++ '"' :: (b ++ ':' :: (b' ++ (t ++ (rest ++ r))))) := by rw [hi]; simp
      obtain ⟨i₁, i₂, i₃, hkey, htext, hcolon, hi₃⟩ := key_member hl hkt hb hshape
      cases hfind : rs.findIdx? fun f => f.key == key with
      | none =>
        obtain ⟨i₄, hskip, hi₄⟩ := passes_skipValue hw hb' (hrest.behind r) i₃ hi₃
        rw [members_unknown hkey htext hfind hcolon hskip]
        exact ih hrest hn hslots (hawaits.of_unknown (ne_key_of_findIdx? hfind)) hi₄
      | some k =>
        obtain ⟨reader, f, hreader, -, hdecided, rfl⟩ := exists_decided h hfind
        rw [← hdecided.key] at hawaits
        have hlt : k < slots.length := by
          rw [hslots]
          exact (List.getElem?_eq_some_iff.mp hreader).1
        obtain ⟨slot, hslot⟩ : ∃ slot, slots[k]? = some slot := ⟨slots[k], List.getElem?_eq_getElem hlt⟩
        have hgetD : slots.getD k none = slot := by rw [List.getD_eq_getElem?_getD, hslot]; rfl
        cases slot with
        | some d =>
          -- The key has come before; the value behind it is not read.
          rw [members_taken hkey htext hfind hgetD]
          exact .fault (category_faultAtEnd i₂ _)
        | none =>
          have hj : ReadInOrder reader.take j := by
            refine hawaits k reader hreader hslot j ?_
            rw [valuesOf_cons_self]
            exact rfl
          rw [members_known hkey htext hfind hreader hgetD hcolon]
          exact (hj hw hb' (hrest.behind r) hi₃).bind fun d i₄ hi₄ =>
            ih hrest hn (by rw [List.length_set]; exact hslots) (hawaits.of_known hkeys hreader d) hi₄

/-- An object of which every awaited value is read in order. -/
theorem readInOrder_record (h : List.Forall₂ Decided rs fs) (hkeys : (rs.map FieldBy.key).Nodup) {ms : List (String × Json)}
    (hfirst : ∀ reader ∈ rs, ∀ j ∈ (valuesOf reader.key ms).head?, ReadInOrder reader.take j) (name : String) :
    ReadInOrder (record name rs) (.object ms) := by
  intro t b r i hw hb _ hi
  obtain ⟨c, hpeek, hc, hrest⟩ := peek?_of_written hw hb hi
  cases hc
  cases hw with
  | @object _ t hms =>
    have hlen := length_lt_of_members hms
    have hfuel : ms.length < i.skipBlanks.rest.length + 1 := by
      rw [hrest]
      simp only [List.length_append, List.length_cons]
      omega
    have hawaits : Awaits rs (rs.map fun _ => none) ms :=
      fun k reader hreader _ => hfirst reader (List.mem_of_getElem? hreader)
    have hskip : (i.skipBlanks.skip 1).rest = t ++ r := by
      rw [rest_skip, hrest]
      rfl
    simp only [record, hpeek]
    refine (orderly_members h hkeys hms hfuel (List.length_map _) hawaits hskip).bind fun slots k hk => ?_
    cases hcomplete : complete rs slots with
    | ok ds =>
      refine .value ?_
      rw [rest_skip, hk]
      rfl
    | error cause =>
      refine .fault ?_
      rw [category_faultAtEnd]
      exact category_of_complete hcomplete

end Fields

end Reader

/-! ## Shapes -/

namespace Shape

open Reader

mutual

/-- A value whose parts are of the right kind is read in order. -/
theorem readInOrder (s : Shape) (hs : s.Distinct) {j : Json} (hj : s.Fits j) : ReadInOrder s.read j := by
  cases s with
  | text =>
    cases j with
    | string s => exact Decides.readInOrder decides_text rfl
    | _ => cases hj
  | flag =>
    cases j with
    | bool b => exact Decides.readInOrder decides_flag rfl
    | _ => cases hj
  | list element =>
    cases j with
    | array js => exact readInOrder_list fun j hmem => element.readInOrder hs (hj j hmem)
    | _ => cases hj
  | choice names =>
    cases j with
    | string s => exact Decides.readInOrder (decides_choice names) (if_pos hj)
    | _ => cases hj
  | record name fields =>
    cases j with
    | object ms =>
      have hdecided := decided fields hs.2
      have hkeys : ((readers fields).map FieldBy.key).Nodup := by
        rw [map_key_eq hdecided]
        exact hs.1
      exact readInOrder_record hdecided hkeys (readInOrder_first fields hs.2 hj) _
    | _ => cases hj

theorem readInOrder_first (fields : List Field) (hs : AllDistinct fields) {ms : List (String × Json)}
    (hms : AllFit fields ms) :
    ∀ reader ∈ readers fields, ∀ j ∈ (valuesOf reader.key ms).head?, ReadInOrder reader.take j := by
  cases fields with
  | nil => exact fun reader hreader => nomatch hreader
  | cons f fs =>
    cases f with
    | mk key shape default =>
      intro reader hreader j hj
      cases hreader with
      | head => exact shape.readInOrder hs.1 (hms.1 j hj)
      | tail _ hreader => exact readInOrder_first fs hs.2 hms.2 reader hreader j hj

end

/-- A text of a value whose parts are of the right kind, and in which the shape finds nothing, is refused for what it
says. -/
theorem readText_data {s : Shape} (hs : s.Distinct) {j : Json} (hj : s.Fits j) (hnone : s.datum? j = none) {text : String}
    (h : WrittenText j text) : ∃ f, s.readText text = .error f ∧ f.cause.category = .data := by
  obtain ⟨b, t, b', hb, hw, hb', htext⟩ := h
  have hread := s.decides hs hw hb (behind_blanks hb') (i := Input.ofText text) htext
  have horder := s.readInOrder hs hj hw hb (behind_blanks hb') (i := Input.ofText text) htext
  rw [hnone] at hread
  unfold readText
  generalize s.read (Input.ofText text) = x at hread horder ⊢
  cases hread with
  | @fault f =>
    cases horder with
    | fault hdata => exact ⟨f, rfl, hdata⟩

end Shape

end SoliditySchema.Json
