/-
  SoliditySchema.Proofs.Json.Record — what a text of a shape is read as.

  A record's reader keeps what it has found in slots. After some of the members they are filled with what was found
  in these members, so the proof is by induction on the members that are left (`gives_members`). With all members
  taken, the slots hold what the fields find in the values of their keys (`filled_completed`).

  It follows that reading decides every shape (`Shape.decides`) and that a whole text is read as what the shape finds
  in the value that it writes (`Shape.readText_written`).
-/

import Mathlib.Data.List.Forall2
import SoliditySchema.Proofs.Json.Datum

namespace SoliditySchema.Json

open Input

namespace Reader

/-! ## Records -/

/-- A field's reader decides what the field finds. -/
structure Decided (r : FieldBy (Reader Datum)) (f : FieldBy Finder) : Prop where
  key : r.key = f.key
  default : r.default = f.default
  take : Decides r.take f.take

theorem listEnd_refuses {first : Bool} {lead t r : List Char} {j : Json} {i : Input} (hl : Lead first lead)
    (h : Written j t) (hi : i.rest = lead ++ (t ++ r)) : ∃ f, listEnd i = .error f := by
  obtain ⟨c, cs, rfl, hc⟩ := h.opening
  unfold listEnd
  cases hl with
  | first hb =>
    have hclose := hc.ne_close
    simp only [peek?_skipBlanks hb hc.isBlank_eq_false hi]
    split
    · exact ⟨_, rfl⟩
    · rename_i heq
      exact absurd (Option.some_inj.mp heq) hclose
    · exact ⟨_, rfl⟩
    · exact ⟨_, rfl⟩
  | next hb _ =>
    rw [List.append_assoc, List.cons_append] at hi
    simp only [peek?_skipBlanks hb rfl hi]
    exact ⟨_, rfl⟩

theorem gives_positional {rs : List (FieldBy (Reader Datum))} {fs : List (FieldBy Finder)} (h : List.Forall₂ Decided rs fs)
    (expected : String) (count : Nat) {js : List Json} {t r : List Char} {i : Input}
    (hjs : WrittenElements (decide (count = 0)) js t) (hi : i.rest = t ++ r) :
    Gives (positional expected count rs i) (Find.positional fs js) r := by
  induction h generalizing count js t i with
  | nil =>
    cases hjs with
    | close hb =>
      rw [List.append_assoc] at hi
      obtain ⟨k, hk, hrest⟩ := passes_listEnd hb r i hi
      simp only [positional, hk]
      exact .value hrest
    | element hl hw _ =>
      rw [List.append_assoc, List.append_assoc] at hi
      obtain ⟨f, hf⟩ := listEnd_refuses hl hw hi
      simp only [positional, hf]
      exact .fault
  | @cons reader field rs fs hfield _ ih =>
    cases hjs with
    | close hb =>
      -- The list has ended: the fields that are left must have defaults.
      have hmore := ih (count + 1) (.close hb) hi
      rw [List.append_assoc] at hi
      rw [positional, Find.positional, nextElement?_close hb hi, hfield.default]
      cases field.default with
      | none =>
        cases listEnd i <;> exact .fault
      | some d => exact hmore.bind fun ds k hk => .value hk
    | element hl hw hrest =>
      rw [List.append_assoc, List.append_assoc] at hi
      obtain ⟨k, hk, hkrest⟩ := nextElement?_written hl hw hi
      rw [positional, Find.positional, hk]
      refine (hfield.take hw .nil (hrest.behind r) hkrest).bind fun d k hk => ?_
      refine (ih (count + 1) (by simpa using hrest) hk).bind fun ds k hk => ?_
      exact .value hk

/-! ## Slots -/

/-- The slot of a field after more values of its key. -/
def fill (f : FieldBy Finder) : Option Datum → List Json → Option (Option Datum)
  | slot, [] => some slot
  | none, j :: js => f.take j >>= fun d => fill f (some d) js
  | some _, _ :: _ => none

/-- The slots of fields after more members. -/
def filled (fields : List (FieldBy Finder)) (slots : Slots) (ms : List (String × Json)) : Option Slots :=
  (fields.zip slots).mapM fun p => fill p.1 p.2 (valuesOf p.1.key ms)

theorem valuesOf_cons_self (key : String) (j : Json) (ms : List (String × Json)) :
    valuesOf key ((key, j) :: ms) = j :: valuesOf key ms := by
  simp [valuesOf]

theorem valuesOf_cons_of_ne {key key' : String} (h : key ≠ key') (j : Json) (ms : List (String × Json)) :
    valuesOf key' ((key, j) :: ms) = valuesOf key' ms := by
  simp [valuesOf, h]

section Filled

variable {fs : List (FieldBy Finder)} {slots : Slots} {ms : List (String × Json)}

theorem filled_cons (f : FieldBy Finder) (slot : Option Datum) :
    filled (f :: fs) (slot :: slots) ms =
      fill f slot (valuesOf f.key ms) >>= fun s => filled fs slots ms >>= fun ss => some (s :: ss) := by
  rw [filled, List.zip_cons_cons, List.mapM_cons]
  rfl

theorem filled_nil (h : slots.length = fs.length) : filled fs slots [] = some slots := by
  induction fs generalizing slots with
  | nil =>
    rw [List.length_eq_zero_iff.mp h]
    rfl
  | cons f fs ih =>
    cases slots with
    | nil => cases h
    | cons s slots =>
      rw [filled_cons, ih (by simpa using h)]
      rfl

/-- The members of other keys are of no account. -/
theorem filled_unknown {key : String} (h : ∀ f ∈ fs, f.key ≠ key) (j : Json) :
    filled fs slots ((key, j) :: ms) = filled fs slots ms := by
  induction fs generalizing slots with
  | nil => rfl
  | cons f fs ih =>
    cases slots with
    | nil => rfl
    | cons s slots =>
      rw [filled_cons, filled_cons, valuesOf_cons_of_ne (h f List.mem_cons_self).symm,
        ih fun g hg => h g (List.mem_cons_of_mem f hg)]

/-- The first member of a field fills its slot. -/
theorem filled_known (hkeys : (fs.map FieldBy.key).Nodup) {k : Nat} {f : FieldBy Finder} (hf : fs[k]? = some f)
    (hs : slots[k]? = some none) (j : Json) :
    filled fs slots ((f.key, j) :: ms) = f.take j >>= fun d => filled fs (slots.set k (some d)) ms := by
  induction fs generalizing slots k with
  | nil => cases hf
  | cons g fs ih =>
    rw [List.map_cons, List.nodup_cons] at hkeys
    cases slots with
    | nil => cases hs
    | cons s slots =>
      cases k with
      | zero =>
        obtain rfl : g = f := Option.some_inj.mp hf
        obtain rfl : s = none := Option.some_inj.mp hs
        have hother : ∀ h ∈ fs, h.key ≠ g.key := fun h hh heq => hkeys.1 (heq ▸ List.mem_map_of_mem hh)
        simp only [List.set_cons_zero, filled_cons, valuesOf_cons_self, fill, filled_unknown hother, bind_assoc]
      | succ k =>
        have hne : f.key ≠ g.key := fun heq => hkeys.1 (heq ▸ List.mem_map_of_mem (List.mem_of_getElem? hf))
        simp only [List.set_cons_succ, filled_cons, valuesOf_cons_of_ne hne, ih hkeys.2 hf hs]
        -- The fields are independent, so it does not matter which of the two is missing first.
        cases f.take j <;> cases fill g s (valuesOf g.key ms) <;> rfl

/-- A second member of a field is refused. -/
theorem filled_taken (hkeys : (fs.map FieldBy.key).Nodup) {k : Nat} {f : FieldBy Finder} (hf : fs[k]? = some f)
    {d : Datum} (hs : slots[k]? = some (some d)) (j : Json) : filled fs slots ((f.key, j) :: ms) = none := by
  induction fs generalizing slots k with
  | nil => cases hf
  | cons g fs ih =>
    rw [List.map_cons, List.nodup_cons] at hkeys
    cases slots with
    | nil => cases hs
    | cons s slots =>
      cases k with
      | zero =>
        obtain rfl : g = f := Option.some_inj.mp hf
        obtain rfl : s = some d := Option.some_inj.mp hs
        rw [filled_cons, valuesOf_cons_self]
        rfl
      | succ k =>
        have hne : f.key ≠ g.key := fun heq => hkeys.1 (heq ▸ List.mem_map_of_mem (List.mem_of_getElem? hf))
        rw [filled_cons, ih hkeys.2 hf hs]
        cases fill g s (valuesOf g.key ((f.key, j) :: ms)) <;> rfl

end Filled

/-- The values of the fields in the end. -/
def completed (fields : List (FieldBy Finder)) (slots : Slots) : Option (List Datum) :=
  (fields.zip slots).mapM fun p => p.2.or p.1.default

theorem fill_completed (f : FieldBy Finder) (js : List Json) :
    (fill f none js >>= fun slot => slot.or f.default) = Find.field f js := by
  match js with
  | [] => rfl
  | [j] => cases hj : f.take j <;> simp [fill, Find.field, hj]
  | j :: _ :: _ => cases hj : f.take j <;> simp [fill, Find.field, hj]

/-- With all members taken, the slots hold what the fields find in the values of their keys. -/
theorem filled_completed (fs : List (FieldBy Finder)) (ms : List (String × Json)) :
    (filled fs (fs.map fun _ => none) ms >>= completed fs) = fs.mapM fun f => Find.field f (valuesOf f.key ms) := by
  induction fs with
  | nil => rfl
  | cons f fs ih =>
    have hcons : ∀ s ss, completed (f :: fs) (s :: ss) =
        s.or f.default >>= fun d => completed fs ss >>= fun ds => some (d :: ds) := by
      intro s ss
      rw [completed, List.zip_cons_cons, List.mapM_cons]
      rfl
    rw [List.map_cons, filled_cons, List.mapM_cons, ← ih, ← fill_completed]
    cases fill f none (valuesOf f.key ms) with
    | none => rfl
    | some s =>
      cases filled fs (fs.map fun _ => none) ms with
      | none => cases hs : s.or f.default <;> simp [hs]
      | some ss => exact hcons s ss

/-! ## Reading members -/

section Fields

variable {rs : List (FieldBy (Reader Datum))} {fs : List (FieldBy Finder)}

theorem map_key_eq (h : List.Forall₂ Decided rs fs) : rs.map FieldBy.key = fs.map FieldBy.key := by
  induction h with
  | nil => rfl
  | cons hfield _ ih => rw [List.map_cons, List.map_cons, hfield.key, ih]

theorem ne_key_of_findIdx? {key : String} (hnone : (rs.findIdx? fun f => f.key == key) = none) :
    ∀ reader ∈ rs, reader.key ≠ key := by
  intro reader hreader heq
  have hmatch := List.findIdx?_eq_none_iff.mp hnone reader hreader
  rw [heq, beq_self_eq_true] at hmatch
  cases hmatch

theorem ne_key_of_unknown (h : List.Forall₂ Decided rs fs) {key : String}
    (hnone : (rs.findIdx? fun f => f.key == key) = none) : ∀ f ∈ fs, f.key ≠ key := by
  intro f hf heq
  have hmem : key ∈ rs.map FieldBy.key := by
    rw [map_key_eq h, ← heq]
    exact List.mem_map_of_mem hf
  obtain ⟨reader, hreader, hkey⟩ := List.mem_map.mp hmem
  exact ne_key_of_findIdx? hnone reader hreader hkey

theorem exists_decided (h : List.Forall₂ Decided rs fs) {key : String} {k : Nat}
    (hsome : (rs.findIdx? fun f => f.key == key) = some k) :
    ∃ reader f, rs[k]? = some reader ∧ fs[k]? = some f ∧ Decided reader f ∧ f.key = key := by
  obtain ⟨hlt, hmatch, -⟩ := List.findIdx?_eq_some_iff_getElem.mp hsome
  have hlt' : k < fs.length := h.length_eq ▸ hlt
  have hdecided : Decided rs[k] fs[k] := h.get hlt hlt'
  exact ⟨rs[k], fs[k], List.getElem?_eq_getElem hlt, List.getElem?_eq_getElem hlt', hdecided,
    hdecided.key ▸ eq_of_beq hmatch⟩

theorem gives_members (h : List.Forall₂ Decided rs fs) (hkeys : (fs.map FieldBy.key).Nodup) {first : Bool}
    {ms : List (String × Json)} {t r : List Char} (hms : WrittenMembers first ms t) {fuel : Nat} (hfuel : ms.length < fuel)
    {slots : Slots} (hslots : slots.length = fs.length) {i : Input} (hi : i.rest = t ++ r) :
    Gives (members rs fuel first slots i) (filled fs slots ms) ('\x7d' :: r) := by
  induction ms generalizing first t fuel slots i with
  | nil =>
    obtain ⟨n, rfl⟩ : ∃ n, fuel = n + 1 := ⟨fuel - 1, by omega⟩
    cases hms with
    | close hb =>
      rw [List.append_assoc] at hi
      rw [filled_nil hslots, members, nextKey?_close hb hi]
      exact .value (rest_skipBlanks hb rfl hi)
  | cons m ms ih =>
    obtain ⟨n, rfl⟩ : ∃ n, fuel = n + 1 := ⟨fuel - 1, by omega⟩
    have hn : ms.length < n := by simpa using hfuel
    cases hms with
    | @member _ lead kt b b' t rest key j _ hl hkt hb hb' hw hrest =>
      have hshape : i.rest = lead ++ '"' :: (kt ++ '"' :: (b ++ ':' :: (b' ++ (t ++ (rest ++ r))))) := by rw [hi]; simp
      obtain ⟨i₁, i₂, i₃, hkey, htext, hcolon, hi₃⟩ := key_member hl hkt hb hshape
      cases hfind : rs.findIdx? fun f => f.key == key with
      | none =>
        -- No field has the key, so no slot depends on its value.
        obtain ⟨i₄, hskip, hi₄⟩ := passes_skipValue hw hb' (hrest.behind r) i₃ hi₃
        rw [members_unknown hkey htext hfind hcolon hskip, filled_unknown (ne_key_of_unknown h hfind)]
        exact ih hrest hn hslots hi₄
      | some k =>
        obtain ⟨reader, f, hreader, hf, hdecided, rfl⟩ := exists_decided h hfind
        have hlt : k < slots.length := by
          rw [hslots]
          exact (List.getElem?_eq_some_iff.mp hf).1
        cases hslot : slots[k]? with
        | none => exact absurd (List.getElem?_eq_none_iff.mp hslot) (by omega)
        | some slot =>
          have hgetD : slots.getD k none = slot := by rw [List.getD_eq_getElem?_getD, hslot]; rfl
          -- A slot that is filled already means that the key has come before.
          cases slot with
          | some d =>
            rw [members_taken hkey htext hfind hgetD, filled_taken hkeys hf hslot]
            exact .fault
          | none =>
            rw [members_known hkey htext hfind hreader hgetD hcolon, filled_known hkeys hf hslot]
            exact (hdecided.take hw hb' (hrest.behind r) hi₃).bind fun d i₄ hi₄ =>
              ih hrest hn (by rw [List.length_set]; exact hslots) hi₄

theorem complete_completed (h : List.Forall₂ Decided rs fs) (slots : Slots) :
    (∃ ds, complete rs slots = .ok ds ∧ completed fs slots = some ds) ∨
      (∃ cause, complete rs slots = .error cause) ∧ completed fs slots = none := by
  induction h generalizing slots with
  | nil => exact .inl ⟨[], rfl, rfl⟩
  | @cons reader field rs fs hfield _ ih =>
    cases slots with
    | nil => exact .inl ⟨[], rfl, rfl⟩
    | cons slot slots =>
      have hfound : ∀ d : Datum,
          (∃ ds, (do return d :: (← complete rs slots)) = Except.ok ds ∧ (do return d :: (← completed fs slots)) = some ds) ∨
            (∃ cause, (do return d :: (← complete rs slots)) = Except.error cause) ∧
              (do return d :: (← completed fs slots)) = none := by
        intro d
        rcases ih slots with ⟨ds, hds, hds'⟩ | ⟨⟨cause, hcause⟩, hnone⟩
        · exact .inl ⟨d :: ds, by rw [hds]; rfl, by rw [hds']; rfl⟩
        · exact .inr ⟨⟨cause, by rw [hcause]; rfl⟩, by rw [hnone]; rfl⟩
      unfold complete completed at hfound ⊢
      rw [List.zip_cons_cons, List.zip_cons_cons, List.mapM_cons, List.mapM_cons, hfield.default]
      cases slot with
      | some d => exact hfound d
      | none =>
        cases field.default with
        | some d => exact hfound d
        | none => exact .inr ⟨⟨_, rfl⟩, rfl⟩

theorem record_refuses {name : String} {i : Input} {c : Char} {r : List Char} (h : i.skipBlanks.peek? = some c)
    (hlist : c ≠ '[') (hobject : c ≠ '\x7b') : Gives (record name rs i) none r := by
  unfold record
  simp only [h]
  exact .fault

theorem length_lt_of_members {first : Bool} {ms : List (String × Json)} {t : List Char} (h : WrittenMembers first ms t) :
    ms.length < t.length := by
  induction ms generalizing first t with
  | nil => cases h; simp
  | cons m ms ih =>
    cases h with
    | member _ _ _ _ _ hrest =>
      have := ih hrest
      simp only [List.length_append, List.length_cons]
      omega

/-- The members of an object and its end. -/
theorem gives_object (h : List.Forall₂ Decided rs fs) (hkeys : (fs.map FieldBy.key).Nodup) {ms : List (String × Json)}
    {t r : List Char} (hms : WrittenMembers true ms t) {fuel : Nat} (hfuel : ms.length < fuel) {i : Input}
    (hi : i.rest = t ++ r) :
    Gives (members rs fuel true (rs.map fun _ => none) i >>= fun p =>
        match complete rs p.1 with
        | .ok ds => .ok (Datum.record ds, p.2.skip 1)
        | .error cause => .error (faultAtEnd p.2 cause))
      (Find.record fs (.object ms)) r := by
  have hnone : rs.map (fun _ => (none : Option Datum)) = fs.map fun _ => none := by
    rw [List.map_const', List.map_const', h.length_eq]
  have hslots : (fs.map fun _ => (none : Option Datum)).length = fs.length := List.length_map _
  have hfind : Find.record fs (.object ms) =
      filled fs (fs.map fun _ => none) ms >>= fun slots => (completed fs slots).map .record := by
    rw [Find.record, ← filled_completed]
    cases filled fs (fs.map fun _ => none) ms <;> rfl
  rw [hnone, hfind]
  refine (gives_members h hkeys hms hfuel hslots hi).bind fun slots i hi => ?_
  rcases complete_completed h slots with ⟨ds, hds, hds'⟩ | ⟨⟨cause, hcause⟩, hnone⟩
  · simp only [hds, hds']
    exact .value (by rw [rest_skip, hi]; rfl)
  · simp only [hcause, hnone]
    exact .fault

theorem decides_record (h : List.Forall₂ Decided rs fs) (hkeys : (fs.map FieldBy.key).Nodup) (name : String) :
    Decides (record name rs) (Find.record fs) := by
  intro j t b r i hw hb _ hi
  obtain ⟨c, hpeek, hc, hrest⟩ := peek?_of_written hw hb hi
  cases hw with
  | array hjs =>
    cases hc
    simp only [record, hpeek]
    exact (gives_positional h _ 0 hjs (by rw [rest_skip, hrest]; rfl)).map Datum.record
  | object hms =>
    cases hc
    have hlen := length_lt_of_members hms
    simp only [record, hpeek]
    refine gives_object h hkeys hms ?_ ?_
    · rw [hrest]
      simp only [List.length_append, List.length_cons]
      omega
    · rw [rest_skip, hrest]
      rfl
  | number _ _ _ _ =>
    exact record_refuses hpeek (hc.ne_of_number (by decide) (by decide)) (hc.ne_of_number (by decide) (by decide))
  | _ => cases hc; exact record_refuses hpeek (by decide) (by decide)

end Fields

end Reader

/-! ## Shapes -/

namespace Shape

open Reader

theorem decides_text : Decides text.read text.datum? := by
  intro j t b r i h hb _ hi
  have := (gives_text "a string" h hb hi).map Datum.text
  cases j <;> exact this

mutual

/-- Reading decides what a shape finds in a value. -/
theorem decides (s : Shape) (h : s.Distinct) : Decides s.read s.datum? := by
  cases s with
  | text => exact decides_text
  | flag => exact decides_flag
  | list element => exact decides_list (element.decides h)
  | choice names => exact decides_choice names
  | record name fields => exact decides_record (decided fields h.2) h.1 _

theorem decided (fields : List Field) (h : AllDistinct fields) : List.Forall₂ Decided (readers fields) (finders fields) := by
  cases fields with
  | nil => exact .nil
  | cons f fs =>
    cases f with
    | mk key shape default => exact .cons ⟨rfl, rfl, shape.decides h.1⟩ (decided fs h.2)

end

/-- A whole text is read as what the shape finds in the value that it writes. -/
theorem readText_written {s : Shape} (hs : s.Distinct) {j : Json} {text : String} (h : WrittenText j text) :
    (s.readText text).toOption = s.datum? j := by
  obtain ⟨b, t, b', hb, hw, hb', htext⟩ := h
  have hread := s.decides hs hw hb (behind_blanks hb') (i := ofText text) htext
  unfold readText
  generalize s.datum? j = d? at hread ⊢
  generalize s.read (ofText text) = x at hread ⊢
  cases hread with
  | value hi =>
    have hend := rest_skipBlanks_of_blanks (hi ▸ hb')
    simp only [bind, Except.bind, hend, if_true]
    rfl
  | fault => rfl

end Shape

end SoliditySchema.Json
