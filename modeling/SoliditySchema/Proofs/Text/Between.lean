/-
  SoliditySchema.Proofs.Text.Between — what stands between a known beginning and a known end.

  A text is decoded by taking its beginning and its end off. If the end is one of several, of which none ends
  another, what is left is found whatever it looks like (`findSome?_between?`).
-/

import Mathlib.Data.List.Forall2

namespace SoliditySchema.Text

/-- What stands between a beginning and an end. -/
def between? (opening closing text : String) : Option String := do
  let rest ← text.toList.dropPrefix? opening.toList
  let inside ← rest.dropSuffix? closing.toList
  return String.ofList inside

theorem between?_append (opening name closing : String) :
    between? opening closing (opening ++ name ++ closing) = some name := by
  have hopen : (opening ++ name ++ closing).toList.dropPrefix? opening.toList = some (name.toList ++ closing.toList) := by
    rw [List.dropPrefix?_eq_some_iff]
    exact ⟨opening.toList, by simp, BEq.rfl⟩
  have hclose : (name.toList ++ closing.toList).dropSuffix? closing.toList = some name.toList := by
    rw [List.dropSuffix?_eq_some_iff]
    exact ⟨closing.toList, rfl, BEq.rfl⟩
  simp only [between?, hopen, hclose, bind, Option.bind]
  show some (String.ofList name.toList) = some name
  rw [String.ofList_toList]

/-- Nothing need stand behind. -/
theorem between?_opening (opening name : String) : between? opening "" (opening ++ name) = some name := by
  have hfound := between?_append opening name ""
  rwa [String.append_empty] at hfound

/-- What is found between a beginning and an end makes up the text with them. -/
theorem of_between? {opening closing text inside : String} (h : between? opening closing text = some inside) :
    text.toList = opening.toList ++ inside.toList ++ closing.toList := by
  unfold between? at h
  cases hopen : text.toList.dropPrefix? opening.toList with
  | none => rw [hopen] at h; cases h
  | some rest =>
    cases hclose : rest.dropSuffix? closing.toList with
    | none => rw [hopen] at h; simp only [bind, Option.bind, hclose] at h; cases h
    | some name =>
      rw [hopen] at h
      simp only [bind, Option.bind, hclose] at h
      injection h with h
      obtain ⟨p, hp, hpe⟩ := List.dropPrefix?_eq_some_iff.mp hopen
      obtain ⟨q, hq, hqe⟩ := List.dropSuffix?_eq_some_iff.mp hclose
      rw [hp, hq, eq_of_beq hpe, eq_of_beq hqe, ← h, String.toList_ofList, List.append_assoc]

theorem between?_eq_none {opening closing text : String} (h : ¬ opening.toList <+: text.toList) :
    between? opening closing text = none := by
  cases hb : between? opening closing text with
  | none => rfl
  | some inside =>
    have := of_between? hb
    exact absurd ⟨inside.toList ++ closing.toList, by rw [this, List.append_assoc]⟩ h

/-- Of several ends none of which ends another, the one that a text has is found, and what stands before it. -/
theorem findSome?_between? {α β : Type} {choices : List α} {closing : α → String}
    (hapart : ∀ a ∈ choices, ∀ b ∈ choices, (closing a).toList <:+ (closing b).toList → a = b) {a : α}
    (ha : a ∈ choices) (opening name : String) (make : α → String → β) :
    choices.findSome? (fun b => (between? opening (closing b) (opening ++ name ++ closing a)).map (make b)) =
      some (make a name) := by
  have htext := between?_append opening name (closing a)
  have hothers : ∀ b ∈ choices, ∀ inside, between? opening (closing b) (opening ++ name ++ closing a) = some inside →
      b = a := by
    intro b hb inside hinside
    have hends : (closing b).toList <:+ (opening ++ name ++ closing a).toList := ⟨_, (of_between? hinside).symm⟩
    have hends' : (closing a).toList <:+ (opening ++ name ++ closing a).toList := ⟨_, (of_between? htext).symm⟩
    rcases List.suffix_or_suffix_of_suffix hends hends' with hsuffix | hsuffix
    · exact hapart b hb a ha hsuffix
    · exact (hapart a ha b hb hsuffix).symm
  cases hfound : choices.findSome? fun b => (between? opening (closing b) (opening ++ name ++ closing a)).map (make b) with
  | none =>
    have hnone := List.findSome?_eq_none_iff.mp hfound a ha
    rw [htext] at hnone
    cases hnone
  | some made =>
    obtain ⟨b, hb, hmade⟩ := List.exists_of_findSome?_eq_some hfound
    obtain ⟨inside, hinside, rfl⟩ := Option.map_eq_some_iff.mp hmade
    obtain rfl := hothers b hb inside hinside
    rw [Option.some_inj.mp (hinside.symm.trans htext)]

end SoliditySchema.Text
