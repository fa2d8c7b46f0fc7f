/-
  SoliditySchema.Proofs.Json.Written — the texts of a JSON value.

  `Written j t` says that the text `t` is one way to write the value `j`: blanks may stand between any two parts
  of it, the characters of a text literal may be escaped or not, and a number may have an exponent. An object is
  written member by member, in order and with its repetitions, so its value is the list of its members.

  What a value is shows in its first character (`Opening`), and only a few characters may come next behind it
  (`Behind`).
-/

import SoliditySchema.Json
import SoliditySchema.Proofs.Json.Shape

namespace SoliditySchema.Json

open Input Reader

/-! ## Numbers -/

/-- A text of decimal digits. -/
def Digits (ds : List Char) : Prop := ds ≠ [] ∧ ∀ c ∈ ds, isDigit c = true

/-- The number that digits are read as. -/
def valueOf (ds : List Char) : Nat := ds.foldl (fun n c => 10 * n + (c.toNat - 48)) 0

/-- The sign of a number, as a factor. -/
inductive Sign : List Char → Int → Prop
  | none : Sign [] 1
  | minus : Sign ['-'] (-1)

/-- The digits before the point: a zero alone, or digits that do not begin with one. -/
inductive Whole : List Char → Prop
  | zero : Whole ['0']
  | digits {ds : List Char} : Digits ds → ds.head? ≠ some '0' → Whole ds

/-- The fraction of a number, with its digits. -/
inductive Fraction : List Char → List Char → Prop
  | none : Fraction [] []
  | digits {ds : List Char} : Digits ds → Fraction ('.' :: ds) ds

/-- The exponent of a number. -/
inductive Exponent : List Char → Int → Prop
  | none : Exponent [] 0
  | plain {e : Char} {ds : List Char} : e = 'e' ∨ e = 'E' → Digits ds → Exponent (e :: ds) (valueOf ds)
  | plus {e : Char} {ds : List Char} : e = 'e' ∨ e = 'E' → Digits ds → Exponent (e :: '+' :: ds) (valueOf ds)
  | minus {e : Char} {ds : List Char} : e = 'e' ∨ e = 'E' → Digits ds → Exponent (e :: '-' :: ds) (-(valueOf ds))

/-- The number `sign * digits / 10 ^ places`. -/
def scaled (sign : Int) (digits : Nat) (places : Int) : Json :=
  .number (sign * (digits * Nat.pow 10 (-places).toNat : Nat)) places.toNat

/-! ## Values -/

mutual

/-- A text writes a value. -/
inductive Written : Json → List Char → Prop
  | null : Written .null ['n', 'u', 'l', 'l']
  | yes : Written (.bool true) ['t', 'r', 'u', 'e']
  | no : Written (.bool false) ['f', 'a', 'l', 's', 'e']
  | number {s w f ds x : List Char} {sign exponent : Int} : Sign s sign → Whole w → Fraction f ds → Exponent x exponent →
      Written (scaled sign (valueOf (w ++ ds)) (ds.length - exponent)) (s ++ (w ++ (f ++ x)))
  | string {s : String} {t : List Char} : Spells t s.toList → Written (.string s) ('"' :: (t ++ ['"']))
  | array {js : List Json} {t : List Char} : WrittenElements true js t → Written (.array js) ('[' :: t)
  | object {ms : List (String × Json)} {t : List Char} : WrittenMembers true ms t → Written (.object ms) ('{' :: t)

/-- A text writes what is left of an array, up to and with its end. -/
inductive WrittenElements : Bool → List Json → List Char → Prop
  | close {first : Bool} {b : List Char} : Blanks b → WrittenElements first [] (b ++ [']'])
  | element {first : Bool} {lead t rest : List Char} {j : Json} {js : List Json} : Lead first lead → Written j t →
      WrittenElements false js rest → WrittenElements first (j :: js) (lead ++ (t ++ rest))

/-- A text writes what is left of an object, up to and with its end. -/
inductive WrittenMembers : Bool → List (String × Json) → List Char → Prop
  | close {first : Bool} {b : List Char} : Blanks b → WrittenMembers first [] (b ++ ['}'])
  | member {first : Bool} {lead k b b' t rest : List Char} {key : String} {j : Json} {ms : List (String × Json)} :
      Lead first lead → Spells k key.toList → Blanks b → Blanks b' → Written j t → WrittenMembers false ms rest →
      WrittenMembers first ((key, j) :: ms) (lead ++ '"' :: (k ++ '"' :: (b ++ ':' :: (b' ++ (t ++ rest)))))

end

/-- A whole text writes a value, with blanks around it. -/
def WrittenText (j : Json) (text : String) : Prop :=
  ∃ b t b', Blanks b ∧ Written j t ∧ Blanks b' ∧ text.toList = b ++ (t ++ b')

/-! ## The characters between values -/

/-- The characters that may come next behind a value: the blanks, a comma and the ends of the containers. -/
def followers : List Char := [' ', '\n', '\t', '\r', ',', ']', '}']

/-- What may stand behind a value. -/
def Behind (r : List Char) : Prop := ∀ c ∈ r.head?, c ∈ followers

theorem Behind.avoids {r : List Char} (h : Behind r) {p : Char → Bool} (hp : (followers.all fun c => !p c) = true) :
    ∀ c ∈ r.head?, p c = false := by
  intro c hc
  have := List.all_eq_true.mp hp c (h c hc)
  rwa [Bool.not_eq_true'] at this

theorem mem_followers {c : Char} (h : isBlank c = true) : c ∈ followers := by
  simp only [isBlank, Bool.or_eq_true, beq_iff_eq] at h
  rcases h with ((rfl | rfl) | rfl) | rfl <;> decide

theorem behind_append {b r : List Char} {c : Char} (hb : Blanks b) (hc : c ∈ followers) : Behind (b ++ c :: r) := by
  intro d hd
  cases b with
  | nil =>
    obtain rfl := Option.some_inj.mp hd
    exact hc
  | cons x b =>
    obtain rfl := Option.some_inj.mp hd
    exact mem_followers (hb _ List.mem_cons_self)

theorem behind_blanks {b : List Char} (hb : Blanks b) : Behind b :=
  fun c hc => mem_followers (hb c (List.mem_of_mem_head? hc))

theorem behind_lead {lead r : List Char} (h : Lead false lead) : Behind (lead ++ r) := by
  cases h with
  | next hb hb' =>
    rw [List.append_assoc]
    exact behind_append hb (by decide)

theorem WrittenElements.behind {js : List Json} {t : List Char} (h : WrittenElements false js t) (r : List Char) :
    Behind (t ++ r) := by
  cases h with
  | close hb =>
    rw [List.append_assoc]
    exact behind_append hb (by decide)
  | element hl _ _ =>
    rw [List.append_assoc]
    exact behind_lead hl

theorem WrittenMembers.behind {ms : List (String × Json)} {t : List Char} (h : WrittenMembers false ms t) (r : List Char) :
    Behind (t ++ r) := by
  cases h with
  | close hb =>
    rw [List.append_assoc]
    exact behind_append hb (by decide)
  | member hl _ _ _ _ _ =>
    rw [List.append_assoc]
    exact behind_lead hl

/-! ## The first character of a value -/

/-- There are ten digits. -/
theorem digit_cases {c : Char} (h : isDigit c = true) : c ∈ ['0', '1', '2', '3', '4', '5', '6', '7', '8', '9'] := by
  simp only [isDigit, Bool.and_eq_true, decide_eq_true_eq, Char.le_def, UInt32.le_iff_toNat_le] at h
  obtain ⟨hlow, hhigh⟩ := h
  have hc : c = Char.ofNat c.toNat := (Char.ofNat_toNat c).symm
  have hall : ∀ n < 58, 48 ≤ n → Char.ofNat n ∈ ['0', '1', '2', '3', '4', '5', '6', '7', '8', '9'] := by decide
  rw [hc]
  exact hall _ (Nat.lt_succ_of_le hhigh) hlow

theorem isBlank_of_isDigit {c : Char} (h : isDigit c = true) : isBlank c = false := by
  rw [Bool.eq_false_iff]
  intro hblank
  simp only [isBlank, Bool.or_eq_true, beq_iff_eq] at hblank
  rcases hblank with ((rfl | rfl) | rfl) | rfl <;> cases h

/-- The character with which a value begins tells what it is. -/
inductive Opening : Json → Char → Prop
  | null : Opening .null 'n'
  | yes : Opening (.bool true) 't'
  | no : Opening (.bool false) 'f'
  | minus {m : Int} {p : Nat} : Opening (.number m p) '-'
  | digit {m : Int} {p : Nat} {c : Char} : isDigit c = true → Opening (.number m p) c
  | string {s : String} : Opening (.string s) '"'
  | array {js : List Json} : Opening (.array js) '['
  | object {ms : List (String × Json)} : Opening (.object ms) '{'

theorem Whole.exists_digit {w : List Char} (h : Whole w) : ∃ c cs, w = c :: cs ∧ isDigit c = true := by
  cases h with
  | zero => exact ⟨'0', [], rfl, rfl⟩
  | digits hds _ =>
    cases w with
    | nil => exact absurd rfl hds.1
    | cons c cs => exact ⟨c, cs, rfl, hds.2 c List.mem_cons_self⟩

theorem Written.opening {j : Json} {t : List Char} (h : Written j t) : ∃ c cs, t = c :: cs ∧ Opening j c := by
  cases h with
  | null => exact ⟨_, _, rfl, .null⟩
  | yes => exact ⟨_, _, rfl, .yes⟩
  | no => exact ⟨_, _, rfl, .no⟩
  | number hs hw _ _ =>
    cases hs with
    | none =>
      obtain ⟨c, cs, rfl, hc⟩ := hw.exists_digit
      exact ⟨c, _, rfl, .digit hc⟩
    | minus => exact ⟨_, _, rfl, .minus⟩
  | string _ => exact ⟨_, _, rfl, .string⟩
  | array _ => exact ⟨_, _, rfl, .array⟩
  | object _ => exact ⟨_, _, rfl, .object⟩

theorem Opening.isBlank_eq_false {j : Json} {c : Char} (h : Opening j c) : isBlank c = false := by
  cases h with
  | digit hc => exact isBlank_of_isDigit hc
  | _ => rfl

theorem Opening.ne_close {j : Json} {c : Char} (h : Opening j c) : c ≠ ']' := by
  cases h with
  | digit hc => exact fun hclose => absurd hc (by rw [hclose]; decide)
  | _ => decide

theorem ne_of_isDigit {c d : Char} (hc : isDigit c = true) (hd : isDigit d = false) : c ≠ d := by
  rintro rfl
  rw [hc] at hd
  cases hd

/-- A number begins with none of the characters that other values begin with. -/
theorem Opening.ne_of_number {m : Int} {p : Nat} {c d : Char} (h : Opening (.number m p) c) (hd : isDigit d = false)
    (hsign : d ≠ '-') : c ≠ d := by
  cases h with
  | minus => exact hsign.symm
  | digit hc => exact ne_of_isDigit hc hd

end SoliditySchema.Json
