/-
  SoliditySchema.Proofs.Grammar.Automaton — the automaton advances the rules of the grammar.

  One check over all states, `sound_states`, is run once: whatever leads into a state advances every rule
  that is under way there, and a rule that is complete in a state is under way there with all its symbols.
  What is known about the tables is read off from it: `advance` about a symbol that is read or put together,
  `kernel_of_complete` about a rule that is complete.
-/

import Mathlib.Algebra.Order.Ring.Int
import Mathlib.Data.List.GetD
import SoliditySchema.Grammar.Kernel
import SoliditySchema.Grammar.Reading

namespace SoliditySchema.Grammar

/-! ## Codes of symbols -/

theorem Terminal.code_lt (t : Terminal) : t.code < 129 := by
  cases t with
  | operator o => cases o <;> decide
  | keyword k => cases k <;> decide
  | _ => decide

/-- The terminal with a given code. -/
def Terminal.ofCode (code : Nat) : Terminal :=
  if code < 11 then
    [.identifier, .atWord, .text, .hexText, .addressText, .number, .rational, .hexNumber, .uint, .int, .bytes].getD
      code .failure
  else if code < 59 then .operator (Operator.ofNat (code - 11))
  else if code < 127 then .keyword (Keyword.ofNat (code - 59))
  else if code = 127 then .failure
  else .finish

theorem Terminal.ofCode_code (t : Terminal) : ofCode t.code = t := by
  cases t with
  | operator o => cases o <;> rfl
  | keyword k => cases k <;> rfl
  | _ => rfl

/-- Every terminal, in the order of their codes. -/
def Terminal.all : List Terminal := (List.range 129).map ofCode

theorem Terminal.mem_all (t : Terminal) : t ∈ Terminal.all :=
  List.mem_map.mpr ⟨t.code, List.mem_range.mpr t.code_lt, t.ofCode_code⟩

/-- Every nonterminal. -/
def Nonterminal.all : List Nonterminal := (List.range 161).map Nonterminal.ofNat

theorem Nonterminal.mem_all (n : Nonterminal) : n ∈ Nonterminal.all := by
  have hlt : n.ctorIdx < 161 := by cases n <;> decide
  exact List.mem_map.mpr ⟨n.ctorIdx, List.mem_range.mpr hlt, n.ofNat_ctorIdx⟩

/-- The code of a symbol; nonterminals have theirs after the terminals. -/
def Symbol.code : Symbol → Nat
  | .terminal t => t.code
  | .nonterminal n => 256 + n.ctorIdx

theorem Symbol.code_inj {X Y : Symbol} (h : X.code = Y.code) : X = Y := by
  cases X with
  | terminal t =>
    have ht := t.code_lt
    cases Y with
    | terminal u => rw [← t.ofCode_code, ← u.ofCode_code]; exact congrArg _ (congrArg Terminal.ofCode h)
    | nonterminal n => simp only [code] at h; omega
  | nonterminal m =>
    cases Y with
    | terminal u =>
      have hu := u.code_lt
      simp only [code] at h
      omega
    | nonterminal n =>
      have hmn : m.ctorIdx = n.ctorIdx := by simp only [code] at h; omega
      rw [← Nonterminal.ofNat_ctorIdx m, hmn, Nonterminal.ofNat_ctorIdx]

namespace Automaton

/-! ## Ways through the automaton -/

/-- The state after a symbol. -/
def goto (s : Nat) : Symbol → Option Nat
  | .terminal t => read? s t
  | .nonterminal n => join? s n

/-- The state after some symbols. -/
def path (s : Nat) : List Symbol → Option Nat
  | [] => some s
  | X :: Xs => (goto s X).bind fun s' => path s' Xs

theorem path_append {s : Nat} {Xs Ys : List Symbol} : path s (Xs ++ Ys) = (path s Xs).bind fun s' => path s' Ys := by
  induction Xs generalizing s with
  | nil => rfl
  | cons X Xs ih => cases h : goto s X <;> simp [path, h, ih]

/-- The symbols of a rule. -/
def symbolsOf (n : Nonterminal) (place : Nat) : List Symbol :=
  match (Rule.all n)[place]? with
  | some rule => rule.symbols
  | none => []

/-- The number of states, in whole blocks. -/
def size : Nat := 992

theorem state_beyond {s : Nat} (h : size ≤ s) : state s = ⟨0, 0, []⟩ := by
  have hdiv : blocks.length ≤ s / 32 := by
    have : blocks.length = 31 := by decide +kernel
    unfold size at h
    omega
  rw [state, List.getD_eq_default _ _ hdiv]
  rfl

theorem kernel_beyond {s : Nat} (h : size ≤ s) : kernel s = [] := by
  have hdiv : kernels.length ≤ s / 32 := by
    have : kernels.length = 31 := by decide +kernel
    unfold size at h
    omega
  rw [kernel, List.getD_eq_default _ _ hdiv]
  rfl

/-! ## Going over a map -/

/-- A property of all codes and the digits at them, of a map with `2 ^ level` codes that begin with
`code`. Where the map is 0 there is nothing to look at. -/
def everyDigit (f : Nat → Nat → Bool) : Nat → Nat → Nat → Bool
  | 0, code, map =>
    match map % 1024 with
    | 0 => true
    | s + 1 => f code (s + 1)
  | level + 1, code, map => Nat.beq map 0 ||
    (everyDigit f level code (map % 2 ^ (10 * 2 ^ level)) &&
      everyDigit f level (code + 2 ^ level) (map / 2 ^ (10 * 2 ^ level)))

theorem digit?_eq_some {map code s : Nat} : digit? map code = some s ↔ map / 2 ^ (10 * code) % 1024 = s ∧ s ≠ 0 := by
  unfold digit?
  rw [Nat.shiftRight_eq_div_pow]
  split
  · rename_i h
    rw [h]
    constructor
    · intro h'; cases h'
    · rintro ⟨rfl, h'⟩; exact absurd rfl h'
  · rename_i next hne
    constructor
    · intro h'; injection h' with h'; subst h'; exact ⟨rfl, hne⟩
    · rintro ⟨rfl, -⟩; rfl

theorem digit?_low {map level i : Nat} (h : i < 2 ^ level) :
    digit? (map % 2 ^ (10 * 2 ^ level)) i = digit? map i := by
  have hsplit : 10 * 2 ^ level = 10 * i + (10 + 10 * (2 ^ level - i - 1)) := by omega
  have hdigit : map % 2 ^ (10 * 2 ^ level) / 2 ^ (10 * i) % 1024 = map / 2 ^ (10 * i) % 1024 := by
    rw [hsplit, Nat.pow_add, Nat.mod_mul_right_div_self]
    exact Nat.mod_mod_of_dvd _ (Nat.pow_dvd_pow 2 (by omega : 10 ≤ 10 + 10 * (2 ^ level - i - 1)))
  rw [digit?, digit?, Nat.shiftRight_eq_div_pow, Nat.shiftRight_eq_div_pow, hdigit]

theorem digit?_high (map level i : Nat) :
    digit? (map / 2 ^ (10 * 2 ^ level)) i = digit? map (2 ^ level + i) := by
  rw [digit?, digit?, Nat.shiftRight_eq_div_pow, Nat.shiftRight_eq_div_pow, Nat.div_div_eq_div_mul, ← Nat.pow_add,
    Nat.mul_add]

theorem of_everyDigit {f : Nat → Nat → Bool} {level code map i s : Nat} (h : everyDigit f level code map = true)
    (hi : i < 2 ^ level) (hs : digit? map i = some s) : f (code + i) s = true := by
  induction level generalizing code map i with
  | zero =>
    have hi : i = 0 := by omega
    subst hi
    obtain ⟨hdigit, hne⟩ := digit?_eq_some.mp hs
    rw [Nat.mul_zero, Nat.pow_zero, Nat.div_one] at hdigit
    obtain ⟨s, rfl⟩ := Nat.exists_eq_succ_of_ne_zero hne
    rw [everyDigit, hdigit] at h
    exact h
  | succ level ih =>
    rw [everyDigit, Bool.or_eq_true, Bool.and_eq_true] at h
    rcases h with h | ⟨hlow, hhigh⟩
    · have hzero : map = 0 := Nat.eq_of_beq_eq_true h
      subst hzero
      simp [digit?] at hs
    · rcases Nat.lt_or_ge i (2 ^ level) with hlt | hge
      · exact ih hlow hlt (by rw [digit?_low hlt]; exact hs)
      · obtain ⟨j, rfl⟩ := Nat.exists_eq_add_of_le hge
        have hj : j < 2 ^ level := by rw [Nat.pow_succ] at hi; omega
        have := ih hhigh hj (by rw [digit?_high]; exact hs)
        rwa [Nat.add_assoc] at this

/-! ## What leads into a state -/

/-- The code of the last symbol read of a rule under way, which is no code if none has been read. -/
def lastCode (p : Progress) : Nat :=
  match p.read with
  | 0 => 1000
  | d + 1 => ((symbolsOf p.nonterminal p.rule)[d]?.map Symbol.code).getD 1000

/-- The code of the symbol that leads into a state: the last one read of every rule under way there. -/
def entryCode (s : Nat) : Nat :=
  match kernel s with
  | p :: _ => lastCode p
  | [] => 1000

/-- The same rule with `d` symbols read is under way. -/
def underWay (s : Nat) (n : Nonterminal) (place d : Nat) : Bool :=
  (kernel s).any fun p => Nat.beq p.rule place && Nat.beq p.read d && Nat.beq p.nonterminal.ctorIdx n.ctorIdx

/-- A nonterminal that can be joined to a state. -/
def joinable (s : Nat) (n : Nonterminal) : Bool := (join? s n).isSome

/-- A symbol that leads from `s` to `s'` advances all that is under way in `s'`. A rule that it begins
can be joined to `s` when it is complete, unless it is that of the whole file. -/
def advances (s code s' : Nat) : Bool :=
  Nat.beq (entryCode s') code &&
  (kernel s').all fun p =>
    match p.read with
    | 0 => false
    | 1 => joinable s p.nonterminal || (Nat.beq s 0 && p.nonterminal == .start)
    | d + 2 => underWay s p.nonterminal p.rule (d + 1)

/-- Everything that leads out of a state advances what it should, all that is under way in the state has
come to the symbol that leads into it, and what is complete there is under way. -/
def soundState (s : Nat) : Bool :=
  everyDigit (advances s) 8 0 (state s).reads &&
  everyDigit (fun code => advances s (256 + code)) 8 0 (state s).joins &&
  (kernel s).all (fun p => Nat.beq p.read 0 || Nat.beq (lastCode p) (entryCode s)) &&
  (state s).completions.all fun c =>
    match (Rule.all c.nonterminal)[c.rule]? with
    | none => false
    | some rule =>
      match rule.symbols.length with
      | 0 => joinable s c.nonterminal
      | d + 1 => underWay s c.nonterminal c.rule (d + 1)

theorem sound_states : (List.range size).all soundState = true := by decide +kernel

theorem soundState_eq (s : Nat) : soundState s = true := by
  rcases Nat.lt_or_ge s size with h | h
  · exact List.all_eq_true.mp sound_states s (List.mem_range.mpr h)
  · rw [soundState, state_beyond h, kernel_beyond h]
    rfl

theorem mem_kernel_of_underWay {s : Nat} {n : Nonterminal} {place d : Nat} (h : underWay s n place d = true) :
    ⟨n, place, d⟩ ∈ kernel s := by
  obtain ⟨p, hp, h⟩ := List.any_eq_true.mp h
  simp only [Bool.and_eq_true, Nat.beq_eq] at h
  obtain ⟨⟨rfl, rfl⟩, hn⟩ := h
  have hn : p.nonterminal = n := by rw [← Nonterminal.ofNat_ctorIdx p.nonterminal, hn, Nonterminal.ofNat_ctorIdx]
  rw [← hn]
  exact hp

theorem goto_advances {s s' : Nat} {X : Symbol} (h : goto s X = some s') : advances s X.code s' = true := by
  have hs := soundState_eq s
  simp only [soundState, Bool.and_eq_true] at hs
  cases X with
  | terminal t =>
    have := of_everyDigit hs.1.1.1 (Nat.lt_trans t.code_lt (by decide)) h
    rwa [Nat.zero_add] at this
  | nonterminal n =>
    have hn : n.ctorIdx < 2 ^ 8 := by cases n <;> decide
    have := of_everyDigit hs.1.1.2 hn h
    rwa [Nat.zero_add] at this

theorem goto_ne_zero {s : Nat} {X : Symbol} : goto s X ≠ some 0 := by
  intro h
  cases X with
  | terminal t => exact (digit?_eq_some.mp h).2 rfl
  | nonterminal n => exact (digit?_eq_some.mp h).2 rfl

/-- Nothing goes on with the whole file. -/
theorem join_start (s : Nat) : join? s .start = none := by
  have hall : (List.range size).all (fun s => (join? s .start).isNone) = true := by decide +kernel
  rcases Nat.lt_or_ge s size with h | h
  · exact Option.isNone_iff_eq_none.mp (List.all_eq_true.mp hall s (List.mem_range.mpr h))
  · rw [join?, state_beyond h, digit?, Nat.zero_shiftRight]
    rfl

/-- All that is under way behind a symbol was under way before it, or begins with it; what begins with it
can be joined when it is complete. -/
theorem advance {s s' : Nat} {X : Symbol} (h : goto s X = some s') {n : Nonterminal} {place d : Nat}
    (hp : ⟨n, place, d⟩ ∈ kernel s') :
    ∃ e, d = e + 1 ∧ (symbolsOf n place)[e]? = some X ∧
      (e = 0 → joinable s n = true ∨ s = 0 ∧ n = .start) ∧ (e ≠ 0 → ⟨n, place, e⟩ ∈ kernel s) := by
  have hadv := goto_advances h
  rw [advances, Bool.and_eq_true] at hadv
  obtain ⟨hentry, hadv⟩ := hadv
  have hread := List.all_eq_true.mp hadv _ hp
  -- the last symbol read is the one that leads into the state
  have hlast : lastCode ⟨n, place, d⟩ = X.code := by
    have hs := soundState_eq s'
    simp only [soundState, Bool.and_eq_true] at hs
    have := List.all_eq_true.mp hs.1.2 _ hp
    rw [Bool.or_eq_true] at this
    rcases this with hz | hz
    · rw [Nat.eq_of_beq_eq_true hz] at hread
      cases hread
    · rw [Nat.eq_of_beq_eq_true hz, Nat.eq_of_beq_eq_true hentry]
  have hX : X.code < 1000 := by
    cases X with
    | terminal t => exact Nat.lt_trans t.code_lt (by decide)
    | nonterminal m => cases m <;> decide
  cases d with
  | zero => cases hread
  | succ e =>
    refine ⟨e, rfl, ?_, ?_, ?_⟩
    · simp only [lastCode] at hlast
      cases hsym : (symbolsOf n place)[e]? with
      | none =>
        rw [hsym] at hlast
        simp only [Option.map_none, Option.getD_none] at hlast
        omega
      | some Y =>
        rw [hsym] at hlast
        rw [Symbol.code_inj hlast]
    · rintro rfl
      simp only [Bool.or_eq_true, Bool.and_eq_true, Nat.beq_eq, beq_iff_eq] at hread
      exact hread
    · intro he
      obtain ⟨f, rfl⟩ := Nat.exists_eq_succ_of_ne_zero he
      exact mem_kernel_of_underWay hread

/-- The rule that a state completes before a terminal, as its nonterminal and its place. -/
def completion? (s : Nat) (a : Terminal) : Option (Nonterminal × Nat) :=
  match read? s a with
  | some _ => none
  | none => complete? s a

theorem action_eq_complete {s : Nat} {a : Terminal} {n : Nonterminal} {rule : Rule} :
    action s a = .complete n rule ↔ ∃ place, completion? s a = some (n, place) ∧ (Rule.all n)[place]? = some rule := by
  unfold action completion?
  cases hr : read? s a with
  | some next =>
    constructor
    · intro h; cases h
    · rintro ⟨_, h, _⟩; cases h
  | none =>
    cases hc : complete? s a with
    | none =>
      constructor
      · intro h; cases h
      · rintro ⟨_, h, _⟩; cases h
    | some c =>
      obtain ⟨m, place⟩ := c
      constructor
      · intro h
        cases hrule : (Rule.all m)[place]? with
        | none => simp only [hrule] at h; cases h
        | some rule' =>
          simp only [hrule] at h
          injection h with hm hr
          subst hm hr
          exact ⟨place, rfl, hrule⟩
      · rintro ⟨_, h, hrule⟩
        injection h with h
        injection h with hm hplace
        subst hm hplace
        simp only [hrule]

/-- A rule that is complete is one of its nonterminal and is under way with all its symbols; one without
symbols can be joined right there. -/
theorem kernel_of_complete {s : Nat} {a : Terminal} {n : Nonterminal} {rule : Rule} (h : action s a = .complete n rule) :
    ∃ place, (Rule.all n)[place]? = some rule ∧ (rule.symbols = [] → joinable s n = true) ∧
      (rule.symbols ≠ [] → ⟨n, place, rule.symbols.length⟩ ∈ kernel s) := by
  obtain ⟨place, hc, hrule⟩ := action_eq_complete.mp h
  unfold completion? at hc
  split at hc
  · cases hc
  · obtain ⟨c, hfind, hcplace⟩ := Option.map_eq_some_iff.mp hc
    injection hcplace with hn hplace
    subst hn hplace
    have hs := soundState_eq s
    simp only [soundState, Bool.and_eq_true] at hs
    have hcomplete := List.all_eq_true.mp hs.2 c (List.mem_of_find?_eq_some hfind)
    rw [hrule] at hcomplete
    refine ⟨c.rule, hrule, fun hnil => ?_, fun hne => ?_⟩
    · simpa [hnil] using hcomplete
    · cases hlen : rule.symbols.length with
      | zero => exact absurd (List.length_eq_zero_iff.mp hlen) hne
      | succ d =>
        simp only [hlen] at hcomplete
        exact mem_kernel_of_underWay hcomplete

theorem mem_of_complete {s : Nat} {a : Terminal} {n : Nonterminal} {rule : Rule} (h : action s a = .complete n rule) :
    rule ∈ Rule.all n := by
  obtain ⟨place, hplace, -⟩ := kernel_of_complete h
  exact List.mem_of_getElem? hplace

end Automaton

end SoliditySchema.Grammar
