/-
  SoliditySchema.Proofs.Grammar.Reading — what comes of reading the tokens of a file.
-/

import SoliditySchema.Grammar.Reading

namespace SoliditySchema

namespace Grammar.Reading

/-! ## One step -/

section Steps

variable {last n : Nat} {stack : Stack} {errors : List SyntaxError} {tokens : List PlacedToken}

/-- What is done about a token that cannot be read. -/
def runOn (last n : Nat) (stack : Stack) (errors : List SyntaxError) (tokens : List PlacedToken) :
    List SyntaxError × Option SourceTree :=
  match skipTo? n (settle n stack errors).1 tokens with
  | some (below, state, rest) =>
    run last n (⟨state, .failure (unexpected last tokens)⟩ :: below) (settle n stack errors).2 rest
  | none => ((settle n stack errors).2 ++ [unexpected last tokens], none)

/-- All that a step can do: read a token, complete a rule, end, or go on behind a failure. -/
theorem run_cases (last n : Nat) (stack : Stack) (errors : List SyntaxError) (tokens : List PlacedToken) :
    (∃ state t rest, tokens = t :: rest ∧ Automaton.action stack.state (.ofToken t.token) = .read state ∧
      run last (n + 1) stack errors tokens = run last n (⟨state, .token t⟩ :: stack) errors rest) ∨
    (∃ m rule, Automaton.action stack.state (next tokens) = .complete m rule ∧ m ≠ .start ∧
      run last (n + 1) stack errors tokens = run last n (stack.join m rule) (errors ++ stack.failures rule) tokens) ∨
    (∃ rule, Automaton.action stack.state (next tokens) = .complete .start rule ∧
      run last (n + 1) stack errors tokens = (errors, some (treeOf stack))) ∨
    run last (n + 1) stack errors tokens = runOn last n stack errors tokens := by
  rw [run.eq_def]
  cases ha : Automaton.action stack.state (next tokens) with
  | read state =>
    cases tokens with
    | nil => exact Or.inr (Or.inr (Or.inr (by simp only [ha]; rfl)))
    | cons t rest => exact Or.inl ⟨state, t, rest, rfl, ha, by simp only [ha]⟩
  | complete m rule =>
    by_cases hm : m = .start
    · subst hm
      exact Or.inr (Or.inr (Or.inl ⟨rule, rfl, by simp only [ha, if_true]⟩))
    · exact Or.inr (Or.inl ⟨m, rule, rfl, hm, by simp only [ha, if_neg hm]⟩)
  | stuck => exact Or.inr (Or.inr (Or.inr (by simp only [ha]; rfl)))

end Steps

/-! ## Going on behind an error -/

/-- Where reading restarts: at a lower part of the stack, behind text that cannot be read. -/
theorem restart?_some {n : Nat} {stack below : Stack} {t : Terminal} {s : Nat} (h : restart? n stack t = some (below, s)) :
    ∃ k, below = stack.drop k ∧ Automaton.read? (Stack.state below) .failure = some s := by
  fun_induction restart? n stack t with
  | case1 stack here next hnext =>
    injection h with h
    injection h with hb hs
    subst hb hs
    exact ⟨0, rfl, (Option.filter_eq_some_iff.mp hnext).1⟩
  | case2 => cases h
  | case3 f below' here _ ih =>
    obtain ⟨k, hk, hread⟩ := ih h
    exact ⟨k + 1, hk, hread⟩

/-- Skipping gives up tokens and the top of the stack. -/
theorem skipTo?_some {n : Nat} {stack below : Stack} {s : Nat} {tokens rest : List PlacedToken}
    (h : skipTo? n stack tokens = some (below, s, rest)) :
    ∃ k, below = stack.drop k ∧ Automaton.read? (Stack.state below) .failure = some s ∧ ∃ j, rest = tokens.drop j := by
  induction tokens with
  | nil =>
    rw [skipTo?] at h
    obtain ⟨r, hr, he⟩ := Option.map_eq_some_iff.mp h
    injection he with hb he
    injection he with hs he
    subst hb hs he
    obtain ⟨k, hk, hread⟩ := restart?_some hr
    exact ⟨k, hk, hread, 0, rfl⟩
  | cons t ts ih =>
    rw [skipTo?] at h
    split at h
    · rename_i r hr
      injection h with h
      injection h with hb he
      injection he with hs he
      subst hb hs he
      obtain ⟨k, hk, hread⟩ := restart?_some hr
      exact ⟨k, hk, hread, 0, rfl⟩
    · obtain ⟨k, hk, hread, j, hj⟩ := ih h
      exact ⟨k, hk, hread, j + 1, hj⟩

/-- Where no text may stand that cannot be read, reading does not go on behind an error. -/
theorem skipTo?_none {stack : Stack} (h : ∀ j, Automaton.read? (Stack.state (stack.drop j)) .failure = none) (n : Nat)
    (tokens : List PlacedToken) : skipTo? n stack tokens = none := by
  cases hskip : skipTo? n stack tokens with
  | none => rfl
  | some r =>
    obtain ⟨k, hk, hread, -⟩ := skipTo?_some hskip
    rw [hk, h k] at hread
    cases hread

/-- Behind a token that cannot be read where no text may be skipped there is one error, that of the token. -/
theorem run_stuck {last n : Nat} {stack : Stack} {tokens : List PlacedToken}
    (hstuck : Automaton.action stack.state (next tokens) = .stuck) (hfail : Automaton.action stack.state .failure = .stuck)
    (h : ∀ j, Automaton.read? (Stack.state (stack.drop j)) .failure = none) :
    run last n stack [] tokens = ([unexpected last tokens], none) := by
  cases n with
  | zero => rfl
  | succ n =>
    have hsettle : settle n stack [] = (stack, []) := by
      cases n with
      | zero => rfl
      | succ n => rw [settle, hfail]
    rw [run.eq_def]
    simp only [hstuck, hsettle, skipTo?_none h]
    rfl

/-! ## Results -/

/-- Without a tree there is an error. -/
theorem run_none {last n : Nat} {stack : Stack} {errors errors' : List SyntaxError} {tokens : List PlacedToken}
    (h : run last n stack errors tokens = (errors', none)) : errors' ≠ [] := by
  induction n generalizing stack errors tokens with
  | zero =>
    rw [run, Prod.mk.injEq] at h
    rw [← h.1]
    simp
  | succ n ih =>
    rcases run_cases last n stack errors tokens with
      ⟨_, _, _, _, _, hrun⟩ | ⟨_, _, _, _, hrun⟩ | ⟨_, _, hrun⟩ | hrun <;> rw [hrun] at h
    · exact ih h
    · exact ih h
    · cases h
    · unfold runOn at h
      split at h
      · exact ih h
      · rw [Prod.mk.injEq] at h
        rw [← h.1]
        simp

end Grammar.Reading

namespace SourceTree

/-- A text is a source file exactly if neither its characters nor its tokens have an error. -/
theorem ofText_ok_iff {text : List Char} {tree : SourceTree} :
    ofText text = .ok tree ↔
      (Scan.ofText text).faults = [] ∧ Grammar.Reading.ofTokens (Scan.ofText text).tokens = ([], some tree) := by
  unfold ofText
  cases hread : Grammar.Reading.ofTokens (Scan.ofText text).tokens with
  | mk errors tree? =>
    cases tree? with
    | none => simp [hread]
    | some tree' =>
      cases hall : (Scan.ofText text).faults ++ errors with
      | nil =>
        obtain ⟨hfaults, rfl⟩ := List.append_eq_nil_iff.mp hall
        simp [hread, hfaults]
      | cons e es =>
        simp only [hread, hall, reduceCtorEq, Prod.mk.injEq, false_iff, not_and]
        rintro hfaults rfl
        rw [hfaults] at hall
        cases hall

/-- The errors of a text that is no source file are those of its characters and then those of its tokens. -/
theorem ofText_errors {text : List Char} {es : List SyntaxError} (h : ofText text = .error es) :
    es = (Scan.ofText text).faults ++ (Grammar.Reading.ofTokens (Scan.ofText text).tokens).1 := by
  unfold ofText at h
  simp only at h
  split at h
  · rename_i errors tree hread
    split at h
    · cases h
    · rename_i hes
      injection h with h
      rw [← h, ← hes, hread]
  · rename_i errors hread
    injection h with h
    rw [← h, hread]

/-- A text that is no source file has an error. -/
theorem ofText_error {text : List Char} {es : List SyntaxError} (h : ofText text = .error es) : es ≠ [] := by
  unfold ofText at h
  simp only at h
  split at h
  · split at h
    · cases h
    · injection h with h
      rw [← h]
      simp
  · rename_i errors hrun
    injection h with h
    rw [← h]
    exact List.append_ne_nil_of_right_ne_nil _ (Grammar.Reading.run_none hrun)

end SourceTree

end SoliditySchema
