/-
  SoliditySchema.Proofs.Grammar.Steps — how many steps the automaton makes.

  A token is worth 25 steps: one to read it, the others to complete rules. What a nonterminal saves of them is
  its credit; a rule hands on the credit of its symbols but for the step that completes it. So tokens are
  built in at most 25 steps each, which is less than `Reading.fuel` allows, and `builds_run` follows: what is
  built from the first state on is read without any error.
-/

import SoliditySchema.Proofs.Grammar.Building

namespace SoliditySchema.Grammar

open Automaton

/-- What every nonterminal saves of the steps of its tokens, in the order of the nonterminals. -/
def credits : List Int := [
  23, 23, 23, 23, 24, 18, 24, 19, 19, 23, 20, 21, 24, 22, 22, 17, 16, 23, 15, 14, 13, 12, 11, 10, 9, 8, 7, 5,
  6, 4, 24, 23, 22, 23, 24, 24, 23, 3, 23, 24, 22, 23, 24, 21, 22, 22, 20, 23, 24, 23, 22, 21, 22, 24, 21, 22,
  23, 18, 22, -1, 19, 3, 23, 24, 24, 24, 24, 24, 24, 24, 24, 24, 24, 20, 23, 21, 22, -1, -1, 21, 22, 23, 18,
  18, 3, 21, 21, -1, 23, 24, 24, 21, 23, 23, 24, 23, 22, 23, 24, 24, 24, 23, 24, 24, 24, 24, 24, 24, 24, 24,
  21, 20, 23, 21, 24, -1, 23, -1, 21, 24, 23, 22, 21, 20, 24, 24, 24, 20, 22, -1, -1, -1, 21, 20, 20, -1, 22,
  22, -1, 23, 24, 24, 17, 17, 21, 24, 22, 22, 20, 24, 24, 20, 24, 24, 24, 24, 24, 24, 24, 24, -2]

/-- What a symbol saves of the steps of its tokens. -/
def Symbol.credit : Symbol → Int
  | .terminal _ => 24
  | .nonterminal n => credits.getD n.ctorIdx 0

/-- What symbols save of the steps of their tokens. -/
def creditOf (Xs : List Symbol) : Int := (Xs.map Symbol.credit).sum

@[simp] theorem creditOf_nil : creditOf [] = 0 := rfl
@[simp] theorem creditOf_cons (X : Symbol) (Xs : List Symbol) : creditOf (X :: Xs) = X.credit + creditOf Xs := rfl

theorem creditOf_append (Xs Ys : List Symbol) : creditOf (Xs ++ Ys) = creditOf Xs + creditOf Ys := by
  simp [creditOf]

theorem credit_lt {n : Nonterminal} {rule : Rule} (h : rule ∈ Rule.all n) :
    (Symbol.nonterminal n).credit + 1 ≤ creditOf rule.symbols := by
  have hall : ∀ n ∈ Nonterminal.all, ∀ rule ∈ Rule.all n, (Symbol.nonterminal n).credit + 1 ≤ creditOf rule.symbols := by
    decide +kernel
  exact hall n n.mem_all rule h

/-- Symbols save no more steps than their tokens are worth. -/
theorem Builds.credit_le {s : Nat} {Xs : List Symbol} {w : List Token} {a : Terminal} {vs : List Value}
    (h : Builds s Xs w a vs) : creditOf Xs ≤ 25 * (w.length : Int) := by
  induction h with
  | nil => simp
  | token _ _ ih =>
    rw [creditOf_cons, Symbol.credit, List.length_cons]
    push_cast
    omega
  | rule _ _ hact _ _ _ _ ihsub ih =>
    have := credit_lt (mem_of_complete hact)
    rw [creditOf_cons, List.length_append]
    push_cast
    omega

namespace Reading

/-! ## Steps without an error -/

/-- From a stack and tokens the automaton goes on to others without an error, in so many steps. -/
inductive Moves : Nat → Stack → List PlacedToken → Stack → List PlacedToken → Prop
  | stay (stack : Stack) (tokens : List PlacedToken) : Moves 0 stack tokens stack tokens
  | read {k s : Nat} {stack stack' : Stack} {t : PlacedToken} {tokens tokens' : List PlacedToken} :
      read? stack.state (.ofToken t.token) = some s → Moves k (⟨s, .token t⟩ :: stack) tokens stack' tokens' →
      Moves (k + 1) stack (t :: tokens) stack' tokens'
  | complete {k : Nat} {stack stack' : Stack} {n : Nonterminal} {rule : Rule} {tokens tokens' : List PlacedToken} :
      action stack.state (next tokens) = .complete n rule → n ≠ .start → stack.failures rule = [] →
      Moves k (stack.join n rule) tokens stack' tokens' → Moves (k + 1) stack tokens stack' tokens'

theorem action_of_read {s s' : Nat} {t : Token} (h : read? s (.ofToken t) = some s') : action s (.ofToken t) = .read s' := by
  rw [action, h]

theorem next_append (tokens rest : List PlacedToken) :
    next (tokens ++ rest) = firstOf (tokens.map PlacedToken.token) (next rest) := by
  cases tokens <;> rfl

namespace Moves

variable {k l : Nat} {stack stack' stack'' : Stack} {tokens tokens' tokens'' : List PlacedToken}

theorem append (h : Moves k stack tokens stack' tokens') (h' : Moves l stack' tokens' stack'' tokens'') :
    Moves (l + k) stack tokens stack'' tokens'' := by
  induction h with
  | stay => exact h'
  | read hread _ ih => exact .read hread (ih h')
  | complete hact hn hfail _ ih => exact .complete hact hn hfail (ih h')

/-- Of two ways from the same stack and tokens the shorter is the beginning of the longer. -/
theorem linear (h : Moves k stack tokens stack' tokens') (h' : Moves l stack tokens stack'' tokens'') (hle : k ≤ l) :
    Moves (l - k) stack' tokens' stack'' tokens'' := by
  induction h generalizing l with
  | stay => exact h'
  | read hread _ ih =>
    cases h' with
    | stay => cases hle
    | @read l _ _ _ _ _ _ hread' hrest' =>
      obtain rfl := Option.some_inj.mp (hread.symm.trans hread')
      rw [Nat.add_sub_add_right]
      exact ih hrest' (Nat.le_of_succ_le_succ hle)
    | complete hact => cases (action_of_read hread).symm.trans hact
  | complete hact hn _ _ ih =>
    cases h' with
    | stay => cases hle
    | read hread => cases (action_of_read hread).symm.trans hact
    | @complete l _ _ _ _ _ _ hact' _ _ hrest' =>
      injection hact.symm.trans hact' with hn' hrule
      subst hn' hrule
      rw [Nat.add_sub_add_right]
      exact ih hrest' (Nat.le_of_succ_le_succ hle)

theorem length_le (h : Moves k stack tokens stack' tokens') : tokens'.length ≤ tokens.length := by
  induction h with
  | stay => exact Nat.le_refl _
  | read _ _ ih => exact Nat.le_succ_of_le ih
  | complete _ _ _ _ ih => exact ih

/-- Where nothing can be done the automaton stays. -/
theorem eq_of_stuck (h : Moves k stack tokens stack' tokens') (hstuck : action stack.state (next tokens) = .stuck) :
    tokens' = tokens := by
  cases h with
  | stay => rfl
  | read hread => cases (action_of_read hread).symm.trans hstuck
  | complete hact => cases hact.symm.trans hstuck

/-- Reading makes these steps. -/
theorem run_eq (h : Moves k stack tokens stack' tokens') (last m : Nat) :
    run last (m + k) stack [] tokens = run last m stack' [] tokens' := by
  induction h with
  | stay => rfl
  | read hread _ ih =>
    rw [← ih, ← Nat.add_assoc, run.eq_def]
    simp only [next, action_of_read hread]
  | complete hact hn hfail _ ih =>
    rw [← ih, ← Nat.add_assoc, run.eq_def]
    simp only [hact, if_neg hn, hfail, List.append_nil]

end Moves

theorem run_ends {last n : Nat} {stack : Stack} {errors : List SyntaxError} {tokens : List PlacedToken} {rule : Rule}
    (h : action stack.state (next tokens) = .complete .start rule) :
    run last (n + 1) stack errors tokens = (errors, some (treeOf stack)) := by
  rw [run.eq_def]
  simp only [h, if_true]

/-! ## Building is reading -/

/-- What a stack has on it when symbols were read from its state on, with their values. -/
structure Pushed (stack : Stack) (Xs : List Symbol) (vs : List Value) (frames : Stack) : Prop where
  length_eq : frames.length = Xs.length
  leads : path stack.state Xs = some (Stack.state (frames ++ stack))
  values : (frames.map fun f => f.value.bare) = vs.reverse
  linked : ∀ Zs, Linked stack Zs → Linked (frames ++ stack) (Xs.reverse ++ Zs)

namespace Pushed

variable {stack frames : Stack} {Xs : List Symbol} {us vs : List Value}

theorem nil (stack : Stack) : Pushed stack [] [] [] := ⟨rfl, rfl, rfl, fun _ h => h⟩

/-- A symbol is put on the stack, and then the others. -/
theorem cons {f : Frame} {X : Symbol} {v : Value} (h : Pushed (f :: stack) Xs vs frames)
    (hgoto : goto stack.state X = some f.state) (hvalue : f.value.bare = v)
    (hlinked : ∀ Zs, Linked stack Zs → Linked (f :: stack) (X :: Zs)) :
    Pushed stack (X :: Xs) (v :: vs) (frames ++ [f]) where
  length_eq := by simp [h.length_eq]
  leads := by
    rw [path, hgoto, List.append_assoc]
    exact h.leads
  values := by simp [h.values, hvalue]
  linked := by
    intro Zs hZs
    rw [List.reverse_cons, List.append_assoc, List.append_assoc]
    exact h.linked _ (hlinked Zs hZs)

variable {n : Nonterminal} {rule : Rule}

theorem drop (h : Pushed stack Xs vs frames) : (frames ++ stack).drop Xs.length = stack := by
  rw [← h.length_eq, List.drop_left]

theorem bareValues_eq (h : Pushed stack Xs us frames) : bareValues (frames ++ stack) Xs.length = us := by
  rw [bareValues, ← h.length_eq, List.take_left, h.values, List.reverse_reverse]

/-- Where no value of the symbols is a failure there is none among the frames. -/
theorem clear (h : Pushed stack Xs vs frames) (hvs : ∀ v ∈ vs, v.failure? = none) :
    ∀ frame ∈ frames, frame.value.failure? = none := by
  intro frame hframe
  refine frame.value.failure?_bare.mp (hvs _ ?_)
  rw [← List.mem_reverse, ← h.values]
  exact List.mem_map_of_mem hframe

/-- The symbols of a rule make way for its nonterminal. -/
theorem join (h : Pushed stack rule.symbols us frames) {a : Terminal}
    (hact : action (Stack.state (frames ++ stack)) a = .complete n rule) (hn : n ≠ .start) {s : Nat}
    (hjoin : join? stack.state n = some s) :
    ∃ f : Frame, Stack.join (frames ++ stack) n rule = f :: stack ∧ f.state = s ∧
      f.value.bare = rule.value (valueAt us) ∧ ∀ Zs, Linked stack Zs → Linked (f :: stack) (.nonterminal n :: Zs) := by
  obtain ⟨f, hmade, hstate, hvalue⟩ : ∃ f : Frame, Stack.join (frames ++ stack) n rule = f :: stack ∧ f.state = s ∧
      f.value.bare = rule.value (valueAt us) := by
    refine ⟨⟨s, _⟩, ?_, rfl, h.bareValues_eq ▸ bare_join (mem_of_complete hact)⟩
    rw [Stack.join, h.drop, hjoin]
    rfl
  refine ⟨f, hmade, hstate, hvalue, fun Zs hZs => ?_⟩
  have hlinked := Linked.join (h.linked Zs hZs) hact hn
  rw [hmade, ← List.length_reverse, List.drop_left] at hlinked
  exact hlinked

theorem failures (h : Pushed stack rule.symbols us frames) (hus : ∀ v ∈ us, v.failure? = none) :
    Stack.failures (frames ++ stack) rule = [] := by
  rw [failures_eq_nil, h.bareValues_eq]
  exact hus

end Pushed

/-- What is built of tokens is read, in at most 25 steps a token less the credit of the symbols. -/
theorem builds_moves {s : Nat} {Xs : List Symbol} {w : List Token} {a : Terminal} {vs : List Value}
    (h : Builds s Xs w a vs) {stack : Stack} {tokens rest : List PlacedToken} (hs : stack.state = s)
    (hw : tokens.map PlacedToken.token = w) (ha : next rest = a) :
    ∃ (k : Nat) (frames : Stack), (k : Int) + creditOf Xs ≤ 25 * (w.length : Int) ∧ Pushed stack Xs vs frames ∧
      Moves k stack (tokens ++ rest) (frames ++ stack) rest := by
  induction h generalizing stack tokens rest with
  | nil s a =>
    obtain rfl : tokens = [] := List.map_eq_nil_iff.mp hw
    exact ⟨0, [], by simp, .nil stack, .stay stack rest⟩
  | @token s s' Xs t w a vs hread _ ih =>
    obtain ⟨t', tokens', rfl, rfl, hw'⟩ := List.map_eq_cons_iff.mp hw
    subst hs
    obtain ⟨k, frames, hk, hpushed, hmoves⟩ := @ih (⟨s', .token t'⟩ :: stack) _ _ rfl hw' ha
    have hall : Pushed stack (.terminal (.ofToken t'.token) :: Xs) (.token ⟨t'.token, 0, 0⟩ :: vs)
        (frames ++ [⟨s', .token t'⟩]) :=
      hpushed.cons hread (by simp [Value.bare]) fun Zs h => Linked.read h hread _
    refine ⟨k + 1, _, ?_, hall, ?_⟩
    · rw [creditOf_cons, Symbol.credit, List.length_cons]
      push_cast
      omega
    · rw [List.append_assoc]
      exact .read hread hmoves
  | @rule s s' top n rule Xs u w a us vs hsub htop hact hn hfail hjoin _ ihsub ih =>
    obtain ⟨tu, tw, rfl, hu, hw'⟩ := List.map_eq_append_iff.mp hw
    subst hs
    have hnext : next (tw ++ rest) = firstOf w a := by rw [next_append, hw', ha]
    obtain ⟨k₁, frames₁, hk₁, hpushed₁, hmoves₁⟩ := ihsub rfl hu hnext
    obtain rfl : Stack.state (frames₁ ++ stack) = top := Option.some_inj.mp (hpushed₁.leads.symm.trans htop)
    obtain ⟨f, hmade, hf, hvalue, hlinked⟩ := hpushed₁.join hact hn hjoin
    obtain ⟨k₂, frames₂, hk₂, hpushed₂, hmoves₂⟩ := @ih (f :: stack) _ _ hf hw' ha
    have hall : Pushed stack (.nonterminal n :: Xs) (rule.value (valueAt us) :: vs) (frames₂ ++ [f]) :=
      hpushed₂.cons (by rw [hf]; exact hjoin) hvalue hlinked
    refine ⟨k₂ + 1 + k₁, _, ?_, hall, ?_⟩
    · have := credit_lt (mem_of_complete hact)
      rw [creditOf_cons, List.length_append]
      push_cast
      omega
    · rw [List.append_assoc, List.append_assoc]
      refine hmoves₁.append (.complete (hnext ▸ hact) hn (hpushed₁.failures hfail) ?_)
      rw [hmade]
      exact hmoves₂

/-- What is built from the first state on is read without any error. -/
theorem builds_run {tokens : List PlacedToken} {tree : SourceTree}
    (h : Builds 0 [.nonterminal .sourceUnit] (tokens.map PlacedToken.token) .finish [.sourceTree tree]) :
    ofTokens tokens = ([], some tree) := by
  obtain ⟨k, frames, hk, hpushed, hmoves⟩ := @builds_moves _ _ _ _ _ h [] tokens [] rfl rfl rfl
  have hpath := hpushed.leads
  rw [List.append_nil] at hmoves hpath
  obtain ⟨f, rfl⟩ := List.length_eq_one_iff.mp hpushed.length_eq
  have hunit : path 0 [.nonterminal .sourceUnit] = some 1 := by decide
  have hstate : f.state = 1 := Option.some_inj.mp (hpath.symm.trans hunit)
  have hvalue : f.value = .sourceTree tree := by
    have hbare : f.value.bare = .sourceTree tree := by simpa using hpushed.values
    cases hv : f.value <;> simp [hv, Value.bare] at hbare
    rw [hbare]
  -- there are steps enough, and one is left to end
  have hfuel : ∃ m, fuel tokens.length = m + 1 + k := by
    have hcredit : -1 ≤ creditOf [.nonterminal .sourceUnit] := by decide
    rw [List.length_map] at hk
    exact ⟨fuel tokens.length - 1 - k, by unfold fuel; omega⟩
  obtain ⟨m, hm⟩ := hfuel
  have hact : ∃ rule, action 1 .finish = .complete .start rule := by
    have hplace : completion? 1 .finish = some (.start, 0) := by decide
    exact ⟨_, action_eq_complete.mpr ⟨0, hplace, rfl⟩⟩
  obtain ⟨rule, hact⟩ := hact
  rw [List.append_nil] at hmoves
  have hends : action (Stack.state [f]) (next []) = .complete .start rule := by
    rw [Stack.state, hstate]
    exact hact
  rw [ofTokens, hm, hmoves.run_eq, run_ends hends]
  obtain ⟨s, v⟩ := f
  subst hvalue
  rfl

/-- Tokens are read without any error exactly if the whole file is built of them. -/
theorem ofTokens_iff {tokens : List PlacedToken} {tree : SourceTree} :
    ofTokens tokens = ([], some tree) ↔
      Builds 0 [.nonterminal .sourceUnit] (tokens.map PlacedToken.token) .finish [.sourceTree tree] :=
  ⟨run_builds, builds_run⟩

end Reading

end SoliditySchema.Grammar
