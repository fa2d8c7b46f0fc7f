/-
  SoliditySchema.Proofs.Grammar.Building — what the automaton builds of which tokens.

  `Builds s Xs w a vs`: from state `s` on the automaton builds the symbols `Xs`, with the values `vs`, of the
  tokens `w`, if the terminal `a` comes next. It depends on nothing below `s` on the stack and on no place
  of a token, so it can be moved: out of one file into another.

  A file that is read without any error is built, from the first state on (`run_builds`).
-/

import Mathlib.Data.List.Induction
import SoliditySchema.Proofs.Grammar.Automaton
import SoliditySchema.Proofs.Grammar.Reading
import SoliditySchema.Proofs.Grammar.Value

namespace SoliditySchema.Grammar

open Automaton

/-- The terminal that comes first in tokens, or else `a`. -/
def firstOf (w : List Token) (a : Terminal) : Terminal := (w.head?.map Terminal.ofToken).getD a

@[simp] theorem firstOf_nil (a : Terminal) : firstOf [] a = a := rfl
@[simp] theorem firstOf_cons (t : Token) (w : List Token) (a : Terminal) : firstOf (t :: w) a = .ofToken t := rfl

theorem firstOf_append (v w : List Token) (a : Terminal) : firstOf (v ++ w) a = firstOf v (firstOf w a) := by
  cases v <;> rfl

/-- Tokens with places have their tokens. -/
theorem tokens_map (w : List Token) : (w.map fun t => (⟨t, 0, 0⟩ : PlacedToken)).map PlacedToken.token = w := by
  rw [List.map_map]
  exact List.map_id w

/-- The values as a rule takes them. -/
def valueAt (vs : List Value) (i : Nat) : Value := vs.getD i .absent

/-- From a state the symbols are built of tokens before a terminal, with values without places. No value
is a failure. -/
inductive Builds : Nat → List Symbol → List Token → Terminal → List Value → Prop
  | nil (s : Nat) (a : Terminal) : Builds s [] [] a []
  | token {s s' : Nat} {Xs : List Symbol} {t : Token} {w : List Token} {a : Terminal} {vs : List Value} :
      read? s (.ofToken t) = some s' → Builds s' Xs w a vs →
      Builds s (.terminal (.ofToken t) :: Xs) (t :: w) a (.token ⟨t, 0, 0⟩ :: vs)
  | rule {s s' top : Nat} {n : Nonterminal} {rule : Rule} {Xs : List Symbol} {u w : List Token} {a : Terminal}
      {us vs : List Value} :
      Builds s rule.symbols u (firstOf w a) us → path s rule.symbols = some top →
      action top (firstOf w a) = .complete n rule → n ≠ .start → (∀ v ∈ us, v.failure? = none) →
      join? s n = some s' → Builds s' Xs w a vs →
      Builds s (.nonterminal n :: Xs) (u ++ w) a (rule.value (valueAt us) :: vs)

namespace Builds

variable {s s' : Nat} {Xs Ys : List Symbol} {u w : List Token} {a : Terminal} {us vs : List Value}

theorem length_eq (h : Builds s Xs w a vs) : vs.length = Xs.length := by
  induction h with
  | nil => rfl
  | token _ _ ih => rw [List.length_cons, List.length_cons, ih]
  | rule _ _ _ _ _ _ _ _ ih => rw [List.length_cons, List.length_cons, ih]

/-- What is built one after the other is built together. -/
theorem append (h : Builds s Xs u (firstOf w a) us) (hpath : path s Xs = some s') (hw : Builds s' Ys w a vs) :
    Builds s (Xs ++ Ys) (u ++ w) a (us ++ vs) := by
  generalize hb : firstOf w a = b at h
  induction h with
  | nil s b =>
    injection hpath with hpath
    rw [hpath]
    exact hw
  | token hread _ ih =>
    subst hb
    rw [path, goto, hread] at hpath
    exact Builds.token hread (ih hpath rfl)
  | rule hsub htop hact hn hfail hjoin _ _ ih =>
    subst hb
    rw [path, goto, hjoin] at hpath
    rw [← firstOf_append] at hsub hact
    rw [List.append_assoc]
    exact Builds.rule hsub htop hact hn hfail hjoin (ih hpath rfl)

/-- What is built together is built one after the other. -/
theorem split (Xs : List Symbol) {Ys : List Symbol} (h : Builds s (Xs ++ Ys) w a vs) :
    ∃ u v us vs' s', w = u ++ v ∧ vs = us ++ vs' ∧ path s Xs = some s' ∧ Builds s Xs u (firstOf v a) us ∧
      Builds s' Ys v a vs' := by
  induction Xs generalizing s w vs with
  | nil => exact ⟨[], w, [], vs, s, rfl, rfl, rfl, Builds.nil _ _, h⟩
  | cons X Xs ih =>
    cases h with
    | token hread hrest =>
      obtain ⟨u, v, us, vs', s', rfl, rfl, hpath, hu, hv⟩ := ih hrest
      refine ⟨_ :: u, v, _ :: us, vs', s', rfl, rfl, ?_, Builds.token hread hu, hv⟩
      rw [path, goto, hread]
      exact hpath
    | rule hsub htop hact hn hfail hjoin hrest =>
      obtain ⟨u, v, us, vs', s', rfl, rfl, hpath, hu, hv⟩ := ih hrest
      rw [firstOf_append] at hsub hact
      refine ⟨_ ++ u, v, _ :: us, vs', s', by rw [List.append_assoc], rfl, ?_,
        Builds.rule hsub htop hact hn hfail hjoin hu, hv⟩
      rw [path, goto, hjoin]
      exact hpath

end Builds

/-! ## Stacks -/

/-- The symbols of a stack, the last one first: each leads from the state below it to its own, and the
value of a nonterminal is made by one of its rules. -/
def Linked : Stack → List Symbol → Prop
  | [], [] => True
  | f :: below, X :: Xs =>
    goto (Stack.state below) X = some f.state ∧
    (∀ n, X = .nonterminal n → ∃ rule ∈ Rule.all n, ∃ v, f.value = rule.value v) ∧ Linked below Xs
  | _, _ => False

/-- The stack is built of the tokens `w`, before the terminal `a`. -/
def BuiltOf : Stack → List Symbol → List Token → Terminal → Prop
  | [], [], w, _ => w = []
  | f :: below, X :: Xs, w, a =>
    ∃ v u, w = v ++ u ∧ Builds (Stack.state below) [X] u a [f.value.bare] ∧ BuiltOf below Xs v (firstOf u a)
  | _, _, _, _ => False

variable {stack : Stack} {Xs : List Symbol}

theorem Linked.eq_nil_of_state (h : Linked stack Xs) (h0 : stack.state = 0) : stack = [] := by
  cases stack with
  | nil => rfl
  | cons f below =>
    cases Xs with
    | nil => exact h.elim
    | cons X Xs =>
      have hf : f.state = 0 := h0
      exact absurd (h.1.trans (congrArg some hf)) goto_ne_zero

theorem Linked.drop (h : Linked stack Xs) (k : Nat) : Linked (stack.drop k) (Xs.drop k) := by
  induction k generalizing stack Xs with
  | zero => exact h
  | succ k ih =>
    cases stack with
    | nil =>
      cases Xs with
      | nil => exact h
      | cons X Xs => exact h.elim
    | cons f below =>
      cases Xs with
      | nil => exact h.elim
      | cons X Xs => exact ih h.2.2

/-- The symbols on top of a stack lead to its state. -/
theorem Linked.leads {stack : Stack} {Ys Zs : List Symbol} (h : Linked stack (Ys.reverse ++ Zs)) :
    path (Stack.state (stack.drop Ys.length)) Ys = some stack.state := by
  induction Ys using List.reverseRecOn generalizing stack with
  | nil => rfl
  | append_singleton Ys Y ih =>
    rw [List.reverse_append, List.reverse_singleton, List.singleton_append, List.cons_append] at h
    cases stack with
    | nil => exact h.elim
    | cons f below =>
      rw [List.length_append, List.length_singleton, List.drop_succ_cons, path_append, ih h.2.2]
      show (goto _ Y).bind _ = _
      rw [h.1]
      rfl

/-- On top of a stack stand the symbols of a rule that have been read, if it is under way there. -/
theorem Linked.under_way (h : Linked stack Xs) {n : Nonterminal} {place d : Nat} (hne : d ≠ 0)
    (hp : ⟨n, place, d⟩ ∈ kernel stack.state) (hd : d ≤ (symbolsOf n place).length) :
    Xs = ((symbolsOf n place).take d).reverse ++ Xs.drop d ∧
      (joinable (Stack.state (stack.drop d)) n = true ∨ n = .start ∧ stack.drop d = []) := by
  induction d generalizing stack Xs with
  | zero => exact absurd rfl hne
  | succ e ih =>
    cases stack with
    | nil =>
      have hk : kernel (Stack.state []) = [⟨.start, 0, 0⟩] := by decide
      rw [hk, List.mem_singleton] at hp
      cases hp
    | cons f below =>
      cases Xs with
      | nil => exact h.elim
      | cons X Xs =>
        obtain ⟨hgoto, -, hbelow⟩ := h
        obtain ⟨e', he, hsym, hzero, hmore⟩ := advance hgoto hp
        obtain rfl : e = e' := Nat.succ.inj he
        have htake : ((symbolsOf n place).take (e + 1)).reverse = X :: ((symbolsOf n place).take e).reverse := by
          rw [List.take_add_one, hsym]
          simp
        rw [htake]
        by_cases he0 : e = 0
        · subst he0
          refine ⟨by simp, ?_⟩
          rcases hzero rfl with hj | ⟨hs, hn⟩
          · exact Or.inl hj
          · exact Or.inr ⟨hn, hbelow.eq_nil_of_state hs⟩
        · obtain ⟨hXs, hj⟩ := ih hbelow he0 (hmore he0) (by omega)
          refine ⟨?_, by simpa using hj⟩
          rw [List.cons_append, List.drop_succ_cons, ← hXs]

/-- A rule that is complete stands on top of the stack, and what it makes can be joined to what is below,
unless it is the whole file. -/
theorem Linked.complete (h : Linked stack Xs) {a : Terminal} {n : Nonterminal} {rule : Rule}
    (hact : action stack.state a = .complete n rule) :
    Xs = rule.symbols.reverse ++ Xs.drop rule.symbols.length ∧
      (n ≠ .start → joinable (Stack.state (stack.drop rule.symbols.length)) n = true) ∧
      (n = .start → stack.drop rule.symbols.length = []) := by
  obtain ⟨place, hplace, hempty, hsome⟩ := kernel_of_complete hact
  have hsyms : symbolsOf n place = rule.symbols := by rw [symbolsOf, hplace]
  have hstart : ∀ {s : Nat}, joinable s .start ≠ true := by
    intro s
    rw [joinable, join_start]
    exact Bool.false_ne_true
  by_cases hnil : rule.symbols = []
  · have hjoin := hempty hnil
    rw [hnil]
    exact ⟨rfl, fun _ => hjoin, fun hn => absurd (hn ▸ hjoin) hstart⟩
  · have hlen : rule.symbols.length ≠ 0 := fun h0 => hnil (List.length_eq_zero_iff.mp h0)
    obtain ⟨hXs, hjoin⟩ := h.under_way hlen (hsome hnil) (by simp only [hsyms, Nat.le_refl])
    rw [hsyms, List.take_length] at hXs
    refine ⟨hXs, fun hn => ?_, fun hn => ?_⟩
    · exact hjoin.resolve_right fun h => hn h.1
    · rcases hjoin with hj | hj
      · exact absurd (hn ▸ hj) hstart
      · exact hj.2

theorem Linked.join (h : Linked stack Xs) {a : Terminal} {n : Nonterminal} {rule : Rule}
    (hact : action stack.state a = .complete n rule) (hn : n ≠ .start) :
    Linked (stack.join n rule) (.nonterminal n :: Xs.drop rule.symbols.length) := by
  have hjoin := (h.complete hact).2.1 hn
  obtain ⟨s', hs'⟩ := Option.isSome_iff_exists.mp hjoin
  refine ⟨?_, ?_, h.drop _⟩
  · show join? _ n = some ((join? _ n).getD 0)
    rw [hs']
    rfl
  · intro m hm
    injection hm with hm
    exact ⟨rule, hm ▸ mem_of_complete hact, _, rfl⟩

/-- What ends a file: the symbol of the whole file, alone on the stack, and no more tokens. -/
theorem Linked.ends (h : Linked stack Xs) {a : Terminal} {rule : Rule}
    (hact : action stack.state a = .complete .start rule) :
    ∃ f, stack = [f] ∧ Xs = [.nonterminal .sourceUnit] ∧ a = .finish := by
  obtain ⟨hXs, -, hdrop⟩ := h.complete hact
  have hrule : rule.symbols = [.nonterminal .sourceUnit] := by
    have := mem_of_complete hact
    simp only [Rule.all, List.mem_singleton] at this
    rw [this]
    rfl
  rw [hrule] at hXs hdrop
  have hdrop := hdrop rfl
  cases stack with
  | nil =>
    cases Xs with
    | nil => cases hXs
    | cons X Xs => exact h.elim
  | cons f below =>
    obtain rfl : below = [] := hdrop
    cases Xs with
    | nil => exact h.elim
    | cons X Xs =>
      obtain ⟨hgoto, -, hbelow⟩ := h
      cases Xs with
      | cons Y Ys => exact hbelow.elim
      | nil =>
        injection hXs with hX
        subst hX
        have hf : f.state = 1 := by
          have : goto 0 (.nonterminal .sourceUnit) = some 1 := by decide
          exact Option.some_inj.mp (hgoto.symm.trans this)
        refine ⟨f, rfl, rfl, ?_⟩
        -- in that state the file is complete only at the end
        have hend : ∀ a ∈ Terminal.all, (completion? 1 a).isSome → a = .finish := by decide +kernel
        obtain ⟨place, hcomplete, -⟩ := action_eq_complete.mp hact
        rw [Stack.state, hf] at hcomplete
        exact hend a a.mem_all (by rw [hcomplete]; rfl)

/-! ## Reading builds -/

/-- The values of the last `k` symbols, in order and without places. -/
def bareValues (stack : Stack) (k : Nat) : List Value := ((stack.take k).map fun f => f.value.bare).reverse

/-- The top of a stack is built of the last tokens, from the state below it. -/
theorem BuiltOf.top {stack : Stack} {Ys Zs : List Symbol} {w : List Token} {a : Terminal}
    (hl : Linked stack (Ys.reverse ++ Zs)) (hb : BuiltOf stack (Ys.reverse ++ Zs) w a) :
    ∃ v u, w = v ++ u ∧ Builds (Stack.state (stack.drop Ys.length)) Ys u a (bareValues stack Ys.length) ∧
      BuiltOf (stack.drop Ys.length) Zs v (firstOf u a) := by
  induction Ys using List.reverseRecOn generalizing stack w a with
  | nil => exact ⟨w, [], by simp, Builds.nil _ _, hb⟩
  | append_singleton Ys Y ih =>
    rw [List.reverse_append, List.reverse_singleton, List.singleton_append, List.cons_append] at hl hb
    cases stack with
    | nil => exact hl.elim
    | cons f below =>
      obtain ⟨v, u, rfl, hu, hbelow⟩ := hb
      obtain ⟨v', u', rfl, hu', hrest⟩ := ih hl.2.2 hbelow
      have hlen : (Ys ++ [Y]).length = Ys.length + 1 := by simp
      rw [hlen, List.drop_succ_cons]
      have hvalues : bareValues (f :: below) (Ys.length + 1) = bareValues below Ys.length ++ [f.value.bare] := by
        simp [bareValues]
      refine ⟨v', u' ++ u, by rw [List.append_assoc], ?_, ?_⟩
      · rw [hvalues]
        exact hu'.append hl.2.2.leads hu
      · rw [firstOf_append]
        exact hrest

theorem failures_eq_nil {stack : Stack} {rule : Rule} :
    stack.failures rule = [] ↔ ∀ v ∈ bareValues stack rule.symbols.length, v.failure? = none := by
  simp only [Stack.failures, Stack.ruleValues, bareValues, List.filterMap_eq_nil_iff, List.mem_reverse, List.mem_map]
  constructor
  · rintro h _ ⟨f, hf, rfl⟩
    exact f.value.failure?_bare.mpr (h _ ⟨f, hf, rfl⟩)
  · rintro h _ ⟨f, hf, rfl⟩
    exact f.value.failure?_bare.mp (h _ ⟨f, hf, rfl⟩)

/-- The value of a rule on top of a stack, without places. -/
theorem bare_join {stack : Stack} {n : Nonterminal} {rule : Rule} (h : rule ∈ Rule.all n) :
    (rule.value fun i => (stack.ruleValues rule).getD i .absent).bare =
      rule.value (valueAt (bareValues stack rule.symbols.length)) := by
  have hvalues : bareValues stack rule.symbols.length = (stack.ruleValues rule).map Value.bare := by
    simp [bareValues, Stack.ruleValues, Function.comp_def]
  rw [Rule.value_bare h]
  congr 1
  funext i
  rw [valueAt, hvalues]
  exact (List.getD_map _ _ Value.bare).symm

theorem BuiltOf.join {stack : Stack} {Xs : List Symbol} {w : List Token} {a : Terminal} {n : Nonterminal} {rule : Rule}
    (hl : Linked stack Xs) (hb : BuiltOf stack Xs w a) (hact : action stack.state a = .complete n rule) (hn : n ≠ .start)
    (hfail : stack.failures rule = []) :
    BuiltOf (stack.join n rule) (.nonterminal n :: Xs.drop rule.symbols.length) w a := by
  obtain ⟨hXs, hjoin, -⟩ := hl.complete hact
  rw [hXs] at hl hb
  obtain ⟨v, u, rfl, hu, hbelow⟩ := BuiltOf.top hl hb
  obtain ⟨s', hs'⟩ := Option.isSome_iff_exists.mp (hjoin hn)
  refine ⟨v, u, rfl, ?_, hbelow⟩
  rw [bare_join (mem_of_complete hact)]
  have := Builds.rule (w := []) hu hl.leads hact hn (failures_eq_nil.mp hfail) hs' (Builds.nil s' a)
  rwa [List.append_nil] at this

namespace Reading

/-- An error was found before: it counts already, or its failure is still on the stack. -/
def Spoilt (stack : Stack) (errors : List SyntaxError) : Prop :=
  errors ≠ [] ∨ ∃ f ∈ stack, f.value.failure? ≠ none

theorem Spoilt.join {stack : Stack} {errors : List SyntaxError} (h : Spoilt stack errors) (n : Nonterminal) (rule : Rule) :
    Spoilt (stack.join n rule) (errors ++ stack.failures rule) := by
  rcases h with h | ⟨f, hf, hfail⟩
  · exact Or.inl (List.append_ne_nil_of_left_ne_nil h _)
  · rw [← List.take_append_drop rule.symbols.length stack, List.mem_append] at hf
    rcases hf with hf | hf
    · -- the failure is taken in by the rule
      refine Or.inl fun hnil => hfail ?_
      have hnone := failures_eq_nil.mp (List.append_eq_nil_iff.mp hnil).2
      refine f.value.failure?_bare.mp (hnone _ ?_)
      rw [bareValues, List.mem_reverse]
      exact List.mem_map.mpr ⟨f, hf, rfl⟩
    · exact Or.inr ⟨f, List.mem_cons_of_mem _ hf, hfail⟩

theorem settle_linked {stack : Stack} {Xs : List Symbol} (h : Linked stack Xs) (n : Nat) (errors : List SyntaxError) :
    ∃ Ys, Linked (settle n stack errors).1 Ys := by
  induction n generalizing stack Xs errors with
  | zero => exact ⟨Xs, h⟩
  | succ n ih =>
    rw [settle]
    split
    · rename_i m rule hact
      have hm : m ≠ .start := by
        rintro rfl
        obtain ⟨_, _, _, hfinish⟩ := h.ends hact
        cases hfinish
      exact ih (h.join hact hm) _
    · exact ⟨Xs, h⟩

theorem Linked.read {stack : Stack} {Xs : List Symbol} (h : Linked stack Xs) {t : Terminal} {s : Nat}
    (hread : read? stack.state t = some s) (v : Value) : Linked (⟨s, v⟩ :: stack) (.terminal t :: Xs) := by
  refine ⟨hread, ?_, h⟩
  rintro n ⟨⟩

theorem read?_of_action {s s' : Nat} {t : Terminal} (h : action s t = .read s') : read? s t = some s' := by
  unfold action at h
  split at h
  · rename_i next hread
    injection h with h
    rw [hread, h]
  · split at h
    · split at h <;> cases h
    · cases h

/-- A file with an error in it is no file without errors, even if it has a tree. -/
theorem run_spoilt {last n : Nat} {stack : Stack} {Xs : List Symbol} {errors errors' : List SyntaxError}
    {tokens : List PlacedToken} {result : Option SourceTree} (hl : Linked stack Xs) (hs : Spoilt stack errors)
    (hrun : run last n stack errors tokens = (errors', result)) : errors' ≠ [] := by
  induction n generalizing stack Xs errors tokens with
  | zero =>
    rw [run, Prod.mk.injEq] at hrun
    rw [← hrun.1]
    simp
  | succ n ih =>
    rcases run_cases last n stack errors tokens with
      ⟨s, t, rest, rfl, hact, heq⟩ | ⟨m, rule, hact, hm, heq⟩ | ⟨rule, hact, heq⟩ | heq <;> rw [heq] at hrun
    · refine ih (Linked.read hl (read?_of_action hact) _) ?_ hrun
      cases hs with
      | inl herrors => exact Or.inl herrors
      | inr hframe =>
        obtain ⟨f, hf, hfail⟩ := hframe
        exact Or.inr ⟨f, List.mem_cons_of_mem _ hf, hfail⟩
    · exact ih (hl.join hact hm) (hs.join m rule) hrun
    · rw [Prod.mk.injEq] at hrun
      rw [← hrun.1]
      refine hs.resolve_right ?_
      -- all that is left is a whole file, which is no failure
      obtain ⟨f, rfl, rfl, -⟩ := hl.ends hact
      obtain ⟨r, hr, v, hv⟩ := hl.2.1 .sourceUnit rfl
      rintro ⟨g, hg, hfail⟩
      rw [List.mem_singleton.mp hg, hv] at hfail
      refine hfail ?_
      simp only [Rule.all, List.mem_cons, List.not_mem_nil, or_false] at hr
      rcases hr with rfl | rfl <;> rfl
    · unfold runOn at hrun
      split at hrun
      · rename_i below s rest hskip
        obtain ⟨Ys, hYs⟩ := settle_linked hl n errors
        obtain ⟨k, rfl, hread, -⟩ := skipTo?_some hskip
        exact ih (Linked.read (hYs.drop k) hread _) (Or.inr ⟨_, List.mem_cons_self, by simp [Value.failure?]⟩) hrun
      · rw [Prod.mk.injEq] at hrun
        rw [← hrun.1]
        simp

/-- Only behind the last token the next terminal is the end. -/
theorem nil_of_finish {tokens : List PlacedToken} (h : next tokens = .finish) : tokens = [] := by
  cases tokens with
  | nil => rfl
  | cons t rest =>
    cases ht : t.token with
    | sized type => cases type <;> simp [next, ht, Terminal.ofToken] at h
    | _ => simp [next, ht, Terminal.ofToken] at h

/-- A whole file is a tree. -/
theorem sourceUnit_value {rule : Rule} (h : rule ∈ Rule.all .sourceUnit) (x : Nat → Value) :
    ∃ tree, rule.value x = .sourceTree tree := by
  simp only [Rule.all, List.mem_cons, List.not_mem_nil, or_false] at h
  rcases h with rfl | rfl
  · exact ⟨_, rfl⟩
  · exact ⟨_, rfl⟩

/-- From a stack that is built of the tokens before, what is read without any error is built. -/
theorem run_builds_from {last n : Nat} {stack : Stack} {Xs : List Symbol} {w : List Token} {tokens : List PlacedToken}
    {tree : SourceTree} (hl : Linked stack Xs) (hb : BuiltOf stack Xs w (next tokens))
    (hrun : run last n stack [] tokens = ([], some tree)) :
    Builds 0 [.nonterminal .sourceUnit] (w ++ tokens.map PlacedToken.token) .finish [.sourceTree tree] := by
  induction n generalizing stack Xs w tokens with
  | zero =>
    rw [run] at hrun
    cases hrun
  | succ n ih =>
    rcases run_cases last n stack [] tokens with
      ⟨s, t, rest, rfl, hact, heq⟩ | ⟨m, rule, hact, hm, heq⟩ | ⟨rule, hact, heq⟩ | heq <;> rw [heq] at hrun
    · have hread := read?_of_action hact
      rw [List.map_cons, List.append_cons]
      refine ih (Linked.read hl hread (.token t)) ⟨w, [t.token], rfl, ?_, hb⟩ hrun
      exact Builds.token hread (Builds.nil _ _)
    · by_cases hfail : stack.failures rule = []
      · rw [hfail] at hrun
        exact ih (hl.join hact hm) (hb.join hl hact hm hfail) hrun
      · exact absurd rfl (run_spoilt (hl.join hact hm) (Or.inl (by simpa using hfail)) hrun)
    · obtain ⟨f, rfl, rfl, hfinish⟩ := hl.ends hact
      obtain rfl := nil_of_finish hfinish
      obtain ⟨v, u, rfl, hu, rfl⟩ := hb
      obtain ⟨r, hr, x, hx⟩ := hl.2.1 .sourceUnit rfl
      obtain ⟨tree', htree⟩ := sourceUnit_value hr x
      rw [← hx] at htree
      have hsame : tree' = tree := by
        obtain ⟨s, v⟩ := f
        subst htree
        injection hrun with _ hrun
        injection hrun
      rw [htree, hsame] at hu
      rw [List.map_nil, List.append_nil]
      exact hu
    · exfalso
      unfold runOn at hrun
      split at hrun
      · rename_i below s rest hskip
        obtain ⟨Ys, hYs⟩ := settle_linked hl n []
        obtain ⟨k, rfl, hread, -⟩ := skipTo?_some hskip
        exact run_spoilt (Linked.read (hYs.drop k) hread _) (Or.inr ⟨_, List.mem_cons_self, by simp [Value.failure?]⟩)
          hrun rfl
      · simp at hrun

/-- A file that is read without any error is built from the first state on. -/
theorem run_builds {tokens : List PlacedToken} {tree : SourceTree} (h : ofTokens tokens = ([], some tree)) :
    Builds 0 [.nonterminal .sourceUnit] (tokens.map PlacedToken.token) .finish [.sourceTree tree] :=
  @run_builds_from _ _ [] [] [] _ _ trivial rfl h

end Reading

end SoliditySchema.Grammar
