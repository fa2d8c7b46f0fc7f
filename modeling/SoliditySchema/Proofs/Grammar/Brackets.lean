/-
  SoliditySchema.Proofs.Grammar.Brackets — how the brackets of what is built match.

  Every rule of the grammar opens a bracket before it closes it, and closes what it opens. So the tokens of
  any nonterminal are balanced, in braces as in parentheses (`Builds.level`). Some terminals stand in some
  nonterminals only inside brackets (`Builds.guarded`): in the head of a contract, and in an annotation, a
  brace is closed and a semicolon stands only inside parentheses, and only a contract has the words that a
  contract begins with outside braces. Every part of a file but an annotation ends with a closing brace or
  a semicolon (`Builds.ends`).
-/

import SoliditySchema.Proofs.Grammar.Parts

namespace SoliditySchema.Grammar

open Automaton

/-! ## Levels -/

section Levels

variable (o c : Operator)

/-- The number of open brackets after a terminal, unless it closes one that is not open. -/
def bracket (d : Nat) (t : Terminal) : Option Nat :=
  if t = .operator o then some (d + 1)
  else if t = .operator c then
    match d with
    | 0 => none
    | d + 1 => some d
  else some d

/-- The number of open brackets after tokens, unless one is closed that is not open. -/
def level : Nat → List Token → Option Nat
  | d, [] => some d
  | d, t :: w => (bracket o c d (.ofToken t)).bind fun d' => level d' w

/-- The number of open brackets after symbols, where nonterminals have none of their own. -/
def symbolLevel : Nat → List Symbol → Option Nat
  | d, [] => some d
  | d, .terminal t :: Xs => (bracket o c d t).bind fun d' => symbolLevel d' Xs
  | d, .nonterminal _ :: Xs => symbolLevel d Xs

/-- The rules of the grammar close what they open. -/
def Balanced : Prop := ∀ n, ∀ rule ∈ Rule.all n, symbolLevel o c 0 rule.symbols = some 0

variable {o c}

theorem level_append {d : Nat} {u w : List Token} : level o c d (u ++ w) = (level o c d u).bind fun e => level o c e w := by
  induction u generalizing d with
  | nil => rfl
  | cons t u ih =>
    rw [List.cons_append, level, level, Option.bind_assoc]
    exact congrArg _ (funext fun e => ih)

theorem bracket_add {d e : Nat} {t : Terminal} (h : bracket o c d t = some e) (k : Nat) :
    bracket o c (d + k) t = some (e + k) := by
  unfold bracket at h ⊢
  by_cases ho : t = .operator o
  · rw [if_pos ho] at h ⊢
    injection h with h
    rw [← h, Nat.add_right_comm]
  · rw [if_neg ho] at h ⊢
    by_cases hc : t = .operator c
    · rw [if_pos hc] at h ⊢
      cases d with
      | zero => cases h
      | succ d =>
        injection h with h
        rw [← h, Nat.add_right_comm]
    · rw [if_neg hc] at h ⊢
      injection h with h
      rw [h]

/-- With more brackets open before, as many more are open after. -/
theorem level_add {d e : Nat} {w : List Token} (h : level o c d w = some e) (k : Nat) :
    level o c (d + k) w = some (e + k) := by
  induction w generalizing d with
  | nil => rw [← Option.some_inj.mp h]; rfl
  | cons t w ih =>
    obtain ⟨d', hd, hw⟩ := Option.bind_eq_some_iff.mp h
    rw [level, bracket_add hd]
    exact ih hw

/-- The tokens of symbols open as many brackets as the symbols. -/
theorem Builds.level (hrules : Balanced o c) {s : Nat} {Xs : List Symbol} {w : List Token} {a : Terminal}
    {vs : List Value} (h : Builds s Xs w a vs) {d e : Nat} (hX : symbolLevel o c d Xs = some e) :
    level o c d w = some e := by
  induction h generalizing d e with
  | nil => exact hX
  | token _ _ ih =>
    obtain ⟨d', hd, hX⟩ := Option.bind_eq_some_iff.mp hX
    rw [Grammar.level, hd]
    exact ih hX
  | rule _ _ hact _ _ _ _ ihsub ih =>
    have hsub := level_add (ihsub (hrules _ _ (mem_of_complete hact))) d
    rw [Nat.zero_add] at hsub
    rw [level_append, hsub]
    exact ih hX

end Levels

/-- The number of open braces after tokens. -/
abbrev braces := level .openBrace .closeBrace

/-- The number of open parentheses after tokens. -/
abbrev parens := level .openParen .closeParen

theorem braces_balanced : Balanced .openBrace .closeBrace := by
  have hall : ∀ n ∈ Nonterminal.all, ∀ rule ∈ Rule.all n,
      symbolLevel .openBrace .closeBrace 0 rule.symbols = some 0 := by decide +kernel
  exact fun n => hall n n.mem_all

theorem parens_balanced : Balanced .openParen .closeParen := by
  have hall : ∀ n ∈ Nonterminal.all, ∀ rule ∈ Rule.all n,
      symbolLevel .openParen .closeParen 0 rule.symbols = some 0 := by decide +kernel
  exact fun n => hall n n.mem_all

/-! ## What ends a definition -/

/-- The terminals that may end a definition. -/
def Ends (t : Terminal) : Prop := t = .operator .closeBrace ∨ t = .operator .semicolon

instance (t : Terminal) : Decidable (Ends t) := inferInstanceAs (Decidable (_ ∨ _))

/-- The nonterminals whose last token ends a definition. -/
def endsAlways : Nonterminal → Bool
  | .contractDefinition | .pragmaDirective | .importDirective | .enumDefinition | .structDefinition
  | .eventDefinition | .errorDefinition | .functionDefinition | .functionBody | .block | .variableDefinition
  | .typeDefinition | .usingDirective => true
  | _ => false

/-- A symbol whose last token ends a definition. -/
def Symbol.ends : Symbol → Bool
  | .terminal t => decide (Ends t)
  | .nonterminal n => endsAlways n

theorem Builds.ends {s : Nat} {Xs : List Symbol} {w : List Token} {a : Terminal} {vs : List Value}
    (h : Builds s Xs w a vs) {X : Symbol} (hlast : Xs.getLast? = some X) (hX : X.ends = true) :
    ∃ x t, w = x ++ [t] ∧ Ends (.ofToken t) := by
  have hrules : ∀ n ∈ Nonterminal.all, endsAlways n = true → ∀ rule ∈ Rule.all n,
      (rule.symbols.getLast?.any fun X => X.ends) = true := by decide +kernel
  induction h generalizing X with
  | nil => cases hlast
  | @token s s' Xs t w a vs _ hrest ih =>
    cases Xs with
    | nil =>
      injection hlast with hlast
      subst hlast
      cases hrest
      exact ⟨[], t, rfl, of_decide_eq_true hX⟩
    | cons Y Ys =>
      obtain ⟨x, t', rfl, ht⟩ := ih hlast hX
      exact ⟨t :: x, t', rfl, ht⟩
  | @rule s s' top n rule Xs u w a us vs hsub _ hact _ _ _ hrest ihsub ih =>
    cases Xs with
    | nil =>
      injection hlast with hlast
      subst hlast
      cases hrest
      obtain ⟨Y, hY, hends⟩ := (Option.any_eq_true _ _).mp (hrules n n.mem_all hX rule (mem_of_complete hact))
      rw [List.append_nil]
      exact ihsub hY hends
    | cons Y Ys =>
      obtain ⟨x, t', rfl, ht⟩ := ih hlast hX
      exact ⟨u ++ x, t', by rw [List.append_assoc], ht⟩

/-! ## What stands only inside brackets -/

section Guards

variable (o c : Operator) (P : Terminal → Bool) (N : Nonterminal → Bool)

/-- No bracket is closed that is not open, and outside of all brackets there is none of some terminals. -/
def Guarded : Nat → List Token → Prop
  | _, [] => True
  | d, t :: w => (d = 0 → P (.ofToken t) = false) ∧ ∃ d', bracket o c d (.ofToken t) = some d' ∧ Guarded d' w

/-- Outside of all brackets there is none of some terminals, and no nonterminal but the given ones. -/
def symbolGuarded : Nat → List Symbol → Bool
  | _, [] => true
  | d, .terminal t :: Xs =>
    (d != 0 || !P t) &&
    match bracket o c d t with
    | some d' => symbolGuarded d' Xs
    | none => false
  | d, .nonterminal n :: Xs => (d != 0 || N n) && symbolGuarded d Xs

/-- The rules of the given nonterminals have the terminals only inside brackets. -/
def GuardedRules : Prop := ∀ n, N n = true → ∀ rule ∈ Rule.all n, symbolGuarded o c P N 0 rule.symbols = true

variable {o c P N}

theorem guarded_append {d e : Nat} {u w : List Token} (hu : Guarded o c P d u) (hlevel : level o c d u = some e)
    (hw : Guarded o c P e w) : Guarded o c P d (u ++ w) := by
  induction u generalizing d with
  | nil =>
    rw [← Option.some_inj.mp hlevel] at hw
    exact hw
  | cons t u ih =>
    obtain ⟨ht, d', hd, hu⟩ := hu
    rw [level, hd] at hlevel
    exact ⟨ht, d', hd, ih hu hlevel⟩

/-- Inside a bracket everything is guarded that closes no more of them than it opens. -/
theorem guarded_inside {d e : Nat} {w : List Token} (h : level o c d w = some e) : Guarded o c P (d + 1) w := by
  induction w generalizing d with
  | nil => trivial
  | cons t w ih =>
    obtain ⟨d', hd, hw⟩ := Option.bind_eq_some_iff.mp h
    exact ⟨fun h0 => absurd h0 (Nat.succ_ne_zero d), d' + 1, bracket_add hd 1, ih hw⟩

theorem Builds.guarded (hbalanced : Balanced o c) (hguarded : GuardedRules o c P N) {s : Nat} {Xs : List Symbol}
    {w : List Token} {a : Terminal} {vs : List Value} (h : Builds s Xs w a vs) {d : Nat}
    (hX : symbolGuarded o c P N d Xs = true) : Guarded o c P d w := by
  induction h generalizing d with
  | nil => trivial
  | @token s s' Xs t w a vs _ _ ih =>
    rw [symbolGuarded, Bool.and_eq_true] at hX
    obtain ⟨ht, hX⟩ := hX
    split at hX
    · rename_i d' hd
      refine ⟨fun h0 => ?_, d', hd, ih hX⟩
      subst h0
      simpa using ht
    · cases hX
  | @rule s s' top n rule Xs u w a us vs hsub _ hact _ _ _ _ ihsub ih =>
    rw [symbolGuarded, Bool.and_eq_true] at hX
    obtain ⟨hn, hX⟩ := hX
    have hmem := mem_of_complete hact
    have hlevel : ∀ k, Grammar.level o c k u = some k := by
      intro k
      have := level_add (Builds.level hbalanced hsub (hbalanced n rule hmem)) k
      rwa [Nat.zero_add] at this
    have hu : Guarded o c P d u := by
      cases d with
      | zero => exact ihsub (hguarded n (by simpa using hn) rule hmem)
      | succ d => exact guarded_inside (hlevel d)
    exact guarded_append hu (hlevel d) (ih hX)

/-- A guarded terminal stands inside a bracket. -/
theorem Guarded.inside {d : Nat} {x y : List Token} {t : Token} (h : Guarded o c P d (x ++ t :: y))
    (ht : P (.ofToken t) = true) : ∃ k, level o c d x = some (k + 1) := by
  induction x generalizing d with
  | nil =>
    obtain ⟨hd, -⟩ := h
    cases d with
    | zero =>
      rw [hd rfl] at ht
      cases ht
    | succ d => exact ⟨d, rfl⟩
  | cons t' x ih =>
    obtain ⟨-, d', hd, hx⟩ := h
    obtain ⟨k, hk⟩ := ih hx
    exact ⟨k, by rw [level, hd]; exact hk⟩

end Guards

/-- The nonterminals that the head of a contract or an annotation is made of, outside parentheses. -/
def inHead : Nonterminal → Bool
  | .contractKind | .nameOrFailure | .name | .bases | .baseList | .baseTail | .base | .namePath | .namePathSteps
  | .annotationName | .annotationCall => true
  | _ => false

/-- In the head of a contract, or in an annotation, a definition ends only inside parentheses. -/
theorem head_guarded : GuardedRules .openParen .closeParen (fun t => decide (Ends t)) inHead := by
  have hall : ∀ n ∈ Nonterminal.all, inHead n = true → ∀ rule ∈ Rule.all n,
      symbolGuarded .openParen .closeParen (fun t => decide (Ends t)) inHead 0 rule.symbols = true := by decide +kernel
  exact fun n => hall n n.mem_all

/-- A word that outside braces is only found where a contract begins. -/
def isContractWord : Terminal → Bool
  | .keyword .kwContract | .keyword .kwInterface | .keyword .kwLibrary => true
  | _ => false

/-- The nonterminals in which no contract begins, and which are no assembly. -/
def noContract : Nonterminal → Bool
  | .start | .sourceUnit | .sourceParts | .sourcePart | .contractDefinition | .contractKind => false
  | .yulName | .yulPath | .yulCall | .yulLiteral | .yulExpression | .yulTypedName | .yulTypedNames | .yulTypedNameList
  | .yulStatement | .yulFunction | .yulSwitch | .yulCase | .yulFor | .yulIf | .yulAssignment | .yulVariable
  | .yulPathList | .yulStatements | .yulExpressionListOrNone | .yulCases | .yulExpressionList | .yulTypedNameTail
  | .yulPathTail | .yulExpressionTail => false
  | _ => true

/-- Where no contract begins, the words of one stand only inside braces. -/
theorem words_guarded : GuardedRules .openBrace .closeBrace isContractWord noContract := by
  have hall : ∀ n ∈ Nonterminal.all, noContract n = true → ∀ rule ∈ Rule.all n,
      symbolGuarded .openBrace .closeBrace isContractWord noContract 0 rule.symbols = true := by decide +kernel
  exact fun n => hall n n.mem_all

/-! ## The shape of a contract -/

theorem ofToken_inj_operator {t : Token} {o : Operator} (h : Terminal.ofToken t = .operator o) : t = .operator o := by
  cases t with
  | operator o' => injection h with h; rw [h]
  | sized type => cases type <;> cases h
  | _ => cases h

theorem ofToken_inj_keyword {t : Token} {k : Keyword} (h : Terminal.ofToken t = .keyword k) : t = .keyword k := by
  cases t with
  | keyword k' => injection h with h; rw [h]
  | sized type => cases type <;> cases h
  | _ => cases h

theorem symbolLevel_nonterminal (o c : Operator) (d : Nat) (n : Nonterminal) :
    symbolLevel o c d [.nonterminal n] = some d := rfl

theorem Builds.split_last (Xs : List Symbol) {s : Nat} {o : Operator} {w : List Token} {a : Terminal} {vs : List Value}
    (h : Builds s (Xs ++ [.terminal (.operator o)]) w a vs) :
    ∃ u us, w = u ++ [.operator o] ∧ Builds s Xs u (.operator o) us := by
  obtain ⟨u, v, us, vs', s', rfl, rfl, hpath, hu, hv⟩ := h.split _
  obtain ⟨x, rfl, hx, rfl⟩ := hv.inv_terminal
  obtain rfl := ofToken_inj_operator hx.symm
  exact ⟨u, us, rfl, hu⟩

/-- The tokens of the kind of a contract: a word that begins one, maybe after another word. -/
theorem kind_shape {s : Nat} {u : List Token} {a : Terminal} {vs : List Value}
    (h : Builds s [.nonterminal .contractKind] u a vs) :
    ∃ x word, u = x ++ [word] ∧ (∀ t ∈ x, t = .keyword .kwAbstract) ∧ isContractWord (.ofToken word) = true := by
  obtain ⟨rule, us, top, hrule, hsub, -⟩ := h.inv
  simp only [Rule.all, List.mem_cons, List.not_mem_nil, or_false] at hrule
  rcases hrule with rfl | rfl | rfl | rfl
  · obtain ⟨u₁, u₂, us₁, us₂, s', rfl, rfl, -, h₁, h₂⟩ := Builds.split [Rule.k .kwAbstract] hsub
    obtain ⟨x₁, rfl, hx₁, -⟩ := h₁.inv_terminal
    obtain ⟨x₂, rfl, hx₂, -⟩ := Builds.inv_terminal h₂
    exact ⟨[x₁], x₂, rfl, by simpa using ofToken_inj_keyword hx₁.symm, by rw [← hx₂]; rfl⟩
  all_goals
    obtain ⟨x, rfl, hx, -⟩ := Builds.inv_terminal hsub
    exact ⟨[], x, rfl, by simp, by rw [← hx]; rfl⟩

/-- The tokens of a contract: a word that begins one, maybe after another word, the rest of the head, and in
braces the body. Behind the word there is no other such word outside braces. -/
theorem contract_shape {s : Nat} {u : List Token} {a : Terminal} {vs : List Value}
    (h : Builds s [.nonterminal .contractDefinition] u a vs) :
    ∃ x word y body, u = x ++ word :: y ++ .operator .openBrace :: body ++ [.operator .closeBrace] ∧
      (∀ t ∈ x, t = .keyword .kwAbstract) ∧ isContractWord (.ofToken word) = true ∧
      Guarded .openParen .closeParen (fun t => decide (Ends t)) 0 (x ++ word :: y) ∧
      braces 0 (x ++ word :: y) = some 0 ∧ braces 0 body = some 0 ∧
      Guarded .openBrace .closeBrace isContractWord 0 (y ++ .operator .openBrace :: body ++ [.operator .closeBrace]) := by
  obtain ⟨rule, us, top, hrule, hsub, -⟩ := h.inv
  obtain ⟨Ys, hsyms, hlevel⟩ : ∃ Ys, rule.symbols = [Rule.n .contractKind, Rule.n .nameOrFailure, Rule.n .bases] ++
      ([Rule.o .openBrace] ++ Ys ++ [Rule.o .closeBrace]) ∧ symbolLevel .openBrace .closeBrace 0 Ys = some 0 := by
    simp only [Rule.all, List.mem_cons, List.not_mem_nil, or_false] at hrule
    rcases hrule with rfl | rfl
    · exact ⟨[], rfl, rfl⟩
    · exact ⟨[Rule.n .contractParts], rfl, rfl⟩
  rw [hsyms] at hsub
  obtain ⟨head, v, us₁, us₂, s₁, rfl, rfl, -, hhead, hv⟩ := hsub.split _
  obtain ⟨u', us', rfl, hu'⟩ := Builds.split_last _ hv
  obtain ⟨p, body, us₃, us₄, s₂, rfl, rfl, -, hbrace, hbody⟩ := hu'.split _
  obtain ⟨x, rfl, hx, -⟩ := hbrace.inv_terminal
  obtain rfl := ofToken_inj_operator hx.symm
  have hguard := Builds.guarded parens_balanced head_guarded hhead (d := 0) rfl
  have hbraces := Builds.level braces_balanced hhead (d := 0) (e := 0) rfl
  obtain ⟨kind, y, us₅, us₆, s₃, rfl, rfl, -, hkind, hrest⟩ := Builds.split [Rule.n .contractKind] hhead
  have hbody := Builds.level braces_balanced hbody hlevel
  have hquiet : Guarded .openBrace .closeBrace isContractWord 0 (y ++ .operator .openBrace :: body ++ [.operator .closeBrace]) := by
    have hinside : Guarded .openBrace .closeBrace isContractWord 0 (.operator .openBrace :: body ++ [.operator .closeBrace]) :=
      ⟨fun _ => rfl, 1, rfl, guarded_append (guarded_inside hbody) (level_add hbody 1) ⟨fun _ => rfl, 0, rfl, trivial⟩⟩
    rw [List.append_assoc]
    exact guarded_append (Builds.guarded braces_balanced words_guarded hrest rfl)
      (Builds.level braces_balanced hrest (d := 0) (e := 0) rfl) hinside
  obtain ⟨x, word, rfl, hx, hword⟩ := kind_shape hkind
  rw [List.append_assoc, List.singleton_append] at hguard hbraces
  exact ⟨x, word, y, body, by simp, hx, hword, hguard, hbraces, hbody, hquiet⟩

/-- A contract is kept as one. -/
theorem contract_value {s : Nat} {u : List Token} {a : Terminal} {v : Value}
    (h : Builds s [.nonterminal .contractDefinition] u a [v]) : ∃ d, v.sourcePart? = some (.contract d) := by
  obtain ⟨rule, us, top, hrule, hsub, -, -, -, hv⟩ := h.inv
  injection hv with hv
  have hfirst : ∃ kind us', us = .contractKind kind :: us' := by
    obtain ⟨Ys, hsyms⟩ : ∃ Ys, rule.symbols = [Rule.n .contractKind] ++ Ys := by
      simp only [Rule.all, List.mem_cons, List.not_mem_nil, or_false] at hrule
      rcases hrule with rfl | rfl <;> exact ⟨_, rfl⟩
    rw [hsyms] at hsub
    obtain ⟨x, y, us₁, us₂, s₁, -, rfl, -, hkind, -⟩ := hsub.split _
    obtain ⟨rule', us₃, top', hrule', -, -, -, -, rfl⟩ := hkind.inv
    simp only [Rule.all, List.mem_cons, List.not_mem_nil, or_false] at hrule'
    rcases hrule' with rfl | rfl | rfl | rfl <;> exact ⟨_, us₂, rfl⟩
  obtain ⟨kind, us', rfl⟩ := hfirst
  simp only [Rule.all, List.mem_cons, List.not_mem_nil, or_false] at hrule
  rcases hrule with rfl | rfl <;> exact ⟨_, by rw [hv]; rfl⟩

/-- A part of a file is a contract, an annotation, or something that ends with a closing brace or a
semicolon and has no word of a contract outside braces. -/
theorem IsPart.kinds {u : List Token} {a : Terminal} {v : Value} (h : IsPart u a v) :
    Builds 0 [.nonterminal .contractDefinition] u a [v] ∨
    v.sourcePart? = some (.other .annotationCall) ∧ (∃ us, Builds 0 [.nonterminal .annotationCall] u a us) ∨
    ∃ kind x t, v = Value.topPart kind ∧ u = x ++ [t] ∧ Ends (.ofToken t) ∧
      Guarded .openBrace .closeBrace isContractWord 0 u := by
  rcases h.contract_or_other with ⟨hc, -⟩ | ⟨kind, X, us, rfl, hmem, hX⟩
  · exact Or.inl hc
  right
  by_cases hmarked : X = .nonterminal .annotationCall
  · subst hmarked
    left
    have hkind : kind = .annotationCall := by
      simp only [Rule.all, List.tail_cons, List.mem_cons, List.not_mem_nil, or_false, Rule.mk.injEq, List.cons.injEq,
        Rule.n, Rule.o, Symbol.nonterminal.injEq, reduceCtorEq, false_and, and_true, true_and, false_or,
        or_false] at hmem
      have := congrFun hmem fun _ => .absent
      injection this with this
      injection this
    exact ⟨by rw [hkind]; rfl, us, hX⟩
  · right
    have hrest : ∀ rule ∈ (Rule.all .sourcePart).tail, rule.symbols ≠ [.nonterminal .annotationCall] →
        (rule.symbols.getLast?.any fun X => X.ends) = true ∧
          symbolGuarded .openBrace .closeBrace isContractWord noContract 0 rule.symbols = true := by
      decide +kernel
    obtain ⟨hends, hguarded⟩ := hrest _ hmem (by simpa using hmarked)
    obtain ⟨x, t, rfl, ht⟩ := hX.ends rfl hends
    exact ⟨kind, x, t, rfl, rfl, ht, Builds.guarded braces_balanced words_guarded hX hguarded⟩

end SoliditySchema.Grammar
