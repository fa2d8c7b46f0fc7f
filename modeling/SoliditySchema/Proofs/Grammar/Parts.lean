/-
  SoliditySchema.Proofs.Grammar.Parts — a file is built of its parts.

  A part of a file is built from the first state on just as it is behind other parts, since there the
  automaton goes on alike (`Builds.rebase`). So a whole file is built of the tokens of its parts in a row,
  each before what comes next (`sourceUnit_iff`).
-/

import SoliditySchema.Proofs.Grammar.Steps

namespace SoliditySchema.Grammar

open Automaton

/-! ## One nonterminal -/

theorem Builds.inv {s : Nat} {n : Nonterminal} {w : List Token} {a : Terminal} {vs : List Value}
    (h : Builds s [.nonterminal n] w a vs) :
    ∃ rule us top, rule ∈ Rule.all n ∧ Builds s rule.symbols w a us ∧ path s rule.symbols = some top ∧
      action top a = .complete n rule ∧ (∀ v ∈ us, v.failure? = none) ∧ vs = [rule.value (valueAt us)] := by
  cases h with
  | rule hsub htop hact hn hfail hjoin hrest =>
    cases hrest with
    | nil =>
      rw [List.append_nil]
      exact ⟨_, _, _, mem_of_complete hact, hsub, htop, hact, hfail, rfl⟩

theorem Builds.of_rule (rule : Rule) {s s' top : Nat} {n : Nonterminal} {w : List Token} {a : Terminal} {us : List Value}
    (hsub : Builds s rule.symbols w a us) (htop : path s rule.symbols = some top) (hact : action top a = .complete n rule)
    (hn : n ≠ .start) (hfail : ∀ v ∈ us, v.failure? = none) (hjoin : join? s n = some s') :
    Builds s [.nonterminal n] w a [rule.value (valueAt us)] := by
  have := Builds.rule (w := []) hsub htop hact hn hfail hjoin (Builds.nil s' a)
  rwa [List.append_nil] at this

theorem Builds.inv_terminal {s : Nat} {t : Terminal} {w : List Token} {a : Terminal} {vs : List Value}
    (h : Builds s [.terminal t] w a vs) : ∃ x, w = [x] ∧ t = .ofToken x ∧ vs = [.token ⟨x, 0, 0⟩] := by
  cases h with
  | token hread hrest =>
    cases hrest with
    | nil => exact ⟨_, rfl, rfl, rfl⟩

/-! ## Before and behind other parts -/

/-- The symbols that stand only above the parts of a file. -/
def isOuter : Symbol → Bool
  | .nonterminal .start => true
  | .nonterminal .sourceUnit => true
  | .nonterminal .sourceParts => true
  | .nonterminal .sourcePart => true
  | _ => false

/-- The states in which a part of a file begins: the first one, and the one behind other parts. -/
def BeginsPart (s : Nat) : Prop := s = 0 ∨ s = 2

theorem BeginsPart.mem {s : Nat} (hs : BeginsPart s) : s ∈ [0, 2] := by
  rcases hs with rfl | rfl
  · simp
  · simp

theorem goto_eq {s s' : Nat} (hs : BeginsPart s) (hs' : BeginsPart s') {X : Symbol} (hX : isOuter X = false) :
    goto s X = goto s' X := by
  have hsame : goto 0 X = goto 2 X := by
    cases X with
    | terminal t =>
      have hreads : (state 0).reads = (state 2).reads := by decide
      show digit? _ _ = digit? _ _
      rw [hreads]
    | nonterminal n =>
      have hall : ∀ n ∈ Nonterminal.all, isOuter (.nonterminal n) = false → join? 0 n = join? 2 n := by decide +kernel
      exact hall n n.mem_all hX
  rcases hs with rfl | rfl <;> rcases hs' with rfl | rfl
  · rfl
  · exact hsame
  · exact hsame.symm
  · rfl

/-- Nothing is complete where a part begins, but the file. -/
theorem outer_of_complete {s : Nat} (hs : BeginsPart s) {a : Terminal} {n : Nonterminal} {rule : Rule}
    (h : action s a = .complete n rule) : isOuter (.nonterminal n) = true := by
  obtain ⟨place, hc, -⟩ := action_eq_complete.mp h
  have hall : ∀ s ∈ [0, 2], ∀ a ∈ Terminal.all, ((completion? s a).all fun c => isOuter (.nonterminal c.1)) = true := by
    decide +kernel
  have := hall s hs.mem a a.mem_all
  rwa [hc] at this

theorem inner_symbols {n : Nonterminal} (hn : isOuter (.nonterminal n) = false) {rule : Rule} (h : rule ∈ Rule.all n) :
    ∀ X ∈ rule.symbols, isOuter X = false := by
  have hall : ∀ n ∈ Nonterminal.all, isOuter (.nonterminal n) = false → ∀ rule ∈ Rule.all n,
      ∀ X ∈ rule.symbols, isOuter X = false := by decide +kernel
  exact hall n n.mem_all hn rule h

/-- What a part begins with is built wherever a part begins. -/
theorem Builds.rebase {s s' : Nat} {X : Symbol} {Xs : List Symbol} {w : List Token} {a : Terminal} {vs : List Value}
    (h : Builds s (X :: Xs) w a vs) (hs : BeginsPart s) (hs' : BeginsPart s') (hX : isOuter X = false) :
    Builds s' (X :: Xs) w a vs := by
  generalize hYs : X :: Xs = Ys at h
  induction h generalizing X Xs with
  | nil => cases hYs
  | token hread hrest _ =>
    injection hYs with h1 h2
    subst h1 h2
    refine Builds.token ?_ hrest
    rw [← hread]
    exact goto_eq hs' hs hX
  | @rule s s₁ top n rule Zs u w a us vs hsub htop hact hn hfail hjoin hrest ihsub _ =>
    injection hYs with h1 h2
    subst h1 h2
    have hinner := inner_symbols hX (mem_of_complete hact)
    cases hsyms : rule.symbols with
    | nil =>
      rw [hsyms] at htop
      obtain rfl : s = top := Option.some_inj.mp htop
      rw [outer_of_complete hs hact] at hX
      cases hX
    | cons Y Zs =>
      have hY : isOuter Y = false := hinner Y (by rw [hsyms]; simp)
      have hsub' := ihsub hs hY hsyms.symm
      refine Builds.rule hsub' ?_ hact hn hfail ?_ hrest
      · rw [← htop, hsyms, path, path, goto_eq hs' hs hY]
      · rw [← hjoin]
        exact goto_eq hs' hs hX

/-! ## The parts of a file -/

/-- Tokens are a part of a file before a terminal. -/
def IsPart (u : List Token) (a : Terminal) (v : Value) : Prop := Builds 0 [.nonterminal .sourcePart] u a [v]

/-- The tokens of parts in a row. -/
abbrev tokensOf (ps : List (List Token × Value)) : List Token := ps.flatMap Prod.fst

/-- Parts of a file in a row, each before the next one, the last one before a terminal. -/
def AreParts : List (List Token × Value) → Terminal → Prop
  | [], _ => True
  | p :: ps, a => IsPart p.1 (firstOf (tokensOf ps) a) p.2 ∧ AreParts ps a

theorem areParts_append {ps qs : List (List Token × Value)} {a : Terminal} :
    AreParts (ps ++ qs) a ↔ AreParts ps (firstOf (tokensOf qs) a) ∧ AreParts qs a := by
  induction ps with
  | nil => simp [AreParts]
  | cons p ps ih => rw [List.cons_append, AreParts, AreParts, ih, tokensOf, List.flatMap_append, firstOf_append, and_assoc]

/-- What a part is made of: one definition, directive or semicolon, which is complete in a state of its
own. -/
theorem IsPart.inv {u : List Token} {a : Terminal} {v : Value} (h : IsPart u a v) :
    ∃ rule us top, rule ∈ Rule.all .sourcePart ∧ Builds 0 rule.symbols u a us ∧ path 0 rule.symbols = some top ∧
      action top a = .complete .sourcePart rule ∧ (∀ v ∈ us, v.failure? = none) ∧ v = rule.value (valueAt us) := by
  obtain ⟨rule, us, top, hrule, hsub, htop, hact, hfail, hv⟩ := Builds.inv h
  injection hv with hv
  exact ⟨rule, us, top, hrule, hsub, htop, hact, hfail, hv⟩

theorem IsPart.ne_nil {u : List Token} {a : Terminal} {v : Value} (h : IsPart u a v) : u ≠ [] := by
  rintro rfl
  exact absurd h.credit_le (by decide)

/-- The only symbol of a rule of parts. -/
theorem part_symbols {rule : Rule} (h : rule ∈ Rule.all .sourcePart) : ∃ X, rule.symbols = [X] ∧ isOuter X = false := by
  have hall : ∀ rule ∈ Rule.all .sourcePart, rule.symbols.length = 1 := by decide
  have hinner : ∀ rule ∈ Rule.all .sourcePart, ∀ X ∈ rule.symbols, isOuter X = false := by decide
  obtain ⟨X, hX⟩ := List.length_eq_one_iff.mp (hall rule h)
  exact ⟨X, hX, hinner rule h X (by rw [hX]; simp)⟩

/-- A part is a contract, or only its kind is kept. -/
theorem IsPart.contract_or_other {u : List Token} {a : Terminal} {v : Value} (h : IsPart u a v) :
    Builds 0 [.nonterminal .contractDefinition] u a [v] ∧ v.failure? = none ∨
      ∃ kind X us, v = Value.topPart kind ∧ ⟨[X], fun _ => Value.topPart kind⟩ ∈ (Rule.all .sourcePart).tail ∧
        Builds 0 [X] u a us := by
  obtain ⟨rule, us, top, hrule, hsub, htop, hact, hfail, rfl⟩ := h.inv
  rw [Rule.all, List.mem_cons] at hrule
  rcases hrule with rfl | hrule
  · left
    obtain ⟨v, rfl⟩ := List.length_eq_one_iff.mp hsub.length_eq
    exact ⟨hsub, hfail v (by simp)⟩
  · right
    have hmem : rule ∈ (Rule.all .sourcePart).tail := hrule
    have hother : ∃ kind X, rule = ⟨[X], fun _ => Value.topPart kind⟩ := by
      simp only [List.mem_cons, List.not_mem_nil, or_false] at hrule
      rcases hrule with rfl | rfl | rfl | rfl | rfl | rfl | rfl | rfl | rfl | rfl | rfl | rfl <;> exact ⟨_, _, rfl⟩
    obtain ⟨kind, X, rfl⟩ := hother
    exact ⟨kind, X, us, rfl, hmem, hsub⟩

theorem IsPart.not_failure {u : List Token} {a : Terminal} {v : Value} (h : IsPart u a v) : v.failure? = none := by
  rcases h.contract_or_other with ⟨-, hv⟩ | ⟨kind, X, us, rfl, -, -⟩
  · exact hv
  · rfl

theorem builds_part_iff {s : Nat} (hs : BeginsPart s) {u : List Token} {a : Terminal} {v : Value} :
    Builds s [.nonterminal .sourcePart] u a [v] ↔ IsPart u a v := by
  have hmove : ∀ {s s' : Nat}, BeginsPart s → BeginsPart s' → Builds s [.nonterminal .sourcePart] u a [v] →
      Builds s' [.nonterminal .sourcePart] u a [v] := by
    intro s s' hs hs' h
    obtain ⟨rule, us, top, hrule, hsub, htop, hact, hfail, hv⟩ := Builds.inv h
    obtain ⟨X, hX, hinner⟩ := part_symbols hrule
    rw [hX] at hsub htop
    have hjoin : (join? s' .sourcePart).isSome = true := by
      rcases hs' with rfl | rfl
      · decide
      · decide
    obtain ⟨_, hjoin⟩ := Option.isSome_iff_exists.mp hjoin
    rw [hv]
    refine Builds.of_rule _ (hX ▸ hsub.rebase hs hs' hinner) ?_ hact (by decide) hfail hjoin
    rw [hX, ← htop, path, path, goto_eq hs' hs hinner]
  exact ⟨hmove hs (Or.inl rfl), hmove (Or.inl rfl) hs⟩

/-- Before what may follow a part, the parts that end with it are complete as well. -/
theorem parts_complete {top : Nat} {a : Terminal} {rule : Rule} (hrule : rule ∈ Rule.all .sourcePart)
    (htop : path 0 rule.symbols = some top) (h : action top a = .complete .sourcePart rule) :
    completion? 3 a = some (.sourceParts, 0) ∧
      (path 0 [.nonterminal .sourceParts, .nonterminal .sourcePart]).bind (completion? · a) = some (.sourceParts, 1) := by
  have hall : ∀ rule ∈ Rule.all .sourcePart, ∀ a ∈ Terminal.all,
      ((path 0 rule.symbols).bind (completion? · a)).isSome → completion? 3 a = some (.sourceParts, 0) ∧
        (path 0 [.nonterminal .sourceParts, .nonterminal .sourcePart]).bind (completion? · a) =
          some (.sourceParts, 1) := by
    decide +kernel
  obtain ⟨place, hc, -⟩ := action_eq_complete.mp h
  refine hall rule hrule a a.mem_all ?_
  rw [htop]
  show (completion? top a).isSome = true
  rw [hc]
  rfl

/-- The value of parts in a row. -/
abbrev manyOf (ps : List (List Token × Value)) : Value := .many (ps.map Prod.snd).reverse

/-- What is built as parts is built as one part after the other. -/
theorem Builds.parts {Ys : List Symbol} {w : List Token} {a : Terminal} {vs : List Value}
    (h : Builds 0 (.nonterminal .sourceParts :: Ys) w a vs) :
    ∃ ps w' vs', ps ≠ [] ∧ w = tokensOf ps ++ w' ∧ vs = manyOf ps :: vs' ∧ AreParts ps (firstOf w' a) ∧
      Builds 2 Ys w' a vs' := by
  generalize hs : 0 = s at h
  generalize hXs : Symbol.nonterminal .sourceParts :: Ys = Xs at h
  induction h generalizing Ys with
  | nil => cases hXs
  | token _ _ _ => cases hXs
  | @rule s s' top n rule Xs u w a us vs hsub htop hact hn hfail hjoin hrest ihsub _ =>
    subst hs
    injection hXs with hm hYs
    injection hm with hm
    subst hm hYs
    have hs' : s' = 2 := by
      have h2 : join? 0 .sourceParts = some 2 := by decide
      exact Option.some_inj.mp (hjoin.symm.trans h2)
    have hrule := mem_of_complete hact
    simp only [Rule.all, List.mem_cons, List.not_mem_nil, or_false] at hrule
    rcases hrule with rfl | rfl
    · -- the first part
      have hlen := hsub.length_eq
      obtain ⟨v, rfl⟩ := List.length_eq_one_iff.mp hlen
      exact ⟨[(u, v)], w, vs, by simp, by simp [tokensOf], rfl, ⟨hsub, trivial⟩, hs' ▸ hrest⟩
    · -- one more part
      obtain ⟨ps, w', vs', hne, rfl, rfl, hps, hlast⟩ := ihsub rfl rfl
      have hlen := hlast.length_eq
      obtain ⟨v, rfl⟩ := List.length_eq_one_iff.mp hlen
      have hpart : IsPart w' (firstOf w a) v := (builds_part_iff (Or.inr rfl)).mp hlast
      refine ⟨ps ++ [(w', v)], w, vs, by simp, by simp [tokensOf], ?_, ?_, hs' ▸ hrest⟩
      · simp [manyOf, Value.more, valueAt]
      · rw [areParts_append]
        refine ⟨?_, ?_, trivial⟩
        · simpa [tokensOf] using hps
        · simpa [tokensOf] using hpart

/-- One part after the other is built as parts. -/
theorem AreParts.builds {ps : List (List Token × Value)} {a : Terminal} (h : AreParts ps a) (hne : ps ≠ []) :
    Builds 0 [.nonterminal .sourceParts] (tokensOf ps) a [manyOf ps] := by
  have hjoin : join? 0 .sourceParts = some 2 := by decide
  have hafter : path 0 [.nonterminal .sourcePart] = some 3 := by decide
  -- the parts before the last one, and then one more
  induction ps using List.reverseRecOn generalizing a with
  | nil => exact absurd rfl hne
  | append_singleton ps p ih =>
    obtain ⟨u, v⟩ := p
    obtain ⟨hps, hp, -⟩ := areParts_append.mp h
    have hp : IsPart u a v := hp
    obtain ⟨rule, us, top, hrule, -, htop, hact, -, hv⟩ := hp.inv
    have hfail := hp.not_failure
    obtain ⟨hfirst, hmore⟩ := parts_complete hrule htop hact
    by_cases hnil : ps = []
    · subst hnil
      have hact : action 3 a = .complete .sourceParts ⟨[Rule.n .sourcePart], fun v => Value.one (v 0)⟩ :=
        action_eq_complete.mpr ⟨0, hfirst, rfl⟩
      have := Builds.of_rule ⟨[Rule.n .sourcePart], fun v => Value.one (v 0)⟩ hp hafter hact (by decide)
        (by simpa using hfail) hjoin
      simpa [tokensOf, manyOf, Value.one, valueAt] using this
    · obtain ⟨top', htop', hmore⟩ := Option.bind_eq_some_iff.mp hmore
      have hact : action top' a = .complete .sourceParts
          ⟨[Rule.n .sourceParts, Rule.n .sourcePart], fun v => Value.more (v 0) (v 1)⟩ :=
        action_eq_complete.mpr ⟨1, hmore, rfl⟩
      have hps : AreParts ps (firstOf u a) := by simpa [tokensOf] using hps
      have hfirst := ih hps hnil
      have hpath : path 0 [.nonterminal .sourceParts] = some 2 := by rw [path, goto, hjoin]; rfl
      have hsub := Builds.append hfirst hpath ((builds_part_iff (Or.inr rfl)).mpr hp)
      have := Builds.of_rule ⟨[Rule.n .sourceParts, Rule.n .sourcePart], fun v => Value.more (v 0) (v 1)⟩
        hsub htop' hact (by decide) (by simpa [Value.failure?] using hfail) hjoin
      simpa [tokensOf, manyOf, Value.more, valueAt] using this

/-- The tree of a file with these parts. -/
def treeOf (ps : List (List Token × Value)) : SourceTree := ⟨ps.filterMap fun p => p.2.sourcePart?⟩

theorem sourceFile_manyOf (ps : List (List Token × Value)) : Value.sourceFile (manyOf ps) = .sourceTree (treeOf ps) := by
  rw [Value.sourceFile, Value.items, List.reverse_reverse, List.filterMap_map, treeOf]
  rfl

/-- A whole file is built of its parts, one after the other. -/
theorem sourceUnit_iff {w : List Token} {tree : SourceTree} :
    Builds 0 [.nonterminal .sourceUnit] w .finish [.sourceTree tree] ↔
      ∃ ps, AreParts ps .finish ∧ tokensOf ps = w ∧ treeOf ps = tree := by
  constructor
  · intro h
    obtain ⟨rule, us, top, hrule, hsub, -, -, -, hv⟩ := h.inv
    simp only [Rule.all, List.mem_cons, List.not_mem_nil, or_false] at hrule
    rcases hrule with rfl | rfl
    · cases hsub
      injection hv with hv
      injection hv with hv
      exact ⟨[], trivial, rfl, hv.symm⟩
    · obtain ⟨ps, w', vs', -, rfl, rfl, hps, hnil⟩ := Builds.parts hsub
      cases hnil
      refine ⟨ps, hps, by simp, ?_⟩
      have hvalue : Value.sourceFile (manyOf ps) = .sourceTree tree := by
        injection hv with hv
        exact hv.symm
      rw [sourceFile_manyOf] at hvalue
      injection hvalue
  · rintro ⟨ps, hps, rfl, rfl⟩
    have hjoin : join? 0 .sourceUnit = some 1 := by decide
    by_cases hnil : ps = []
    · subst hnil
      have hempty : completion? 0 .finish = some (.sourceUnit, 0) := by decide
      exact Builds.of_rule ⟨[], fun _ => Value.sourceFile .absent⟩ (Builds.nil 0 .finish) rfl
        (action_eq_complete.mpr ⟨0, hempty, rfl⟩) (by decide) (by simp) hjoin
    · have hparts : path 0 [.nonterminal .sourceParts] = some 2 := by decide
      have hend : completion? 2 .finish = some (.sourceUnit, 1) := by decide
      rw [← sourceFile_manyOf]
      exact Builds.of_rule ⟨[Rule.n .sourceParts], fun v => Value.sourceFile (v 0)⟩ (hps.builds hnil) hparts
        (action_eq_complete.mpr ⟨1, hend, rfl⟩) (by decide) (by simp [Value.failure?]) hjoin

end SoliditySchema.Grammar
