/-
  SoliditySchema.Proofs.Grammar.Ends — where a part of a file ends.

  The rules of parts end with a token, or with a symbol whose rules do. Behind that token the automaton completes
  the part, whatever comes next, or it can do nothing at all (`part_ends`): it never reads on. At the end of a
  file it completes the part (`IsPart.at_end`).

  So no part goes on where another has ended (`IsPart.prefix_free`): reading it would come to the last token of the
  other one, and there the other is complete, or nothing can be done. What stands behind parts in a file is
  therefore a file of its own (`AreParts.cancel`).
-/

import SoliditySchema.Proofs.Grammar.Parts
import SoliditySchema.Proofs.Grammar.Places

namespace SoliditySchema.Grammar

open Automaton

variable {s top place : Nat} {n : Nonterminal} {X : Symbol} {w : List Token} {a b : Terminal} {v : Value}

/-! ## Behind a symbol -/

/-- Before a terminal tokens are read to symbols, and then nothing can be done. -/
structure Halted (s : Nat) (Ys : List Symbol) (w : List Token) (b : Terminal) (us : List Value) : Prop where
  builds : Builds s Ys w b us
  clear : ∀ v ∈ us, v.failure? = none
  stuck : ∀ top, path s Ys = some top → action top b = .stuck

/-- Before a terminal a symbol is complete, or its tokens are read to symbols with a property, and then nothing can
be done. -/
inductive Ending (P : List Symbol → Prop) (s : Nat) (X : Symbol) (w : List Token) (v : Value) (b : Terminal) : Prop
  | complete : Builds s [X] w b [v] → Ending P s X w v b
  | halted {Ys : List Symbol} {us : List Value} : b ≠ .finish → Halted s Ys w b us → P Ys → X.credit ≤ creditOf Ys →
      Ending P s X w v b

/-- Behind its last token nothing more is read to a symbol. -/
def EndsWithToken (P : List Symbol → Prop) (s : Nat) (X : Symbol) : Prop :=
  ∀ w a v, Builds s [X] w a [v] → w ≠ [] ∧ ∀ b, Ending P s X w v b

/-- In a state no token is read: a terminal completes a rule, which the end does, or nothing can be done. -/
def decides (top : Nat) (n : Nonterminal) (place : Nat) : Bool :=
  completion? top .finish == some (n, place) && Terminal.all.all fun a =>
    (read? top a).isNone && (completion? top a == none || completion? top a == some (n, place))

theorem action_of_decides {rule : Rule} (h : decides top n place = true) (hrule : (Rule.all n)[place]? = some rule) :
    action top .finish = .complete n rule ∧ ∀ a, action top a = .complete n rule ∨ action top a = .stuck := by
  simp only [decides, Bool.and_eq_true, beq_iff_eq, List.all_eq_true, Option.isNone_iff_eq_none, Bool.or_eq_true] at h
  obtain ⟨hfinish, hall⟩ := h
  refine ⟨action_eq_complete.mpr ⟨place, hfinish, hrule⟩, fun a => ?_⟩
  obtain ⟨hread, hnone | hcomplete⟩ := hall a a.mem_all
  · right
    rw [completion?, hread] at hnone
    simp only [action, hread, hnone]
  · left
    exact action_eq_complete.mpr ⟨place, hcomplete, hrule⟩

/-- A rule whose last symbol ends with a token is decided there. -/
structure RuleEnds (P : List Symbol → Prop) (s : Nat) (n : Nonterminal) (place : Nat) (rule : Rule) : Prop where
  decided : ∀ top, path s rule.symbols = some top → decides top n place = true
  symbols : P rule.symbols
  last : ∃ Xs Y Q, rule.symbols = Xs ++ [Y] ∧ (∀ Ys, Q Ys → P (Xs ++ Ys)) ∧
    ∀ s', path s Xs = some s' → EndsWithToken Q s' Y

variable {P : List Symbol → Prop}

theorem EndsWithToken.terminal (t : Terminal) : EndsWithToken P s (.terminal t) := by
  intro w a v h
  cases h with
  | @token _ s' _ t _ _ _ hread hrest =>
    cases hrest
    exact ⟨List.cons_ne_nil t [], fun b => .complete (Builds.token hread (Builds.nil s' b))⟩

theorem Builds.inv_join {vs : List Value} (h : Builds s [.nonterminal n] w a vs) :
    n ≠ .start ∧ ∃ s', join? s n = some s' := by
  cases h with
  | rule _ _ _ hn _ hjoin _ => exact ⟨hn, _, hjoin⟩

/-- A symbol ends with a token if the last symbols of its rules do. -/
theorem EndsWithToken.nonterminal (hends : ∀ place rule, (Rule.all n)[place]? = some rule → RuleEnds P s n place rule) :
    EndsWithToken P s (.nonterminal n) := by
  intro w a v h
  obtain ⟨hn, _, hjoin⟩ := h.inv_join
  obtain ⟨rule, us, top, hrule, hsub, htop, -, hfail, hv⟩ := h.inv
  obtain rfl := List.singleton_inj.mp hv
  have hcredit := credit_lt hrule
  obtain ⟨place, hlt, hat⟩ := List.mem_iff_getElem.mp hrule
  have hat : (Rule.all n)[place]? = some rule := by rw [List.getElem?_eq_getElem hlt, hat]
  obtain ⟨hdecided, hP, Xs, Y, Q, hsymbols, hQ, hY⟩ := hends place rule hat
  obtain ⟨hfinish, hact⟩ := action_of_decides (hdecided top htop) hat
  -- all symbols of the rule but the last one, and the last one
  rw [hsymbols] at hsub
  obtain ⟨u, y, us, vs, s', rfl, rfl, hpath, hu, hy⟩ := hsub.split Xs
  obtain ⟨z, rfl⟩ := List.length_eq_one_iff.mp hy.length_eq
  obtain ⟨hne, hending⟩ := hY s' hpath y a z hy
  have hfirst : ∀ b, firstOf y b = firstOf y a := by
    obtain ⟨t, y, rfl⟩ := List.exists_cons_of_ne_nil hne
    exact fun b => rfl
  refine ⟨List.append_ne_nil_of_right_ne_nil u hne, fun b => ?_⟩
  cases hending b with
  | complete hbuilds =>
    have hall : Builds s rule.symbols (u ++ y) b (us ++ [z]) := by
      rw [hsymbols]
      exact (hfirst b ▸ hu).append hpath hbuilds
    rcases hact b with hcomplete | hstuck
    · exact .complete (Builds.of_rule rule hall htop hcomplete hn hfail hjoin)
    · have hb : b ≠ .finish := by
        rintro rfl
        cases hfinish.symm.trans hstuck
      refine .halted hb ⟨hall, hfail, fun top' htop' => ?_⟩ hP (by omega)
      obtain rfl := Option.some_inj.mp (htop.symm.trans htop')
      exact hstuck
  | @halted Ys us' hb hhalted hYs hle =>
    refine .halted hb ⟨(hfirst b ▸ hu).append hpath hhalted.builds, fun v hv => ?_, fun top htop => ?_⟩ (hQ Ys hYs) ?_
    · rcases List.mem_append.mp hv with hv | hv
      · exact hfail v (List.mem_append_left _ hv)
      · exact hhalted.clear v hv
    · rw [path_append, hpath] at htop
      exact hhalted.stuck top htop
    · rw [hsymbols, creditOf_append, creditOf_cons, creditOf_nil] at hcredit
      rw [creditOf_append]
      omega

/-! ## Behind a part -/

/-- A symbol whose rules begin no import, and each end with a token or with a symbol whose rules do, and are decided
there. -/
def endsImportless : Nat → Nat → Symbol → Bool
  | _, _, .terminal _ => true
  | 0, _, .nonterminal _ => false
  | depth + 1, s, .nonterminal n => (List.range (Rule.all n).length).all fun place =>
    (path s (symbolsOf n place)).all (decides · n place) && !(symbolsOf n place).contains importWord &&
      (symbolsOf n place).getLast?.any fun Y =>
        (path s (symbolsOf n place).dropLast).all fun s' => endsImportless depth s' Y

theorem symbolsOf_eq {rule : Rule} (h : (Rule.all n)[place]? = some rule) :
    place < (Rule.all n).length ∧ symbolsOf n place = rule.symbols :=
  ⟨(List.getElem?_eq_some_iff.mp h).1, by rw [symbolsOf, h]⟩

theorem ends_importless {depth : Nat} (hX : endsImportless depth s X = true) : EndsWithToken (importWord ∉ ·) s X := by
  induction depth generalizing s X with
  | zero =>
    cases X with
    | terminal t => exact .terminal t
    | nonterminal n => cases hX
  | succ depth ih =>
    cases X with
    | terminal t => exact .terminal t
    | nonterminal n =>
      refine .nonterminal fun place rule hrule => ?_
      obtain ⟨hlt, hsyms⟩ := symbolsOf_eq hrule
      have hends := List.all_eq_true.mp hX place (List.mem_range.mpr hlt)
      rw [hsyms, Bool.and_eq_true, Bool.and_eq_true, Option.any_eq_true] at hends
      obtain ⟨⟨hdecided, himport⟩, Y, hlast, hY⟩ := hends
      have himport : importWord ∉ rule.symbols := by simpa using himport
      obtain ⟨Xs, hXs⟩ := List.getLast?_eq_some_iff.mp hlast
      rw [hXs, List.dropLast_concat] at hY
      refine ⟨fun top htop => ?_, himport, Xs, Y, _, hXs, fun Ys hYs => ?_, fun s' hs' => ih ?_⟩
      · rwa [htop] at hdecided
      · rw [hXs] at himport
        intro hmem
        rcases List.mem_append.mp hmem with hmem | hmem
        · exact himport (List.mem_append_left [Y] hmem)
        · exact hYs hmem
      · rwa [hs'] at hY

/-- What a part is read to where nothing can be done behind it: symbols of which none begins an import, or all of an
import. -/
def LastSymbols (Ys : List Symbol) : Prop := importWord ∈ Ys → ∃ rule ∈ Rule.all .importDirective, Ys = rule.symbols

theorem import_ends (hs : BeginsPart s) : EndsWithToken LastSymbols s (.nonterminal .importDirective) := by
  have hall : ∀ s ∈ [0, 2], ∀ place < (Rule.all .importDirective).length,
      (path s (symbolsOf .importDirective place)).all (decides · .importDirective place) = true := by
    decide +kernel
  have hlast : ∀ rule ∈ Rule.all .importDirective,
      rule.symbols.getLast? = some (.terminal (.operator .semicolon)) := by decide
  refine .nonterminal fun place rule hrule => ?_
  have hmem : rule ∈ Rule.all .importDirective := List.mem_of_getElem? hrule
  obtain ⟨hlt, hsyms⟩ := symbolsOf_eq hrule
  obtain ⟨Xs, hXs⟩ := List.getLast?_eq_some_iff.mp (hlast rule hmem)
  have hdecided := hall s hs.mem place hlt
  rw [hsyms] at hdecided
  refine ⟨fun top htop => ?_, fun _ => ⟨rule, hmem, rfl⟩, Xs, _, fun _ => False, hXs, fun _ h => h.elim,
    fun _ _ => .terminal _⟩
  rwa [htop] at hdecided

/-- A part of a file ends with a token. -/
theorem part_ends (hs : BeginsPart s) : EndsWithToken LastSymbols s (.nonterminal .sourcePart) := by
  have hall : ∀ s ∈ [0, 2], ∀ place < (Rule.all .sourcePart).length,
      ((path s (symbolsOf .sourcePart place)).all (decides · .sourcePart place) &&
        (symbolsOf .sourcePart place).all fun X =>
          X != importWord && (X == .nonterminal .importDirective || endsImportless 3 s X)) = true := by
    decide +kernel
  refine .nonterminal fun place rule hrule => ?_
  obtain ⟨hlt, hsyms⟩ := symbolsOf_eq hrule
  obtain ⟨X, hX, -⟩ := part_symbols (List.mem_of_getElem? hrule)
  have htable := hall s hs.mem place hlt
  rw [hsyms, Bool.and_eq_true, hX] at htable
  obtain ⟨hdecided, hends⟩ := htable
  simp only [List.all_cons, List.all_nil, Bool.and_true, Bool.and_eq_true, bne_iff_ne, Bool.or_eq_true, beq_iff_eq]
    at hends
  obtain ⟨hword, hends⟩ := hends
  refine ⟨fun top htop => ?_, fun hmem => ?_, [], X, LastSymbols, hX, fun _ h => h, fun s' hs' => ?_⟩
  · rw [hX] at htop
    rwa [htop] at hdecided
  · rw [hX, List.mem_singleton] at hmem
    exact absurd hmem.symm hword
  · obtain rfl : s = s' := Option.some_inj.mp hs'
    rcases hends with rfl | hends
    · exact import_ends hs
    · intro w a v h
      obtain ⟨hne, hending⟩ := ends_importless hends w a v h
      refine ⟨hne, fun b => ?_⟩
      cases hending b with
      | complete hbuilds => exact .complete hbuilds
      | halted hb hhalted hYs hle => exact .halted hb hhalted (fun hmem => absurd hmem hYs) hle

/-- At the end of a file a part is complete. -/
theorem IsPart.at_end {u : List Token} (h : IsPart u a v) : IsPart u .finish v := by
  obtain ⟨-, hending⟩ := part_ends (Or.inl rfl) u a v h
  cases hending .finish with
  | complete hbuilds => exact hbuilds
  | halted hb => exact absurd rfl hb

/-! ## Parts in a row -/

namespace Reading

/-- At the bottom of a stack stand parts that have been read, or the whole file. -/
def OnParts (Xs : List Symbol) : Prop :=
  Xs.getLast? = some (.nonterminal .sourceParts) ∨ Xs.getLast? = some (.nonterminal .sourceUnit)

/-- Where parts have been read a step does not take them off the stack. -/
theorem OnParts.join {stack : Stack} {Xs : List Symbol} (hl : Linked stack Xs) (h : OnParts Xs) {rule : Rule}
    (hact : action stack.state a = .complete n rule) (hn : n ≠ .start) :
    OnParts (.nonterminal n :: Xs.drop rule.symbols.length) := by
  have hrules : ∀ n ∈ Nonterminal.all, n ≠ .start → ∀ rule ∈ Rule.all n,
      rule.symbols.head? = some (.nonterminal .sourceParts) ∨ rule.symbols.head? = some (.nonterminal .sourceUnit) →
        n = .sourceParts ∨ n = .sourceUnit := by decide +kernel
  obtain ⟨hXs, -⟩ := hl.complete hact
  cases hdrop : Xs.drop rule.symbols.length with
  | nil =>
    -- the rule takes in all symbols
    rw [hdrop, List.append_nil] at hXs
    rw [OnParts, hXs, List.getLast?_reverse] at h
    rcases hrules n n.mem_all hn rule (mem_of_complete hact) h with rfl | rfl
    · exact Or.inl rfl
    · exact Or.inr rfl
  | cons X Ys =>
    rw [hdrop] at hXs
    rw [OnParts, hXs, List.getLast?_append, List.getLast?_cons] at h
    rwa [OnParts, List.getLast?_cons, List.getLast?_cons]

theorem Moves.on_parts {k : Nat} {stack stack' : Stack} {tokens tokens' : List PlacedToken}
    (h : Moves k stack tokens stack' tokens') {Xs : List Symbol} (hl : Linked stack Xs) (hXs : OnParts Xs) :
    ∃ Ys, Linked stack' Ys ∧ OnParts Ys := by
  induction h generalizing Xs with
  | stay => exact ⟨Xs, hl, hXs⟩
  | @read k s stack _ t _ _ hread _ ih =>
    refine ih (Linked.read hl hread _) ?_
    cases Xs with
    | nil => rcases hXs with hXs | hXs <;> cases hXs
    | cons X Xs => exact hXs
  | complete hact hn _ _ ih => exact ih (hl.join hact hn) (.join hl hXs hact hn)

/-- No part stands alone on a stack behind parts that have been read. -/
theorem OnParts.not_part {f : Frame} {Xs : List Symbol} (hl : Linked [f] Xs) (h : OnParts Xs) : f.state ≠ 3 := by
  have hparts : goto 0 (.nonterminal .sourceParts) = some 2 := by decide
  have hunit : goto 0 (.nonterminal .sourceUnit) = some 1 := by decide
  cases Xs with
  | nil => exact hl.elim
  | cons X Xs =>
    obtain ⟨hgoto, -, hnil⟩ := hl
    cases Xs with
    | cons Y Ys => exact hnil.elim
    | nil =>
      intro hstate
      rw [hstate] at hgoto
      rcases h with h | h
      · obtain rfl : X = .nonterminal .sourceParts := Option.some_inj.mp h
        cases hparts.symm.trans hgoto
      · obtain rfl : X = .nonterminal .sourceUnit := Option.some_inj.mp h
        cases hunit.symm.trans hgoto

/-- Behind the last token of a part nothing can be done, or the part is taken for parts of a file. -/
theorem moves_part {x : List PlacedToken} (h : IsPart (x.map PlacedToken.token) a v) (y : List PlacedToken) :
    ∃ (k : Nat) (stack : Stack), Moves k [] (x ++ y) stack y ∧
      (action stack.state (next y) = .stuck ∨ ∃ Xs, Linked stack Xs ∧ OnParts Xs) := by
  obtain ⟨-, hending⟩ := part_ends (Or.inl rfl) _ a v h
  cases hending (next y) with
  | complete hbuilds =>
    have hparts : AreParts [(x.map PlacedToken.token, v)] (next y) := ⟨hbuilds, trivial⟩
    obtain ⟨k, frames, -, hpushed, hmoves⟩ :=
      @builds_moves _ _ _ _ _ (hparts.builds (List.cons_ne_nil _ _)) [] x y rfl (List.append_nil _).symm rfl
    exact ⟨k, _, hmoves, Or.inr ⟨_, hpushed.linked [] trivial, Or.inl rfl⟩⟩
  | halted _ hhalted =>
    obtain ⟨k, frames, -, hpushed, hmoves⟩ := @builds_moves _ _ _ _ _ hhalted.builds [] x y rfl rfl rfl
    exact ⟨k, _, hmoves, Or.inl (hhalted.stuck _ hpushed.leads)⟩

end Reading

open Reading

/-- No part of a file goes on where another has ended. -/
theorem IsPart.prefix_free {u : List Token} {v' : Value} (h : IsPart u a v) (h' : IsPart (u ++ w) b v') : w = [] := by
  obtain ⟨x, rfl⟩ : ∃ x : List PlacedToken, x.map PlacedToken.token = u := ⟨_, tokens_map u⟩
  obtain ⟨y, rfl⟩ : ∃ y : List PlacedToken, y.map PlacedToken.token = w := ⟨_, tokens_map w⟩
  obtain ⟨l, frames, -, hpushed, hlong⟩ := @builds_moves _ _ _ _ _ h'.at_end [] (x ++ y) [] rfl List.map_append rfl
  obtain ⟨f, rfl⟩ := List.length_eq_one_iff.mp hpushed.length_eq
  have hstate : f.state = 3 := by
    have hpart : path 0 [.nonterminal .sourcePart] = some 3 := by decide
    exact Option.some_inj.mp (hpushed.leads.symm.trans hpart)
  obtain ⟨k, stack, hshort, hend⟩ := moves_part h y
  rw [List.append_nil] at hlong
  -- reading the longer part comes to the end of the shorter one, or ends before it
  rcases Nat.le_total k l with hle | hle
  · have hrest := hshort.linear hlong hle
    rcases hend with hstuck | ⟨Xs, hl, hXs⟩
    · rw [← hrest.eq_of_stuck hstuck]
      rfl
    · obtain ⟨Ys, hlinked, hYs⟩ := hrest.on_parts hl hXs
      exact absurd hstate (hYs.not_part hlinked)
  · have hlength := (hlong.linear hshort hle).length_le
    rw [List.eq_nil_of_length_eq_zero (Nat.le_zero.mp hlength)]
    rfl

/-- Tokens that are a whole file. -/
def IsFile (w : List Token) : Prop := ∃ ps, AreParts ps .finish ∧ tokensOf ps = w

/-- At the end of a file parts in a row are a file. -/
theorem AreParts.is_file {ps : List (List Token × Value)} (h : AreParts ps a) : IsFile (tokensOf ps) := by
  refine ⟨ps, ?_, rfl⟩
  rcases List.eq_nil_or_concat ps with rfl | ⟨init, p, rfl⟩
  · trivial
  rw [List.concat_eq_append] at h ⊢
  obtain ⟨hinit, hp, -⟩ := areParts_append.mp h
  refine areParts_append.mpr ⟨?_, hp.at_end, trivial⟩
  obtain ⟨t, u, hu⟩ := List.exists_cons_of_ne_nil hp.ne_nil
  have hfirst : ∀ b, firstOf (tokensOf [p]) b = .ofToken t := by simp [hu]
  rwa [hfirst] at hinit ⊢

/-- What stands behind parts in a file is a file of its own. -/
theorem AreParts.cancel {ps : List (List Token × Value)} {r : List Token} (hps : AreParts ps a)
    (h : IsFile (tokensOf ps ++ r)) : IsFile r := by
  induction ps with
  | nil => exact h
  | cons p ps ih =>
    obtain ⟨hp, hps⟩ := hps
    obtain ⟨qs, hqs, h⟩ := h
    cases qs with
    | nil =>
      obtain ⟨hnil, -⟩ := List.append_eq_nil_iff.mp h.symm
      obtain ⟨hnil, -⟩ := List.append_eq_nil_iff.mp hnil
      exact absurd hnil hp.ne_nil
    | cons q qs =>
      obtain ⟨hq, hqs⟩ := hqs
      have h : q.1 ++ tokensOf qs = p.1 ++ (tokensOf ps ++ r) := by rw [← List.append_assoc]; exact h
      -- both begin with the same part
      rcases List.append_eq_append_iff.mp h with ⟨z, hz, hrest⟩ | ⟨z, hz, hrest⟩
      · obtain rfl := hq.prefix_free (hz ▸ hp)
        exact ih hps ⟨qs, hqs, hrest⟩
      · obtain rfl := hp.prefix_free (hz ▸ hq)
        exact ih hps ⟨qs, hqs, hrest.symm⟩

/-- What ends within a part is no file: a part of it would end where another goes on. -/
theorem AreParts.not_file {ps : List (List Token × Value)} {x z : List Token} (hps : AreParts ps a)
    (hpart : IsPart (x ++ z) b v) (hx : x ≠ []) (hz : z ≠ []) : ¬ IsFile (tokensOf ps ++ x) := by
  intro hfile
  obtain ⟨qs, hqs, hq⟩ := hps.cancel hfile
  cases qs with
  | nil => exact hx hq.symm
  | cons q qs =>
    have hlong : x ++ z = q.1 ++ (tokensOf qs ++ z) := by
      rw [← List.append_assoc, ← hq]
      rfl
    have hnil := hqs.1.prefix_free (hlong ▸ hpart)
    exact hz (List.append_eq_nil_iff.mp hnil).2

end SoliditySchema.Grammar
