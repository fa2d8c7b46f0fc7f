/-
  SoliditySchema.Proofs.Grammar.Behind — errors behind a whole file.

  A part of a file is read to its last token whatever comes next (`part_reached`). So the tokens of a whole file
  are read without an error, and the first error, if there is any, is one of what stands behind them. Reading then
  goes on with symbols of the file, maybe in the middle of its last part, but nothing on the stack is a failure or
  begins an import, and so every later error is found behind the file as well (`ofTokens_behind`, `ofText_behind`).
  Only if an import ends the file, and is not complete before what comes next, the word that begins it is still on
  the stack; but there reading does not go on at all (`import_never_restarts`).
-/

import SoliditySchema.Proofs.Grammar.Ends
import SoliditySchema.Proofs.Token.Lexes

namespace SoliditySchema

namespace Grammar

open Automaton

/-! ## The end of an import -/

/-- Behind an import nothing can be done about text that cannot be read. -/
theorem import_stuck {s top : Nat} (hs : BeginsPart s) {rule : Rule} (hrule : rule ∈ Rule.all .importDirective)
    (htop : path s rule.symbols = some top) : action top .failure = .stuck := by
  have hall : ∀ s ∈ [0, 2], ∀ rule ∈ Rule.all .importDirective,
      ((path s rule.symbols).all fun top => (read? top .failure).isNone && (completion? top .failure).isNone) = true := by
    decide +kernel
  have htable := hall s hs.mem rule hrule
  rw [htop, Option.all_some, Bool.and_eq_true, Option.isNone_iff_eq_none, Option.isNone_iff_eq_none] at htable
  obtain ⟨hread, hnone⟩ := htable
  rw [completion?, hread] at hnone
  simp only [action, hread, hnone]

/-- Nowhere in an import, nor before it, may text stand that cannot be read. -/
theorem import_restarts {s s' k : Nat} (hs : BeginsPart s) {rule : Rule} (hrule : rule ∈ Rule.all .importDirective)
    (hpath : path s (rule.symbols.take k) = some s') : read? s' .failure = none := by
  have hlength : ∀ rule ∈ Rule.all .importDirective, rule.symbols.length < 8 := by decide
  have hall : ∀ rule ∈ Rule.all .importDirective, ∀ k < 8, ∀ s ∈ [0, 2],
      ((path s (rule.symbols.take k)).all fun s' => (read? s' .failure).isNone) = true := by
    decide +kernel
  have hk : min k rule.symbols.length < 8 := Nat.lt_of_le_of_lt (Nat.min_le_right _ _) (hlength rule hrule)
  have htable := hall rule hrule _ hk s hs.mem
  rw [← List.take_eq_take_min, hpath] at htable
  exact Option.isNone_iff_eq_none.mp htable

/-- While an import is read there is nowhere to go on behind an error. -/
theorem import_never_restarts {stack : Stack} {Zs : List Symbol} {rule : Rule}
    (hl : Linked stack (rule.symbols.reverse ++ Zs)) (hrule : rule ∈ Rule.all .importDirective)
    (hbegins : ∀ j, BeginsPart (Stack.state ((stack.drop rule.symbols.length).drop j))) (j : Nat) :
    read? (Stack.state (stack.drop j)) .failure = none := by
  rcases Nat.le_total j rule.symbols.length with hle | hle
  · have hlinked := hl.drop j
    rw [List.drop_append_of_le_length (by rwa [List.length_reverse]), List.drop_reverse] at hlinked
    have hpath := hlinked.leads
    rw [List.length_take, Nat.min_eq_left (Nat.sub_le _ j), List.drop_drop, Nat.add_sub_cancel' hle] at hpath
    exact import_restarts (hbegins 0) hrule hpath
  · have hbelow := hbegins (j - rule.symbols.length)
    rw [List.drop_drop, Nat.add_sub_cancel' hle] at hbelow
    exact import_restarts (k := 0) hbelow hrule rfl

/-! ## The last part of a file -/

/-- What the tokens of a part are read to before a terminal: symbols that begin no import, or an import that is not
complete before it. -/
inductive LastPart (s : Nat) (b : Terminal) (Ys : List Symbol) : Prop
  | importless : importWord ∉ Ys → LastPart s b Ys
  | incomplete {rule : Rule} : rule ∈ Rule.all .importDirective → Ys = rule.symbols →
      (∀ top, path s Ys = some top → action top b = .stuck) → LastPart s b Ys

/-- The last part of a file is read before a terminal, whatever it is. -/
theorem part_reached {s : Nat} (hs : BeginsPart s) {w : List Token} {a : Terminal} {v : Value}
    (h : Builds s [.nonterminal .sourcePart] w a [v]) (b : Terminal) :
    ∃ Ys us, Builds s Ys w b us ∧ (∀ v ∈ us, v.failure? = none) ∧ 0 ≤ creditOf Ys ∧ LastPart s b Ys := by
  obtain ⟨-, hending⟩ := part_ends hs w a v h
  cases hending b with
  | complete hbuilds =>
    have hv : v.failure? = none := ((builds_part_iff hs).mp h).not_failure
    exact ⟨_, [v], hbuilds, List.forall_mem_singleton.mpr hv, by decide, .importless (by decide)⟩
  | @halted Ys us _ hhalted hYs hle =>
    have hcredit : 0 ≤ (Symbol.nonterminal .sourcePart).credit := by decide
    refine ⟨Ys, us, hhalted.builds, hhalted.clear, hcredit.trans hle, ?_⟩
    by_cases himport : importWord ∈ Ys
    · obtain ⟨rule, hrule, hsymbols⟩ := hYs himport
      exact .incomplete hrule hsymbols hhalted.stuck
    · exact .importless himport

/-! ## Reading on -/

namespace Reading

open Stack

/-- A stack without a failure, on which nothing stands but the parts of a file that were read before. -/
structure HoldsParts (stack : Stack) (Xs : List Symbol) : Prop where
  linked : Linked stack Xs
  importless : importWord ∉ Xs
  clear : ∀ frame ∈ stack, frame.value.failure? = none
  begins : ∀ j, BeginsPart (Stack.state (stack.drop j))

/-- The parts of a file are read before what may follow them. -/
theorem read_parts {ps : List (List Token × Value)} {x rest : List PlacedToken} (hps : AreParts ps (next rest))
    (hx : x.map PlacedToken.token = tokensOf ps) :
    ∃ (k : Nat) (stack : Stack) (Xs : List Symbol), (k : Int) ≤ 25 * (x.length : Int) + 1 ∧ HoldsParts stack Xs ∧
      Moves k [] (x ++ rest) stack rest := by
  by_cases hne : ps = []
  · subst hne
    obtain rfl : x = [] := List.map_eq_nil_iff.mp hx
    refine ⟨0, [], [], by simp, ⟨trivial, List.not_mem_nil, List.forall_mem_nil _, fun j => Or.inl ?_⟩, .stay [] rest⟩
    rw [List.drop_nil]
    rfl
  · have hbegin : Stack.state [] = 0 := rfl
    obtain ⟨k, frames, hk, hpushed, hmoves⟩ := builds_moves (hps.builds hne) hbegin hx rfl
    obtain ⟨frame, rfl⟩ := List.length_eq_one_iff.mp hpushed.length_eq
    have hstate : frame.state = 2 := by
      have hparts : path 0 [.nonterminal .sourceParts] = some 2 := by decide
      exact Option.some_inj.mp (hpushed.leads.symm.trans hparts)
    have hcredit : -1 ≤ creditOf [.nonterminal .sourceParts] := by decide
    refine ⟨k, [frame], [.nonterminal .sourceParts], ?_, ⟨hpushed.linked [] trivial, by decide, ?_, ?_⟩, hmoves⟩
    · have hlength : x.length = (tokensOf ps).length := by rw [← hx, List.length_map]
      rw [hlength]
      omega
    · exact hpushed.clear (List.forall_mem_singleton.mpr rfl)
    · intro j
      cases j with
      | zero => exact Or.inr hstate
      | succ j => exact Or.inl (by simp [Stack.state])

/-- How the stack may stand behind the last token of a file: nothing of it makes an error, or reading ends with the
next token. -/
inductive BehindFile (stack : Stack) (Xs : List Symbol) (b : Terminal) : Prop
  | clear : (∀ frame ∈ stack, frame.value.failure? = none) → importWord ∉ Xs → BehindFile stack Xs b
  | stuck : action stack.state b = .stuck → action stack.state .failure = .stuck →
      (∀ j, read? (Stack.state (stack.drop j)) .failure = none) → BehindFile stack Xs b

theorem HoldsParts.behind {stack frames : Stack} {Zs Ys : List Symbol} {us : List Value} {b : Terminal}
    (h : HoldsParts stack Zs) (hends : LastPart stack.state b Ys) (hpushed : Pushed stack Ys us frames)
    (hus : ∀ v ∈ us, v.failure? = none) : BehindFile (frames ++ stack) (Ys.reverse ++ Zs) b := by
  cases hends with
  | importless hYs =>
    refine .clear (fun frame hframe => ?_) (by simp [hYs, h.importless])
    rcases List.mem_append.mp hframe with hframe | hframe
    · exact hpushed.clear hus frame hframe
    · exact h.clear frame hframe
  | @incomplete rule hrule hYs hstuck =>
    subst hYs
    have hlinked := hpushed.linked Zs h.linked
    refine .stuck (hstuck _ hpushed.leads) ?_ (import_never_restarts hlinked hrule (hpushed.drop.symm ▸ h.begins))
    exact import_stuck (h.begins 0) hrule hpushed.leads

/-- The tokens of a whole file are read without an error, whatever stands behind them. -/
theorem exists_behind {x : List PlacedToken} {tree : SourceTree} (hx : ofTokens x = ([], some tree))
    (y : List PlacedToken) :
    ∃ (m : Nat) (stack : Stack) (Xs : List Symbol), Linked stack Xs ∧ BehindFile stack Xs (next y) ∧
      ofTokens (x ++ y) = run (finish (x ++ y)) m stack [] y := by
  obtain ⟨ps, hps, htokens, -⟩ := sourceUnit_iff.mp (ofTokens_iff.mp hx)
  rcases List.eq_nil_or_concat ps with rfl | ⟨init, p, rfl⟩
  · obtain rfl : x = [] := List.map_eq_nil_iff.mp htokens.symm
    exact ⟨_, [], [], trivial, .clear (List.forall_mem_nil _) List.not_mem_nil, rfl⟩
  rw [List.concat_eq_append] at hps htokens
  obtain ⟨hinit, hlast, -⟩ := areParts_append.mp hps
  rw [tokensOf, List.flatMap_append, List.flatMap_singleton] at htokens
  obtain ⟨x₁, x₂, rfl, hx₁, hx₂⟩ := List.map_eq_append_iff.mp htokens.symm
  have hnext : next (x₂ ++ y) = firstOf (tokensOf [p]) .finish := by
    obtain ⟨t, w, hw⟩ := List.exists_cons_of_ne_nil hlast.ne_nil
    rw [next_append, hx₂, tokensOf, List.flatMap_singleton, hw]
    rfl
  -- the parts before the last one, and then the last one up to its last token
  obtain ⟨k₁, stack, Zs, hk₁, hparts, hmoves₁⟩ := read_parts (hnext ▸ hinit) hx₁
  have hbegin : BeginsPart stack.state := hparts.begins 0
  obtain ⟨Ys, us, hbuilds, hus, hcredit, hends⟩ := part_reached hbegin ((builds_part_iff hbegin).mpr hlast) (next y)
  obtain ⟨k₂, frames, hk₂, hpushed, hmoves₂⟩ := builds_moves hbuilds rfl hx₂ rfl
  obtain ⟨m, hm⟩ : ∃ m, fuel (x₁ ++ x₂ ++ y).length = m + k₂ + k₁ := by
    rw [← hx₂, List.length_map] at hk₂
    refine ⟨fuel (x₁ ++ x₂ ++ y).length - k₁ - k₂, ?_⟩
    unfold fuel
    simp only [List.length_append]
    omega
  refine ⟨m, frames ++ stack, Ys.reverse ++ Zs, hpushed.linked Zs hparts.linked, hparts.behind hends hpushed hus, ?_⟩
  rw [ofTokens, hm, List.append_assoc, hmoves₁.run_eq, hmoves₂.run_eq]

/-- All errors behind a whole file are found there. -/
theorem ofTokens_behind {P : Nat → Prop} {x y : List PlacedToken} {tree : SourceTree}
    (hx : ofTokens x = ([], some tree)) (hy : ∀ t ∈ y, P t.start ∧ P t.stop) :
    ∀ e ∈ (ofTokens (x ++ y)).1, P e.start := by
  cases hlast : y.getLast? with
  | none =>
    rw [List.getLast?_eq_none_iff.mp hlast, List.append_nil, hx]
    exact List.forall_mem_nil _
  | some last =>
    have hfinish : P (finish (x ++ y)) := by
      rw [finish, List.getLast?_append, hlast]
      exact (hy last (List.mem_of_getLast? hlast)).2
    obtain ⟨m, stack, Xs, hlinked, hbehind, hrun⟩ := exists_behind hx y
    rw [hrun]
    cases hbehind with
    | clear hclear himport =>
      refine places_of_stays hfinish fun f hf => ?_
      exact run_keeps (hf _ hfinish) m hlinked (.of_clear hclear himport) (List.forall_mem_nil _) (tokens_stay hy hf)
    | stuck hstuck hfail hnever =>
      rw [run_stuck hstuck hfail hnever]
      refine List.forall_mem_singleton.mpr ?_
      cases y with
      | nil => cases hlast
      | cons t y => exact (hy t List.mem_cons_self).1

end Reading

end Grammar

namespace SourceTree

/-- All errors behind a whole file, from the end of a line on, are found there. -/
theorem ofText_behind {x z : List Char} {tree : SourceTree} (hx : ofText x = .ok tree) {es : List SyntaxError}
    (h : ofText (x ++ '\n' :: z) = .error es) : ∀ e ∈ es, Text.byteLength x ≤ e.start := by
  obtain ⟨hfaults, hread⟩ := ofText_ok_iff.mp hx
  obtain ⟨phase, hlexes⟩ := Scan.scan_iff.mp ⟨hfaults, rfl⟩
  obtain ⟨tokens, htokens, hscan⟩ := Scan.ofSuffix_of_lexes (hlexes.of_sight (v := '\n' :: z) rfl) 0
  have hfile : Grammar.Reading.ofTokens tokens = ([], some tree) := by
    rw [Grammar.Reading.ofTokens_iff, htokens]
    exact Grammar.Reading.ofTokens_iff.mp hread
  have hplaced := Scan.placed_ofSuffix phase (0 + Text.byteLength x) 0 ('\n' :: z)
  have hreached : ∀ n, Scan.Reached (0 + Text.byteLength x) ('\n' :: z) n → Text.byteLength x ≤ n := by
    rintro n ⟨k, rfl⟩
    omega
  intro e he
  rw [ofText_errors h, Scan.ofText, hscan] at he
  rcases List.mem_append.mp he with he | he
  · exact hreached _ (hplaced.faults e he)
  · refine Grammar.Reading.ofTokens_behind hfile (fun t ht => ?_) e he
    exact ⟨hreached _ (hplaced.tokens t ht).1, hreached _ (hplaced.tokens t ht).2⟩

end SourceTree

end SoliditySchema
