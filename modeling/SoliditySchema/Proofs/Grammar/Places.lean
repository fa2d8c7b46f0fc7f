/-
  SoliditySchema.Proofs.Grammar.Places — where the errors of a file can be.

  Reading compares no places and computes none: it only hands on those of the tokens and the end of the last
  one. An error is that of a token when it is found, or of a name when a rule finds it, and only the rules of
  imports do, in a name above the word that begins the import. So what moves no failure on the stack and nothing
  above such a word (`Keeps`), and none of the tokens that are left, moves no error (`run_keeps`). In a whole
  file whatever holds of the places of the tokens holds of the places of the errors (`ofTokens_places`). Tokens
  and faulty characters begin and end between characters of the text, and so every error is found between two
  characters, or at an end of the text (`ofText_boundaries`).
-/

import SoliditySchema.Proofs.Grammar.Building
import SoliditySchema.Proofs.Text.Position

namespace SoliditySchema

namespace Grammar

open Automaton

variable {f : Nat → Nat}

/-! ## Values that stay -/

theorem Rule.value_stays {m : Nonterminal} {rule : Rule} (h : rule ∈ Rule.all m) {vs : List Value}
    (hvs : ∀ v ∈ vs, v.moved f = v) :
    (rule.value fun i => vs.getD i .absent).moved f = rule.value fun i => vs.getD i .absent := by
  rw [Rule.value_moved h]
  congr 1
  funext i
  rw [List.getD_eq_getElem?_getD]
  cases hi : vs[i]? with
  | none => rfl
  | some v => exact hvs v (List.mem_of_getElem? hi)

theorem failure_stays {v : Value} (hv : v.moved f = v) {e : SyntaxError} (he : v.failure? = some e) :
    f e.start = e.start := by
  have hmoved := congrArg Value.failure? hv
  rw [Value.failure?_moved, he] at hmoved
  exact congrArg SyntaxError.start (Option.some_inj.mp hmoved)

/-! ## Stacks that stay -/

/-- The word that begins an import. -/
abbrev importWord : Symbol := .terminal (.keyword .kwImport)

theorem import_symbols {rule : Rule} (h : rule ∈ Rule.all .importDirective) : ∃ Xs, rule.symbols = importWord :: Xs := by
  simp only [Rule.all, List.mem_cons, List.not_mem_nil, or_false] at h
  rcases h with rfl | rfl | rfl | rfl <;> exact ⟨_, rfl⟩

/-- The value of an import does not depend on the word that begins it. -/
theorem import_value {rule : Rule} (h : rule ∈ Rule.all .importDirective) (vs : List Value) :
    (rule.value fun i => vs.getD i .absent) = rule.value fun i => (Value.absent :: vs.tail).getD i .absent := by
  simp only [Rule.all, List.mem_cons, List.not_mem_nil, or_false] at h
  rcases h with rfl | rfl | rfl | rfl <;> cases vs <;> rfl

namespace Stack

variable {stack : Stack} {Xs : List Symbol}

/-- No value on the stack is moved. -/
def Stays (f : Nat → Nat) (stack : Stack) : Prop := ∀ frame ∈ stack, frame.value.moved f = frame.value

theorem Stays.cons {frame : Frame} (hframe : frame.value.moved f = frame.value) (h : stack.Stays f) :
    Stays f (frame :: stack) := by
  intro g hg
  rcases List.mem_cons.mp hg with rfl | hg
  · exact hframe
  · exact h g hg

theorem Stays.mono {below : Stack} (h : stack.Stays f) (hsub : below ⊆ stack) : below.Stays f :=
  fun frame hframe => h frame (hsub hframe)

/-- No failure on the stack is moved, nor anything above the word that begins an import. -/
structure Keeps (f : Nat → Nat) (stack : Stack) (Xs : List Symbol) : Prop where
  failures : ∀ frame ∈ stack, ∀ e, frame.value.failure? = some e → f e.start = e.start
  imports : ∀ k, Xs[k]? = some importWord → Stays f (stack.take k)

/-- What begins no import and has no failure keeps all. -/
theorem Keeps.of_clear (hfail : ∀ frame ∈ stack, frame.value.failure? = none) (himport : importWord ∉ Xs) :
    Keeps f stack Xs where
  failures := by
    intro frame hframe e he
    rw [hfail frame hframe] at he
    cases he
  imports := fun k hk => absurd (List.mem_of_getElem? hk) himport

theorem Keeps.push (h : Keeps f stack Xs) {frame : Frame} (hframe : frame.value.moved f = frame.value) (X : Symbol) :
    Keeps f (frame :: stack) (X :: Xs) where
  failures := by
    intro g hg e he
    rcases List.mem_cons.mp hg with rfl | hg
    · exact failure_stays hframe he
    · exact h.failures g hg e he
  imports := by
    intro k hk
    cases k with
    | zero => exact List.forall_mem_nil _
    | succ k => exact Stays.cons hframe (h.imports k hk)

theorem Keeps.drop (h : Keeps f stack Xs) (k : Nat) : Keeps f (stack.drop k) (Xs.drop k) where
  failures := fun frame hframe => h.failures frame (List.mem_of_mem_drop hframe)
  imports := by
    intro j hj
    rw [List.getElem?_drop] at hj
    rw [List.take_drop]
    exact (h.imports _ hj).mono (List.drop_subset k _)

/-- What a rule takes in are the values of frames. -/
theorem exists_frame {rule : Rule} {v : Value} (hv : v ∈ stack.ruleValues rule) :
    ∃ frame ∈ stack.take rule.symbols.length, frame.value = v := by
  rw [ruleValues, List.mem_reverse] at hv
  exact List.mem_map.mp hv

theorem Keeps.errors_stay (h : Keeps f stack Xs) (rule : Rule) {errors : List SyntaxError}
    (herrors : ∀ e ∈ errors, f e.start = e.start) : ∀ e ∈ errors ++ stack.failures rule, f e.start = e.start := by
  intro e he
  rcases List.mem_append.mp he with he | he
  · exact herrors e he
  · obtain ⟨v, hv, he⟩ := List.mem_filterMap.mp he
    obtain ⟨frame, hframe, rfl⟩ := exists_frame hv
    exact h.failures frame (List.mem_of_mem_take hframe) e he

/-- The values of an import, but for that of its first word, stand above that word. -/
theorem Keeps.import_stays (h : Keeps f stack Xs) {rule : Rule} (hrule : rule ∈ Rule.all .importDirective)
    {Ys : List Symbol} (hXs : Xs = rule.symbols.reverse ++ Ys) : ∀ v ∈ (stack.ruleValues rule).tail, v.moved f = v := by
  obtain ⟨Zs, hsymbols⟩ := import_symbols hrule
  have hword : Xs[Zs.length]? = some importWord := by
    rw [hXs, hsymbols, List.reverse_cons, List.append_assoc]
    simp
  have hstays := h.imports _ hword
  intro v hv
  rw [ruleValues, List.tail_reverse, List.mem_reverse, ← List.map_dropLast] at hv
  obtain ⟨frame, hframe, rfl⟩ := List.mem_map.mp hv
  refine hstays frame ?_
  rw [List.dropLast_eq_take, List.take_take, hsymbols] at hframe
  refine List.take_subset_take_left stack ?_ hframe
  simp only [List.length_take, List.length_cons]
  omega

/-- Completing a rule keeps all. -/
theorem Keeps.join (h : Keeps f stack Xs) (hl : Linked stack Xs) {a : Terminal} {n : Nonterminal} {rule : Rule}
    (hact : action stack.state a = .complete n rule) :
    Keeps f (stack.join n rule) (.nonterminal n :: Xs.drop rule.symbols.length) where
  failures := by
    have hrule := mem_of_complete hact
    intro frame hframe e he
    rcases List.mem_cons.mp hframe with rfl | hframe
    · by_cases hn : n = .importDirective
      · subst hn
        refine failure_stays ?_ he
        show (rule.value fun i => _).moved f = rule.value fun i => _
        rw [import_value hrule]
        refine Rule.value_stays hrule ?_
        intro v hv
        rcases List.mem_cons.mp hv with rfl | hv
        · rfl
        · exact h.import_stays hrule (hl.complete hact).1 v hv
      · rcases Rule.value_cases hrule hn fun i => (stack.ruleValues rule).getD i .absent with hnone | ⟨i, hi⟩
        · rw [hnone] at he
          cases he
        · -- the failure is one that the rule takes in
          rw [← hi] at he
          cases hv : (stack.ruleValues rule)[i]? with
          | none => rw [List.getD_eq_getElem?_getD, hv] at he; cases he
          | some v =>
            rw [List.getD_eq_getElem?_getD, hv, Option.getD_some] at he
            obtain ⟨frame, hframe, rfl⟩ := exists_frame (List.mem_of_getElem? hv)
            exact h.failures frame (List.mem_of_mem_take hframe) e he
    · exact h.failures frame (List.mem_of_mem_drop hframe) e he
  imports := by
    intro k hk
    cases k with
    | zero => exact List.forall_mem_nil _
    | succ k =>
      rw [List.getElem?_cons_succ] at hk
      have hbelow := (h.drop rule.symbols.length).imports k hk
      rw [List.getElem?_drop] at hk
      refine Stays.cons (Rule.value_stays (mem_of_complete hact) ?_) hbelow
      -- an import below the rule is below all that the rule takes in
      intro v hv
      obtain ⟨frame, hframe, rfl⟩ := exists_frame hv
      exact h.imports _ hk frame (List.take_subset_take_left stack (Nat.le_add_right _ k) hframe)

end Stack

/-! ## Errors that stay -/

namespace Reading

open Stack

theorem settle_keeps {stack : Stack} {Xs : List Symbol} (hl : Linked stack Xs) (h : Keeps f stack Xs)
    {errors : List SyntaxError} (herrors : ∀ e ∈ errors, f e.start = e.start) (n : Nat) :
    ∃ Ys, Linked (settle n stack errors).1 Ys ∧ Keeps f (settle n stack errors).1 Ys ∧
      ∀ e ∈ (settle n stack errors).2, f e.start = e.start := by
  induction n generalizing stack Xs errors with
  | zero => exact ⟨Xs, hl, h, herrors⟩
  | succ n ih =>
    rw [settle]
    split
    · rename_i m rule hact
      have hm : m ≠ .start := by
        rintro rfl
        obtain ⟨_, _, _, hfinish⟩ := hl.ends hact
        cases hfinish
      exact ih (hl.join hact hm) (h.join hl hact) (h.errors_stay rule herrors)
    · exact ⟨Xs, hl, h, herrors⟩

theorem unexpected_stays {last : Nat} (hlast : f last = last) {tokens : List PlacedToken}
    (htokens : ∀ t ∈ tokens, t.moved f = t) : (unexpected last tokens).moved f = unexpected last tokens := by
  cases tokens with
  | nil =>
    show (⟨f last, .unexpectedEnd⟩ : SyntaxError) = ⟨last, .unexpectedEnd⟩
    rw [hlast]
  | cons t tokens =>
    have hstart : f t.start = t.start := congrArg PlacedToken.start (htokens t List.mem_cons_self)
    show (⟨f t.start, .unexpectedToken t.token⟩ : SyntaxError) = ⟨t.start, .unexpectedToken t.token⟩
    rw [hstart]

/-- What moves no token that is left, and not the end of the last one, moves no error. -/
theorem run_keeps {last : Nat} (hlast : f last = last) (n : Nat) {stack : Stack} {Xs : List Symbol} (hl : Linked stack Xs)
    (h : Keeps f stack Xs) {errors : List SyntaxError} (herrors : ∀ e ∈ errors, f e.start = e.start)
    {tokens : List PlacedToken} (htokens : ∀ t ∈ tokens, t.moved f = t) :
    ∀ e ∈ (run last n stack errors tokens).1, f e.start = e.start := by
  have hwith : ∀ errors : List SyntaxError, (∀ e ∈ errors, f e.start = e.start) → ∀ tokens : List PlacedToken,
      (∀ t ∈ tokens, t.moved f = t) → ∀ e ∈ errors ++ [unexpected last tokens], f e.start = e.start := by
    intro errors herrors tokens htokens e he
    rcases List.mem_append.mp he with he | he
    · exact herrors e he
    · rw [List.mem_singleton.mp he]
      exact congrArg SyntaxError.start (unexpected_stays hlast htokens)
  induction n generalizing stack Xs errors tokens with
  | zero => exact hwith errors herrors tokens htokens
  | succ n ih =>
    rcases run_cases last n stack errors tokens with
      ⟨s, t, rest, rfl, hact, hrun⟩ | ⟨m, rule, hact, hm, hrun⟩ | ⟨rule, -, hrun⟩ | hrun <;> rw [hrun]
    · -- a token is read
      have hvalue : (Value.token t).moved f = .token t := congrArg Value.token (htokens t List.mem_cons_self)
      exact ih (Linked.read hl (read?_of_action hact) _) (h.push hvalue _) herrors
        fun t' ht' => htokens t' (List.mem_cons_of_mem t ht')
    · -- a rule is completed
      exact ih (hl.join hact hm) (h.join hl hact) (h.errors_stay rule herrors) htokens
    · exact herrors
    · -- reading goes on behind a failure, or ends with it
      obtain ⟨Ys, hlinked, hkeeps, herrors'⟩ := settle_keeps hl h herrors n
      unfold runOn
      split
      · rename_i below s rest hskip
        obtain ⟨k, rfl, hread, j, rfl⟩ := skipTo?_some hskip
        have hvalue : (Value.failure (unexpected last tokens)).moved f = .failure (unexpected last tokens) :=
          congrArg Value.failure (unexpected_stays hlast htokens)
        exact ih (Linked.read (hlinked.drop k) hread _) ((hkeeps.drop k).push hvalue _) herrors'
          fun t ht => htokens t (List.mem_of_mem_drop ht)
      · exact hwith _ herrors' tokens htokens

/-- What is so wherever nothing is moved that has a property has the property itself. -/
theorem places_of_stays {P : Nat → Prop} {p : Nat} (hp : P p) {es : List SyntaxError}
    (h : ∀ f : Nat → Nat, (∀ n, P n → f n = n) → ∀ e ∈ es, f e.start = e.start) : ∀ e ∈ es, P e.start := by
  classical
  intro e he
  by_contra hnot
  have hmoved := h (fun n => if P n then n else p) (fun n hn => if_pos hn) e he
  rw [if_neg hnot] at hmoved
  exact hnot (hmoved ▸ hp)

theorem tokens_stay {P : Nat → Prop} {tokens : List PlacedToken} (h : ∀ t ∈ tokens, P t.start ∧ P t.stop)
    (hf : ∀ n, P n → f n = n) : ∀ t ∈ tokens, t.moved f = t := by
  intro t ht
  show (⟨t.token, f t.start, f t.stop⟩ : PlacedToken) = t
  rw [hf _ (h t ht).1, hf _ (h t ht).2]

/-- Whatever holds of the places of the tokens holds of the places of the errors. -/
theorem ofTokens_places {P : Nat → Prop} {tokens : List PlacedToken} (h : ∀ t ∈ tokens, P t.start ∧ P t.stop) :
    ∀ e ∈ (ofTokens tokens).1, P e.start := by
  cases hlast : tokens.getLast? with
  | none =>
    rw [List.getLast?_eq_none_iff.mp hlast]
    have hempty : (ofTokens []).1 = [] := by decide +kernel
    rw [hempty]
    exact List.forall_mem_nil _
  | some last =>
    have hfinish : P (finish tokens) := by
      rw [finish, hlast]
      exact (h last (List.mem_of_getLast? hlast)).2
    refine places_of_stays hfinish fun f hf => ?_
    have hstack : Keeps f [] [] := .of_clear (List.forall_mem_nil _) List.not_mem_nil
    have hlinked : Linked [] [] := trivial
    exact run_keeps (hf _ hfinish) (fuel tokens.length) hlinked hstack (List.forall_mem_nil _) (tokens_stay h hf)

end Reading

end Grammar

/-! ## Characters -/

namespace Scan

open Text

/-- An offset between two characters of a text that begins at byte `start`. -/
def Reached (start : Nat) (cs : List Char) (offset : Nat) : Prop := ∃ n, offset = start + byteLength (cs.take n)

theorem Reached.cons {start offset : Nat} {c : Char} {cs : List Char} (h : Reached (start + c.utf8Size) cs offset) :
    Reached start (c :: cs) offset := by
  obtain ⟨n, hn⟩ := h
  refine ⟨n + 1, ?_⟩
  rw [List.take_succ_cons, byteLength_cons, hn, Nat.add_assoc]

/-- All that is read is placed between characters. -/
structure Placed (start : Nat) (cs : List Char) (scan : Scan) : Prop where
  tokens : ∀ t ∈ scan.tokens, Reached start cs t.start ∧ Reached start cs t.stop
  faults : ∀ e ∈ scan.faults, Reached start cs e.start

theorem Placed.cons {start : Nat} {c : Char} {cs : List Char} {scan : Scan} (h : Placed (start + c.utf8Size) cs scan) :
    Placed start (c :: cs) scan where
  tokens := fun t ht => ⟨(h.tokens t ht).1.cons, (h.tokens t ht).2.cons⟩
  faults := fun e he => (h.faults e he).cons

theorem Placed.addLexeme {start : Nat} {cs : List Char} {scan : Scan} (h : Placed start cs scan) (l : Lexeme) :
    Placed start cs (addLexeme l cs start scan) where
  tokens := by
    intro t ht
    rcases List.mem_append.mp ht with ht | ht
    · rw [Option.mem_toList] at ht
      obtain ⟨t', -, rfl⟩ := Option.map_eq_some_iff.mp ht
      exact ⟨⟨0, rfl⟩, ⟨t'.2, rfl⟩⟩
    · exact h.tokens t ht
  faults := by
    intro e he
    rcases List.mem_append.mp he with he | he
    · rw [Option.mem_toList] at he
      obtain ⟨e', -, rfl⟩ := Option.map_eq_some_iff.mp he
      exact ⟨e'.2, rfl⟩
    · exact h.faults e he

theorem placed_ofSuffix (phase : PragmaPhase) (start skip : Nat) (cs : List Char) :
    Placed start cs (ofSuffix phase start skip cs) := by
  induction cs generalizing phase start skip with
  | nil => exact ⟨List.forall_mem_nil _, List.forall_mem_nil _⟩
  | cons c cs ih =>
    cases skip with
    | zero => exact Placed.addLexeme (ih _ _ _).cons _
    | succ n => exact (ih _ _ _).cons

theorem isBoundary_of_reached {text : List Char} {offset : Nat} (h : Reached 0 text offset) : IsBoundary text offset := by
  obtain ⟨n, hn⟩ := h
  exact ⟨text.take n, text.drop n, (List.take_append_drop n text).symm, by rw [hn, Nat.zero_add]⟩

end Scan

/-! ## Whole texts -/

namespace SourceTree

/-- Whatever holds of the places of the tokens and of the faulty characters holds of the places of the errors. -/
theorem ofText_places {P : Nat → Prop} {text : List Char} (htokens : ∀ t ∈ (Scan.ofText text).tokens, P t.start ∧ P t.stop)
    (hfaults : ∀ e ∈ (Scan.ofText text).faults, P e.start) {es : List SyntaxError} (h : ofText text = .error es) :
    ∀ e ∈ es, P e.start := by
  intro e he
  rw [ofText_errors h] at he
  rcases List.mem_append.mp he with he | he
  · exact hfaults e he
  · exact Grammar.Reading.ofTokens_places htokens e he

/-- The errors of a text are found between its characters. -/
theorem ofText_boundaries {text : List Char} {es : List SyntaxError} (h : ofText text = .error es) :
    ∀ e ∈ es, Text.IsBoundary text e.start := by
  have hplaced := Scan.placed_ofSuffix .outside 0 0 text
  refine ofText_places ?_ ?_ h
  · intro t ht
    obtain ⟨hstart, hstop⟩ := hplaced.tokens t ht
    exact ⟨Scan.isBoundary_of_reached hstart, Scan.isBoundary_of_reached hstop⟩
  · intro e he
    exact Scan.isBoundary_of_reached (hplaced.faults e he)

end SourceTree

end SoliditySchema
