/-
  SoliditySchema.Proofs.Extraction.Build — the result of a run over a source text.

  The contracts of the text are built one after the other. Either all of them can be built, and there is one
  database for each, in order; or the first that cannot be built ends the run, and what is named is the first
  declaration in it whose type resolves to no name (`all_or_nothing`).
-/

import Mathlib.Data.List.Forall2
import SoliditySchema.Extraction
import SoliditySchema.Proofs.Schema.FirstFailure

namespace SoliditySchema

/-- The first contract that cannot be built ends the building. -/
theorem Database.ofContracts_of_first {before after : List Outline.Contract} {c : Outline.Contract} {u : UnresolvedColumn}
    (hbefore : ∀ b ∈ before, ∃ d, ofContract b = .ok d) (hc : ofContract c = .error u) :
    (ofContracts (before ++ c :: after)).2 = .error (.unresolved c.name u) := by
  induction before with
  | nil => simp only [List.nil_append, ofContracts, hc]
  | cons b before ih =>
    obtain ⟨d, hd⟩ := hbefore b List.mem_cons_self
    have hrest := ih fun b hb => hbefore b (List.mem_cons_of_mem _ hb)
    simp only [List.cons_append, ofContracts, hd, hrest]
    rfl

/-- If every contract can be built, all are. -/
theorem Database.ofContracts_of_all {cs : List Outline.Contract} {ds : List Database}
    (h : List.Forall₂ (fun c d => ofContract c = .ok d) cs ds) : (ofContracts cs).2 = .ok ds := by
  induction h with
  | nil => rfl
  | cons hd _ ih =>
    simp only [ofContracts, hd, ih]
    rfl

/-- What building contracts comes to. -/
theorem Database.ofContracts_cases (cs : List Outline.Contract) :
    (∃ ds, (ofContracts cs).2 = .ok ds ∧ List.Forall₂ (fun c d => ofContract c = .ok d) cs ds) ∨
    ∃ before c after u, cs = before ++ c :: after ∧ (∀ b ∈ before, ∃ d, ofContract b = .ok d) ∧
      ofContract c = .error u ∧ (ofContracts cs).2 = .error (.unresolved c.name u) := by
  have hsplit : (∃ ds, List.Forall₂ (fun c d => ofContract c = .ok d) cs ds) ∨
      ∃ before c after u, cs = before ++ c :: after ∧ (∀ b ∈ before, ∃ d, ofContract b = .ok d) ∧
        ofContract c = .error u := by
    induction cs with
    | nil => exact .inl ⟨[], .nil⟩
    | cons c cs ih =>
      cases hc : ofContract c with
      | error u => exact .inr ⟨[], c, cs, u, rfl, by simp, hc⟩
      | ok d =>
        rcases ih with ⟨ds, hall⟩ | ⟨before, c', after, u, rfl, hbefore, hc'⟩
        · exact .inl ⟨d :: ds, .cons hc hall⟩
        · refine .inr ⟨c :: before, c', after, u, rfl, ?_, hc'⟩
          intro b hb
          rcases List.mem_cons.mp hb with rfl | hb
          · exact ⟨d, hc⟩
          · exact hbefore b hb
  rcases hsplit with ⟨ds, hall⟩ | ⟨before, c, after, u, rfl, hbefore, hc⟩
  · exact .inl ⟨ds, ofContracts_of_all hall, hall⟩
  · exact .inr ⟨before, c, after, u, rfl, hbefore, hc, ofContracts_of_first hbefore hc⟩

theorem Database.contracts_of_ofContracts {cs : List Outline.Contract} {ds : List Database}
    (h : (ofContracts cs).2 = .ok ds) : List.Forall₂ (fun c d => ofContract c = .ok d) cs ds := by
  rcases ofContracts_cases cs with ⟨ds', hds', hall⟩ | ⟨before, c, after, u, -, -, -, hresult⟩
  · rw [h] at hds'
    injection hds' with hds'
    rw [hds']
    exact hall
  · rw [h] at hresult
    cases hresult

theorem Database.ofContracts_ok_iff {cs : List Outline.Contract} {ds : List Database} :
    (ofContracts cs).2 = .ok ds ↔ List.Forall₂ (fun c d => ofContract c = .ok d) cs ds :=
  ⟨contracts_of_ofContracts, ofContracts_of_all⟩

/-- A contract that can be built. -/
def Outline.Contract.Builds (c : Outline.Contract) : Prop := ∃ d, Database.ofContract c = .ok d

theorem Database.ofContracts_error_iff {cs : List Outline.Contract} {e : RunError} :
    (ofContracts cs).2 = .error e ↔
      ∃ c u, IsFirst (fun c => ¬ c.Builds) cs c ∧ ofContract c = .error u ∧ e = .unresolved c.name u := by
  constructor
  · intro h
    rcases ofContracts_cases cs with ⟨ds, hds, -⟩ | ⟨before, c, after, u, hcs, hbefore, hc, hresult⟩
    · rw [h] at hds
      cases hds
    · rw [h] at hresult
      have hfails : ¬ c.Builds := fun ⟨d, hd⟩ => by rw [hc] at hd; cases hd
      refine ⟨c, u, ⟨before, after, hcs, hfails, ?_⟩, hc, by injection hresult⟩
      intro b hb
      exact not_not_intro (hbefore b hb)
  · intro ⟨c, u, ⟨before, after, hcs, _, hbefore⟩, hc, he⟩
    rw [hcs, he]
    exact ofContracts_of_first (fun b hb => not_not.mp (hbefore b hb)) hc

namespace Run

/-- What a run over a source text comes to, apart from its events. -/
theorem result_ofSource (settings : Settings) (source : String) :
    (Run.ofSource settings source).result =
      match (Outline.parse settings.tolerant source.toList).result with
      | .error ds => .error (.badSource ds)
      | .ok outline => (Database.ofContracts outline.contracts).2.map fun ds => ⟨ds, settings.formats⟩ := by
  unfold Run.ofSource
  dsimp only
  cases (Outline.parse settings.tolerant source.toList).result with
  | error ds => rfl
  | ok outline => rfl

theorem result_ofSource_error {settings : Settings} {source : String} {ds : List Diagnostic}
    (h : (Outline.parse settings.tolerant source.toList).result = .error ds) :
    (Run.ofSource settings source).result = .error (.badSource ds) := by
  rw [result_ofSource, h]

theorem result_ofSource_ok {settings : Settings} {source : String} {outline : Outline}
    (h : (Outline.parse settings.tolerant source.toList).result = .ok outline) :
    (Run.ofSource settings source).result =
      (Database.ofContracts outline.contracts).2.map fun ds => ⟨ds, settings.formats⟩ := by
  rw [result_ofSource, h]

open Outline (Contribution Gathers Group Inserted)

/-- What a contract contributes is determined. The contract fails exactly if some contributed variable has a
type that resolves to no name, and then the first such variable and its table are named. What is not
contributed may be put in or taken out, and parts in a row are built one after the other. A run over a source
text that parses builds all contracts in order, one database for each, or names the first that fails. -/
theorem all_or_nothing :
    (∀ c : Outline.Contract, ∃ gs, (∀ gs', Selected Gathers c.parts gs' ↔ gs' = gs) ∧
      (∀ u, Database.ofContract c = .error u ↔
        ∃ d, IsFirst Contribution.Unresolved (gs.flatMap Group.contributions) d ∧ u = d.column) ∧
      ((∃ db, Database.ofContract c = .ok db) ↔ ∀ d ∈ gs.flatMap Group.contributions, ¬ d.Unresolved)) ∧
    (∀ name ps ps', Relation.EqvGen Inserted ps ps' → Database.ofContract ⟨name, ps⟩ = Database.ofContract ⟨name, ps'⟩) ∧
    (∀ name ps qs, Database.ofContract ⟨name, ps ++ qs⟩ = do
      let first ← Database.ofContract ⟨name, ps⟩
      let second ← Database.ofContract ⟨name, qs⟩
      return ⟨name, first.tables ++ second.tables⟩) ∧
    ∀ (settings : Settings) (source : String),
      (∀ ds, (Outline.parse settings.tolerant source.toList).result = .error ds →
        (Run.ofSource settings source).result = .error (.badSource ds)) ∧
      ∀ outline, (Outline.parse settings.tolerant source.toList).result = .ok outline →
        (∀ report, (Run.ofSource settings source).result = .ok report ↔
          report.formats = settings.formats ∧
          List.Forall₂ (fun c d => Database.ofContract c = .ok d) outline.contracts report.databases) ∧
        ∀ e, (Run.ofSource settings source).result = .error e ↔
          ∃ c u, IsFirst (fun c => ¬ c.Builds) outline.contracts c ∧ Database.ofContract c = .error u ∧
            e = .unresolved c.name u := by
  refine ⟨?_, fun name _ _ => Database.ofContract_inserted name, Database.ofContract_append, ?_⟩
  · intro c
    obtain ⟨gs, hgs⟩ := Selected.exists_selected Gathers c.parts
    refine ⟨gs, fun gs' => ⟨fun h => ?_, fun h => by rw [h]; exact hgs⟩, Database.ofContract_of_gathers hgs⟩
    exact h.unique hgs fun _ _ _ => Outline.gathers_unique
  · intro settings source
    refine ⟨fun ds => result_ofSource_error, fun outline houtline => ?_⟩
    rw [result_ofSource_ok houtline]
    constructor
    · intro report
      rw [← Database.ofContracts_ok_iff]
      cases (Database.ofContracts outline.contracts).2 with
      | error e =>
        constructor
        · intro h
          cases h
        · intro ⟨_, h⟩
          cases h
      | ok ds =>
        constructor
        · intro h
          injection h with h
          rw [← h]
          exact ⟨rfl, rfl⟩
        · intro ⟨hformats, hdatabases⟩
          injection hdatabases with hdatabases
          rw [hdatabases, ← hformats]
          rfl
    · intro e
      rw [← Database.ofContracts_error_iff, ← failureOf_eq_some, failureOf_map, failureOf_eq_some]

/-- A mapping is found behind a slot that counts, and does not matter there; in a struct it is named. -/
theorem mapping_of_struct :
    Database.ofContract ⟨"A", [.function "f" [.declare [some ⟨"x", .builtin "bool"⟩, some ⟨"m", .mapping⟩]]]⟩ =
      Database.ofContract ⟨"A", [.function "f" [.declare [some ⟨"x", .builtin "bool"⟩]]]⟩ ∧
    (Run.ofSource ⟨false, []⟩ "contract A\x7bstruct S\x7bmapping(int=>int)m;\x7d\x7d").result =
      .error (.unresolved "A" ⟨"S", "m"⟩) := by
  obtain ⟨-, hinserted, -, hrun⟩ := all_or_nothing
  constructor
  · have hslot : Outline.SlotInserted [some ⟨"x", .builtin "bool"⟩] [some ⟨"x", .builtin "bool"⟩, some ⟨"m", .mapping⟩] :=
      .behind [_] _ [] List.mem_cons_self
    exact hinserted _ _ _ (.symm _ _ (.rel _ _ (.inside [] [] "f" (.slot [] [] hslot))))
  · have houtline : (Outline.parse false "contract A\x7bstruct S\x7bmapping(int=>int)m;\x7d\x7d".toList).result.toOption =
        some ⟨[.contract ⟨"A", [.structDefinition "S" [⟨"m", .mapping⟩]]⟩]⟩ := by decide +kernel
    cases hparsed : (Outline.parse false "contract A\x7bstruct S\x7bmapping(int=>int)m;\x7d\x7d".toList).result with
    | error ds => rw [hparsed] at houtline; cases houtline
    | ok outline =>
      rw [hparsed] at houtline
      obtain rfl := Option.some_inj.mp houtline
      obtain ⟨-, herror⟩ := (hrun ⟨false, []⟩ "contract A\x7bstruct S\x7bmapping(int=>int)m;\x7d\x7d").2 _ hparsed
      refine (herror _).mpr ⟨⟨"A", [.structDefinition "S" [⟨"m", .mapping⟩]]⟩, ⟨"S", "m"⟩, ⟨[], [], rfl, ?_, by simp⟩, rfl, rfl⟩
      intro ⟨d, hd⟩
      cases hd

end Run

end SoliditySchema
