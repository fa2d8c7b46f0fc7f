/-
  SoliditySchema.Proofs.Extraction.Outcome — which failure ends a run, and what the files have to do with it.

  `Fails` says of each error, apart from the order of the work, when a command line and the files it names
  give cause for it: no file is named, the configuration cannot be read or says nothing sensible, and so on.
  Several causes may be there at once; the run ends with that of the first stage (`Run.ends_first`), and only
  if there is none does it report, and then everything (`Run.ends_complete`). Files bear on a run only through
  the source and the one configuration that is consulted (`Run.ofArguments_congr`).
-/

import SoliditySchema.Proofs.Extraction.Build
import SoliditySchema.Proofs.FileTree

namespace SoliditySchema

/-! ## Causes of failure -/

/-- The path of the configuration that a run consults: the one named, or else the usual one if there is a
file. -/
inductive Consults (files : Files) (args : Arguments) : String → Prop
  | named {path : String} : args.config = some path → Consults files args path
  | usual : args.config = none → files Config.fileName ≠ .error .notFound → Consults files args Config.fileName

/-- The configuration that a run goes by. -/
inductive HasConfig (files : Files) (args : Arguments) : Config → Prop
  | read {path text : String} {config : Config} : Consults files args path → files path = .ok text →
      Config.ofJsonText text = .ok config → HasConfig files args config
  | standard : args.config = none → files Config.fileName = .error .notFound → HasConfig files args Config.standard

/-- The outcome of parsing the source under the settings in effect. -/
def ParsesTo (files : Files) (args : Arguments) (result : Except (List Diagnostic) Outline) : Prop :=
  ∃ path source config, args.file = some path ∧ files path = .ok source ∧ HasConfig files args config ∧
    (Outline.parse (Settings.resolve args config).tolerant source.toList).result = result

/-- There is cause for an error. -/
inductive Fails (files : Files) (args : Arguments) : RunError → Prop
  | missingFile : args.file = none → Fails files args .missingFile
  | unreadableConfig {path : String} {e : ReadError} : Consults files args path → files path = .error e →
      Fails files args (.unreadableConfig path e)
  | invalidConfig {path text : String} {f : Json.Fault} : Consults files args path → files path = .ok text →
      Config.ofJsonText text = .error f → Fails files args (.invalidConfig path (f.message text))
  | unreadableSource {path : String} {e : ReadError} : args.file = some path → files path = .error e →
      Fails files args (.unreadableSource path e)
  | badSource {ds : List Diagnostic} : ParsesTo files args (.error ds) → Fails files args (.badSource ds)
  | unresolved {outline : Outline} {before after : List Outline.Contract} {c : Outline.Contract} {u : UnresolvedColumn} :
      ParsesTo files args (.ok outline) → outline.contracts = before ++ c :: after →
      (∀ b ∈ before, ∃ d, Database.ofContract b = .ok d) → Database.ofContract c = .error u →
      Fails files args (.unresolved c.name u)

/-- The stage of the work at which an error shows. -/
def RunError.stage : RunError → Nat
  | .missingFile => 0
  | .unreadableConfig _ _ => 1
  | .invalidConfig _ _ => 2
  | .unreadableSource _ _ => 3
  | .badSource _ => 4
  | .unresolved _ _ => 5

/-- There is cause for an error, and for none at an earlier stage. -/
def FirstFailure (files : Files) (args : Arguments) (e : RunError) : Prop :=
  Fails files args e ∧ ∀ e', Fails files args e' → e.stage ≤ e'.stage

/-- The whole report: a database for every contract of the source in order, in the formats in effect. -/
def Complete (files : Files) (args : Arguments) (report : Report) : Prop :=
  ∃ path source config outline, args.file = some path ∧ files path = .ok source ∧ HasConfig files args config ∧
    (Outline.parse (Settings.resolve args config).tolerant source.toList).result = .ok outline ∧
    List.Forall₂ (fun c d => Database.ofContract c = .ok d) outline.contracts report.databases ∧
    report.formats = (Settings.resolve args config).formats

/-! ## What there is at most one of -/

section Unique

variable {files : Files} {args : Arguments}

theorem Consults.unique {p q : String} (hp : Consults files args p) (hq : Consults files args q) : p = q := by
  cases hp with
  | named hp =>
    cases hq with
    | named hq => exact Option.some_inj.mp (hp.symm.trans hq)
    | usual hq _ => rw [hp] at hq; cases hq
  | usual hp _ =>
    cases hq with
    | named hq => rw [hp] at hq; cases hq
    | usual _ _ => rfl

/-- A configuration is consulted, or there is none. -/
theorem Consults.not_absent {p : String} (hp : Consults files args p) (hnone : args.config = none) :
    files Config.fileName ≠ .error .notFound := by
  cases hp with
  | named h => rw [hnone] at h; cases h
  | usual _ h => exact h

theorem HasConfig.of_consults {config : Config} (h : HasConfig files args config) {path : String}
    (hpath : Consults files args path) : ∃ text, files path = .ok text ∧ Config.ofJsonText text = .ok config := by
  cases h with
  | read hp htext hconfig =>
    rw [hpath.unique hp]
    exact ⟨_, htext, hconfig⟩
  | standard hnone habsent => exact absurd habsent (hpath.not_absent hnone)

theorem HasConfig.unique {c c' : Config} (h : HasConfig files args c) (h' : HasConfig files args c') : c = c' := by
  cases h with
  | read hp htext hconfig =>
    obtain ⟨text, htext', hconfig'⟩ := h'.of_consults hp
    rw [htext] at htext'
    injection htext' with htext'
    rw [← htext', hconfig] at hconfig'
    exact Except.ok.inj hconfig'
  | standard hnone habsent =>
    cases h' with
    | read hp _ _ => exact absurd habsent (hp.not_absent hnone)
    | standard _ _ => rfl

theorem ParsesTo.unique {r r' : Except (List Diagnostic) Outline} (h : ParsesTo files args r) (h' : ParsesTo files args r') :
    r = r' := by
  obtain ⟨path, source, config, hpath, hsource, hconfig, hr⟩ := h
  obtain ⟨path', source', config', hpath', hsource', hconfig', hr'⟩ := h'
  obtain rfl := Option.some_inj.mp (hpath.symm.trans hpath')
  obtain rfl := Except.ok.inj (hsource.symm.trans hsource')
  obtain rfl := hconfig.unique hconfig'
  exact hr.symm.trans hr'

end Unique

/-! ## The ways in which a run ends -/

/-- What a run comes to, with all that went well before. -/
inductive EndsIn (files : Files) (args : Arguments) : Except RunError Report → Prop
  | missingFile : args.file = none → EndsIn files args (.error .missingFile)
  | unreadableConfig {file path : String} {e : ReadError} : args.file = some file → Consults files args path →
      files path = .error e → EndsIn files args (.error (.unreadableConfig path e))
  | invalidConfig {file path text : String} {f : Json.Fault} : args.file = some file → Consults files args path →
      files path = .ok text → Config.ofJsonText text = .error f →
      EndsIn files args (.error (.invalidConfig path (f.message text)))
  | unreadableSource {file : String} {config : Config} {e : ReadError} : args.file = some file →
      HasConfig files args config → files file = .error e → EndsIn files args (.error (.unreadableSource file e))
  | badSource {ds : List Diagnostic} : ParsesTo files args (.error ds) → EndsIn files args (.error (.badSource ds))
  | unresolved {outline : Outline} {before after : List Outline.Contract} {c : Outline.Contract} {u : UnresolvedColumn} :
      ParsesTo files args (.ok outline) → outline.contracts = before ++ c :: after →
      (∀ b ∈ before, ∃ d, Database.ofContract b = .ok d) → Database.ofContract c = .error u →
      EndsIn files args (.error (.unresolved c.name u))
  | report {report : Report} : Complete files args report → EndsIn files args (.ok report)

theorem Config.load_cases (files : Files) (path : String) :
    (∃ e, files path = .error e ∧ (load files path).2 = .error (.unreadableConfig path e)) ∨
    (∃ text f, files path = .ok text ∧ Config.ofJsonText text = .error f ∧
      (load files path).2 = .error (.invalidConfig path (f.message text))) ∨
    ∃ text config, files path = .ok text ∧ Config.ofJsonText text = .ok config ∧ (load files path).2 = .ok config := by
  unfold load
  cases hread : files path with
  | error e => exact .inl ⟨e, rfl, rfl⟩
  | ok text =>
    cases hconfig : Config.ofJsonText text with
    | error f => exact .inr (.inl ⟨text, f, rfl, hconfig, by simp only [hconfig]⟩)
    | ok config => exact .inr (.inr ⟨text, config, rfl, hconfig, by simp only [hconfig]⟩)

theorem Config.load_congr {files files' : Files} {path : String} (h : files' path = files path) :
    load files' path = load files path := by
  unfold load
  rw [h]

/-- The configuration is that of the file consulted; if none is, there is none to consult, and it is the standard. -/
theorem Config.discover_cases (files : Files) (args : Arguments) :
    (∃ path, Consults files args path ∧ discover files args.config = load files path) ∨
    (args.config = none ∧ files fileName = .error .notFound ∧ discover files args.config = ([], .ok standard)) := by
  cases hnamed : args.config with
  | some path => exact .inl ⟨path, .named hnamed, rfl⟩
  | none =>
    by_cases habsent : files fileName = .error .notFound
    · refine .inr ⟨rfl, habsent, ?_⟩
      simp only [discover, habsent]
    · refine .inl ⟨fileName, .usual hnamed habsent, ?_⟩
      simp only [discover]

namespace Run

section Ends

variable {files : Files} {args : Arguments}

theorem ends_ofSource {file source : String} {config : Config} (hfile : args.file = some file)
    (hsource : files file = .ok source) (hconfig : HasConfig files args config) :
    EndsIn files args (Run.ofSource (Settings.resolve args config) source).result := by
  cases hparsed : (Outline.parse (Settings.resolve args config).tolerant source.toList).result with
  | error ds =>
    rw [result_ofSource_error hparsed]
    exact .badSource ⟨file, source, config, hfile, hsource, hconfig, hparsed⟩
  | ok outline =>
    rw [result_ofSource_ok hparsed]
    rcases Database.ofContracts_cases outline.contracts with ⟨ds, hds, hall⟩ | ⟨before, c, after, u, hcs, hbefore, hc, hu⟩
    · rw [hds]
      exact .report ⟨file, source, config, outline, hfile, hsource, hconfig, hparsed, hall, rfl⟩
    · rw [hu]
      exact .unresolved ⟨file, source, config, hfile, hsource, hconfig, hparsed⟩ hcs hbefore hc

theorem ends_ofFile {file : String} {config : Config} (hfile : args.file = some file)
    (hconfig : HasConfig files args config) :
    EndsIn files args (Run.ofFile files (Settings.resolve args config) file).result := by
  unfold ofFile
  cases hsource : files file with
  | error e => exact .unreadableSource hfile hconfig hsource
  | ok source => exact ends_ofSource hfile hsource hconfig

theorem result_ofArguments {file : String} (hfile : args.file = some file) :
    (Run.ofArguments files args).result =
      match (Config.discover files args.config).2 with
      | .error e => .error e
      | .ok config => (Run.ofFile files (Settings.resolve args config) file).result := by
  unfold ofArguments
  rw [hfile]
  dsimp only
  rcases Config.discover files args.config with ⟨events, e | config⟩
  · rfl
  · rfl

/-- A run ends in one of the ways there are. -/
theorem ends (files : Files) (args : Arguments) : EndsIn files args (Run.ofArguments files args).result := by
  cases hfile : args.file with
  | none =>
    have hresult : Run.ofArguments files args = .failed .missingFile := by
      unfold ofArguments
      rw [hfile]
    rw [hresult]
    exact .missingFile hfile
  | some file =>
    rw [result_ofArguments hfile]
    rcases Config.discover_cases files args with ⟨path, hpath, hload⟩ | ⟨hnone, habsent, hstandard⟩
    · rw [hload]
      rcases Config.load_cases files path with ⟨e, hread, hresult⟩ | ⟨text, f, hread, hinvalid, hresult⟩ |
        ⟨text, config, hread, hvalid, hresult⟩
      · rw [hresult]
        exact .unreadableConfig hfile hpath hread
      · rw [hresult]
        exact .invalidConfig hfile hpath hread hinvalid
      · rw [hresult]
        exact ends_ofFile hfile (.read hpath hread hvalid)
    · rw [hstandard]
      exact ends_ofFile hfile (.standard hnone habsent)

end Ends

end Run

/-! ## The first failure -/

namespace Fails

variable {files : Files} {args : Arguments} {e : RunError}

theorem stage_of_file {file : String} (hfile : args.file = some file) (h : Fails files args e) : 1 ≤ e.stage := by
  cases h with
  | missingFile hnone => rw [hfile] at hnone; cases hnone
  | _ => simp only [RunError.stage]; omega

theorem stage_of_readable {file path text : String} (hfile : args.file = some file) (hpath : Consults files args path)
    (hread : files path = .ok text) (h : Fails files args e) : 2 ≤ e.stage := by
  have hstage := h.stage_of_file hfile
  cases h with
  | missingFile _ => simp only [RunError.stage] at hstage; omega
  | unreadableConfig hp he =>
    rw [hp.unique hpath, hread] at he
    cases he
  | _ => simp only [RunError.stage]; omega

theorem stage_of_config {file : String} {config : Config} (hfile : args.file = some file)
    (hconfig : HasConfig files args config) (h : Fails files args e) : 3 ≤ e.stage := by
  have hstage := h.stage_of_file hfile
  cases h with
  | missingFile _ => simp only [RunError.stage] at hstage; omega
  | unreadableConfig hp he =>
    obtain ⟨text, hread, _⟩ := hconfig.of_consults hp
    rw [hread] at he
    cases he
  | invalidConfig hp he hf =>
    obtain ⟨text, hread, hvalid⟩ := hconfig.of_consults hp
    obtain rfl := Except.ok.inj (hread.symm.trans he)
    rw [hvalid] at hf
    cases hf
  | _ => simp only [RunError.stage]; omega

theorem stage_of_parses {r : Except (List Diagnostic) Outline} (hparses : ParsesTo files args r)
    (h : Fails files args e) : 4 ≤ e.stage := by
  obtain ⟨file, source, config, hfile, hsource, hconfig, _⟩ := hparses
  have hstage := h.stage_of_config hfile hconfig
  cases h with
  | unreadableSource hf he =>
    obtain rfl := Option.some_inj.mp (hfile.symm.trans hf)
    rw [hsource] at he
    cases he
  | badSource _ => simp only [RunError.stage]; omega
  | unresolved _ _ _ _ => simp only [RunError.stage]; omega
  | _ => simp only [RunError.stage] at hstage; omega

theorem stage_of_outline {outline : Outline} (hparses : ParsesTo files args (.ok outline)) (h : Fails files args e) :
    5 ≤ e.stage := by
  have hstage := h.stage_of_parses hparses
  cases h with
  | badSource hbad => cases hbad.unique hparses
  | unresolved _ _ _ _ => simp only [RunError.stage]; omega
  | _ => simp only [RunError.stage] at hstage; omega

/-- A run that can report everything has no cause to fail. -/
theorem not_complete {report : Report} (hcomplete : Complete files args report) : ¬ Fails files args e := by
  intro h
  obtain ⟨file, source, config, outline, hfile, hsource, hconfig, hparsed, hall, _⟩ := hcomplete
  have hparses : ParsesTo files args (.ok outline) := ⟨file, source, config, hfile, hsource, hconfig, hparsed⟩
  have hstage := h.stage_of_outline hparses
  cases h with
  | unresolved hp hcs hbefore hc =>
    obtain rfl := Except.ok.inj (hp.unique hparses)
    have hbuilt := Database.ofContracts_of_all hall
    rw [hcs, Database.ofContracts_of_first hbefore hc] at hbuilt
    cases hbuilt
  | _ => simp only [RunError.stage] at hstage; omega

/-- At one stage there is one error. -/
theorem unique_of_stage {e' : RunError} (h : Fails files args e) (h' : Fails files args e') (hstage : e.stage = e'.stage) :
    e = e' := by
  cases h with
  | missingFile _ =>
    cases h' with
    | missingFile _ => rfl
    | _ => cases hstage
  | unreadableConfig hp he =>
    cases h' with
    | unreadableConfig hp' he' =>
      obtain rfl := hp.unique hp'
      obtain rfl := Except.error.inj (he.symm.trans he')
      rfl
    | _ => cases hstage
  | invalidConfig hp ht hf =>
    cases h' with
    | invalidConfig hp' ht' hf' =>
      obtain rfl := hp.unique hp'
      obtain rfl := Except.ok.inj (ht.symm.trans ht')
      obtain rfl := Except.error.inj (hf.symm.trans hf')
      rfl
    | _ => cases hstage
  | unreadableSource hp he =>
    cases h' with
    | unreadableSource hp' he' =>
      obtain rfl := Option.some_inj.mp (hp.symm.trans hp')
      obtain rfl := Except.error.inj (he.symm.trans he')
      rfl
    | _ => cases hstage
  | badSource hp =>
    cases h' with
    | badSource hp' =>
      obtain rfl := Except.error.inj (hp.unique hp')
      rfl
    | _ => cases hstage
  | unresolved hp hcs hbefore hc =>
    cases h' with
    | unresolved hp' hcs' hbefore' hc' =>
      obtain rfl := Except.ok.inj (hp.unique hp')
      have hfirst := congrArg (fun cs => (Database.ofContracts cs).2) (hcs.symm.trans hcs')
      simp only [Database.ofContracts_of_first hbefore hc, Database.ofContracts_of_first hbefore' hc'] at hfirst
      exact Except.error.inj hfirst
    | _ => cases hstage

end Fails

/-- A run that ends with an error ends with the first there is cause for. -/
theorem EndsIn.firstFailure {files : Files} {args : Arguments} {e : RunError} (h : EndsIn files args (.error e)) :
    FirstFailure files args e := by
  cases h with
  | missingFile hfile => exact ⟨.missingFile hfile, fun _ _ => Nat.zero_le _⟩
  | unreadableConfig hfile hp he => exact ⟨.unreadableConfig hp he, fun _ h' => h'.stage_of_file hfile⟩
  | invalidConfig hfile hp ht hf => exact ⟨.invalidConfig hp ht hf, fun _ h' => h'.stage_of_readable hfile hp ht⟩
  | unreadableSource hfile hconfig he => exact ⟨.unreadableSource hfile he, fun _ h' => h'.stage_of_config hfile hconfig⟩
  | badSource hp => exact ⟨.badSource hp, fun _ h' => h'.stage_of_parses hp⟩
  | unresolved hp hcs hbefore hc => exact ⟨.unresolved hp hcs hbefore hc, fun _ h' => h'.stage_of_outline hp⟩

theorem EndsIn.complete {files : Files} {args : Arguments} {report : Report} (h : EndsIn files args (.ok report)) :
    Complete files args report := by
  cases h with
  | report h => exact h

namespace Run

variable {files : Files} {args : Arguments}

/-- A run ends with the failure of the first stage that fails. -/
theorem ends_first {e : RunError} (h : FirstFailure files args e) : (Run.ofArguments files args).result = .error e := by
  have hends := ends files args
  cases hresult : (Run.ofArguments files args).result with
  | ok report =>
    rw [hresult] at hends
    exact absurd h.1 (Fails.not_complete hends.complete)
  | error e' =>
    rw [hresult] at hends
    have hfirst := hends.firstFailure
    have hstage : e'.stage = e.stage := Nat.le_antisymm (hfirst.2 e h.1) (h.2 e' hfirst.1)
    rw [hfirst.1.unique_of_stage h.1 hstage]

/-- A run in which nothing fails reports everything. -/
theorem ends_complete (h : ∀ e, ¬ Fails files args e) :
    ∃ report, Complete files args report ∧ (Run.ofArguments files args).result = .ok report := by
  have hends := ends files args
  cases hresult : (Run.ofArguments files args).result with
  | ok report =>
    rw [hresult] at hends
    exact ⟨report, hends.complete, rfl⟩
  | error e =>
    rw [hresult] at hends
    exact absurd hends.firstFailure.1 (h e)

/-- Either something fails, and then something first, or nothing does. -/
theorem fails_or_not (files : Files) (args : Arguments) :
    (∃ e, FirstFailure files args e) ∨ ∀ e, ¬ Fails files args e := by
  have hends := ends files args
  cases hresult : (Run.ofArguments files args).result with
  | ok report =>
    rw [hresult] at hends
    exact .inr fun e => Fails.not_complete hends.complete
  | error e =>
    rw [hresult] at hends
    exact .inl ⟨e, hends.firstFailure⟩

end Run

/-! ## What the files have to do with it -/

/-- The paths that a run reads: the source, and the configuration consulted; none if there is no source. -/
def Arguments.paths (args : Arguments) : List String :=
  match args.file with
  | none => []
  | some file => [file, args.config.getD Config.fileName]

theorem Config.discover_congr {files files' : Files} (path : Option String)
    (h : files' (path.getD fileName) = files (path.getD fileName)) : discover files' path = discover files path := by
  cases path with
  | some p => exact load_congr h
  | none =>
    change files' fileName = files fileName at h
    simp only [discover, h, load_congr h]

theorem Run.ofFile_congr {files files' : Files} (settings : Settings) {path : String} (h : files' path = files path) :
    Run.ofFile files' settings path = Run.ofFile files settings path := by
  unfold ofFile
  rw [h]

/-- Files that agree on the paths of a command line give the same run. -/
theorem Run.ofArguments_congr {files files' : Files} {args : Arguments}
    (h : ∀ path ∈ args.paths, files' path = files path) : Run.ofArguments files' args = Run.ofArguments files args := by
  unfold ofArguments
  cases hfile : args.file with
  | none => rfl
  | some file =>
    have hpaths : args.paths = [file, args.config.getD Config.fileName] := by
      unfold Arguments.paths
      rw [hfile]
    rw [hpaths] at h
    have hsource : ∀ settings, Run.ofFile files' settings file = Run.ofFile files settings file :=
      fun settings => ofFile_congr settings (h file List.mem_cons_self)
    have hconfig : Config.discover files' args.config = Config.discover files args.config :=
      Config.discover_congr args.config (h _ (List.mem_cons_of_mem _ List.mem_cons_self))
    simp only [hsource, hconfig]

/-- Without a configuration the standard one is gone by. -/
theorem Run.ofArguments_absent {files : Files} {args : Arguments} {file : String} (hfile : args.file = some file)
    (hnone : args.config = none) (habsent : files Config.fileName = .error .notFound) :
    Run.ofArguments files args = Run.ofFile files (Settings.resolve args Config.standard) file := by
  unfold ofArguments Config.discover
  simp only [hfile, hnone, habsent]
  rfl

theorem Config.fileName_isEntryName : FileTree.IsEntryName Config.fileName where
  plain := by decide
  components := by decide
  relative := by decide
  noDirectory := by decide
  ordinary := by decide
  short := by decide

/-! ## The program -/

namespace Outcome

variable {files : Files} {words : List String}

theorem ofWords_ok {args : Arguments} (h : Arguments.ofWords words = .ok args) :
    Outcome.ofWords files words = .ofRun (.ofArguments files args) := by
  unfold ofWords
  rw [h]

theorem ofWords_error {u : Usage} (h : Arguments.ofWords words = .error u) :
    Outcome.ofWords files words =
      if u.isAnswer then ⟨u.exitCode, u.message, ""⟩
      else ⟨u.exitCode, "", u.message ++ "\n\nFor more information, try '--help'.\n"⟩ := by
  unfold ofWords
  rw [h]

theorem ofRun_error {r : Run} {e : RunError} (h : r.result = .error e) : Outcome.ofRun r = ⟨1, "", e.message ++ "\n"⟩ := by
  unfold ofRun
  rw [h]

theorem ofRun_ok {r : Run} {report : Report} (h : r.result = .ok report) : Outcome.ofRun r = ⟨0, report.render, ""⟩ := by
  unfold ofRun
  rw [h]

theorem ofWords_of_error {u : Usage} (h : Arguments.ofWords words = .error u) (hanswer : u.isAnswer = false) :
    (Outcome.ofWords files words).exitCode = 2 ∧ (Outcome.ofWords files words).output = "" := by
  rw [ofWords_error h, hanswer]
  refine ⟨?_, rfl⟩
  show u.exitCode = 2
  unfold Usage.exitCode
  rw [hanswer]
  rfl

/-- Files that agree on the paths of a command line give the same outcome. -/
theorem ofWords_congr {args : Arguments} {files' : Files} (h : Arguments.ofWords words = .ok args)
    (hagree : ∀ path ∈ args.paths, files' path = files path) :
    Outcome.ofWords files' words = Outcome.ofWords files words := by
  rw [ofWords_ok h, ofWords_ok h, Run.ofArguments_congr hagree]

/-- What the program comes to, over any tree of files. A command line that is not followed ends with exit code 2
and no output, unless it asks for help or the version, and the files have no part in it. Any other ends with exit
code 1, no output and the message of the first failure, or if nothing fails with exit code 0 and the complete
report; trees that agree where it reads give the same outcome. So the usual configuration has no part in it if
another is named, and if there is none the standard one is gone by. -/
theorem ofWords_first_failure (t : FileTree) (words : List String) :
    (∀ u, Arguments.ofWords words = .error u →
      (u.isAnswer = false → (Outcome.ofWords t.files words).exitCode = 2 ∧ (Outcome.ofWords t.files words).output = "") ∧
      ∀ t' : FileTree, Outcome.ofWords t'.files words = Outcome.ofWords t.files words) ∧
    ∀ args, Arguments.ofWords words = .ok args →
      ((∃ e, FirstFailure t.files args e) ∨ ∀ e, ¬ Fails t.files args e) ∧
      (∀ e, FirstFailure t.files args e → Outcome.ofWords t.files words = ⟨1, "", e.message ++ "\n"⟩) ∧
      ((∀ e, ¬ Fails t.files args e) →
        ∃ report, Complete t.files args report ∧ Outcome.ofWords t.files words = ⟨0, report.render, ""⟩) ∧
      (∀ t' : FileTree, (∀ path ∈ args.paths, t'.read path = t.read path) →
        Outcome.ofWords t'.files words = Outcome.ofWords t.files words) ∧
      (∀ config, args.config = some config →
        (∀ path ∈ args.paths, ¬ t.LeadsThrough Config.fileName path) →
        ∀ t' : FileTree, t.AgreeBut Config.fileName t' →
          Outcome.ofWords t'.files words = Outcome.ofWords t.files words) ∧
      (∀ file, args.file = some file → args.config = none → FileNode.nodeAt? t.entries Config.fileName = none →
        Outcome.ofWords t.files words = .ofRun (Run.ofFile t.files (Settings.resolve args Config.standard) file)) := by
  constructor
  · intro u hu
    refine ⟨ofWords_of_error hu, ?_⟩
    intro t'
    rw [ofWords_error hu, ofWords_error hu]
  · intro args hargs
    refine ⟨Run.fails_or_not t.files args, ?_, ?_, ?_, ?_, ?_⟩
    · intro e he
      rw [ofWords_ok hargs]
      exact ofRun_error (Run.ends_first he)
    · intro hnone
      obtain ⟨report, hcomplete, hresult⟩ := Run.ends_complete hnone
      refine ⟨report, hcomplete, ?_⟩
      rw [ofWords_ok hargs]
      exact ofRun_ok hresult
    · intro t' hagree
      exact ofWords_congr hargs hagree
    · intro config hconfig hpaths t' hagree
      refine ofWords_congr hargs ?_
      intro path hpath
      exact FileTree.read_congr_but hagree (hpaths path hpath)
    · intro file hfile hnone habsent
      have hread : t.files Config.fileName = .error .notFound := (FileTree.read_eq_notFound_iff Config.fileName_isEntryName t).mpr habsent
      rw [ofWords_ok hargs, Run.ofArguments_absent hfile hnone hread]

/-- One file, which is no configuration. -/
def spoiledTree : FileTree := .ofNodes [("bad.json", .file "\x7b".toUTF8)]

/-- The configuration says nothing sensible and the source is not there: the configuration is what the program
reports. -/
theorem of_spoiledTree :
    let args : Arguments := ⟨some "a.sol", [], false, some "bad.json"⟩
    Arguments.ofWords ["a.sol", "--config", "bad.json"] = .ok args ∧
      Fails spoiledTree.files args (.unreadableSource "a.sol" .notFound) ∧
      Outcome.ofWords spoiledTree.files ["a.sol", "--config", "bad.json"] =
        ⟨1, "", "Invalid JSON in config file 'bad.json': EOF while parsing an object at line 1 column 1\n"⟩ := by
  intro args
  have hargs : Arguments.ofWords ["a.sol", "--config", "bad.json"] = .ok args := by decide +kernel
  have hread : spoiledTree.files "bad.json" = .ok "\x7b" := by decide +kernel
  have hsource : spoiledTree.files "a.sol" = .error .notFound := by decide +kernel
  obtain ⟨f, hf, hmessage⟩ : ∃ f, Config.ofJsonText "\x7b" = .error f ∧
      f.message "\x7b" = "EOF while parsing an object at line 1 column 1" := ⟨⟨.endInObject, 1⟩, by decide +kernel, by decide +kernel⟩
  have hconsults : Consults spoiledTree.files args "bad.json" := .named rfl
  have hfirst : FirstFailure spoiledTree.files args (.invalidConfig "bad.json" (f.message "\x7b")) :=
    ⟨.invalidConfig hconsults hread hf, fun _ h => h.stage_of_readable rfl hconsults hread⟩
  obtain ⟨-, hfails, -⟩ := (ofWords_first_failure spoiledTree ["a.sol", "--config", "bad.json"]).2 args hargs
  refine ⟨hargs, .unreadableSource rfl hsource, ?_⟩
  rw [hfails _ hfirst, hmessage]
  rfl

end Outcome

end SoliditySchema
