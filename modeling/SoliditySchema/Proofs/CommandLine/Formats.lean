/-
  SoliditySchema.Proofs.CommandLine.Formats — formats by name, on the command line and in a configuration.

  Words only add formats behind those that are given already, and nothing else depends on these
  (`Draft.take_behind`), so formats given first come first whatever words follow
  (`Arguments.ofWords_formatFlags`). A name is accepted on the command line if it is the name of a format, and in a
  configuration if it is that too; so the same lists are accepted in both places, and the program does the same
  with them (`formatFlags_agree_listing`).
-/

import SoliditySchema.Proofs.Config

namespace SoliditySchema

namespace CommandLine.Draft

/-! ## Formats that were given before -/

/-- The draft with formats before its own. -/
def behind (formats : List Format) (d : Draft) : Draft :=
  { d with arguments := { d.arguments with formats := formats ++ d.arguments.formats } }

section Behind

variable (formats : List Format) (d : Draft)

theorem give_behind (o : ValueOption) (value : String) :
    (d.behind formats).give o value = (d.give o value).map (behind formats) := by
  cases o with
  | format =>
    unfold give
    cases (betweenCommas value).mapM formatOf with
    | error u => rfl
    | ok more =>
      exact congrArg (fun fs => Except.ok ({ d with arguments := { d.arguments with formats := fs } } : Draft))
        (List.append_assoc ..)
  | config =>
    unfold give behind
    dsimp only
    split
    · rfl
    split <;> rfl

theorem settle_behind : (d.behind formats).settle = d.settle.map (behind formats) := by
  obtain ⟨arguments, pending, fileSeen, literal⟩ := d
  match pending with
  | .nothing => rfl
  | .option o (some value) => exact give_behind formats ⟨arguments, .nothing, fileSeen, literal⟩ o value
  | .option o none => rfl
  | .file word =>
    unfold settle behind
    dsimp only
    split <;> rfl

theorem takeOption_behind (o : ValueOption) (value : Option String) :
    (d.behind formats).takeOption o value = (d.takeOption o value).map (behind formats) := by
  unfold takeOption
  rw [settle_behind]
  cases d.settle with
  | error u => rfl
  | ok d =>
    cases value with
    | none => rfl
    | some v => exact give_behind formats d o v

theorem takeFlag_behind (f : Flag) (long : Bool) :
    (d.behind formats).takeFlag f long = (d.takeFlag f long).map (behind formats) := by
  unfold takeFlag
  rw [settle_behind]
  cases d.settle with
  | error u => rfl
  | ok d =>
    cases f with
    | strict =>
      obtain ⟨⟨file, own, strict, config⟩, pending, fileSeen, literal⟩ := d
      cases strict <;> rfl
    | help => rfl
    | version => rfl

theorem takeFile_behind (word : String) : (d.behind formats).takeFile word = (d.takeFile word).map (behind formats) := by
  unfold takeFile
  rw [settle_behind]
  show (if d.fileSeen then _ else _) = _
  split
  · rfl
  · cases d.settle <;> rfl

theorem takePlain_behind (word : String) : (d.behind formats).takePlain word = (d.takePlain word).map (behind formats) := by
  obtain ⟨arguments, pending, fileSeen, literal⟩ := d
  match pending with
  | .option o none => rfl
  | .option o (some value) => exact takeFile_behind formats _ word
  | .nothing => exact takeFile_behind formats _ word
  | .file w => exact takeFile_behind formats _ word

theorem takeLong_behind (word : List Char) : (d.behind formats).takeLong word = (d.takeLong word).map (behind formats) := by
  unfold takeLong
  dsimp only
  split
  · exact takeOption_behind ..
  · split
    · rfl
    · exact takeFlag_behind ..
  · rfl

theorem takeShort_behind (letter : Char) (rest : List Char) :
    (d.behind formats).takeShort letter rest = (d.takeShort letter rest).map (behind formats) := by
  unfold takeShort
  split
  · split <;> exact takeOption_behind ..
  · exact takeFlag_behind ..
  · rfl

/-- Formats that were given before change nothing but that they come first. -/
theorem take_behind (word : String) : (d.behind formats).take word = (d.take word).map (behind formats) := by
  unfold take
  show (if d.literal then _ else _) = _
  split
  · exact takeFile_behind ..
  · split
    · rfl
    · exact takeLong_behind ..
    · exact takeShort_behind ..
    · exact takePlain_behind ..

theorem foldlM_behind (words : List String) :
    words.foldlM take (d.behind formats) = (words.foldlM take d).map (behind formats) := by
  induction words generalizing d with
  | nil => rfl
  | cons w words ih =>
    rw [List.foldlM_cons, List.foldlM_cons, take_behind]
    cases d.take w with
    | error u => rfl
    | ok d => exact ih d

end Behind

/-! ## Formats by name -/

section Names

variable {a b n : String} {ignoreCase : Bool} {f : Format}

theorem sameWord_refl (a : String) : Format.sameWord ignoreCase a a = true := by
  cases ignoreCase <;> simp [Format.sameWord]

/-- Two words that are the same as a third are the same. -/
theorem sameWord_of_same (ha : Format.sameWord ignoreCase a n = true) (hb : Format.sameWord ignoreCase b n = true) :
    Format.sameWord ignoreCase a b = true := by
  unfold Format.sameWord at ha hb ⊢
  cases ignoreCase with
  | true => exact beq_iff_eq.mpr ((eq_of_beq ha).trans (eq_of_beq hb).symm)
  | false => exact beq_iff_eq.mpr ((eq_of_beq ha).trans (eq_of_beq hb).symm)

/-- The names of the formats differ, also where case does not count. -/
theorem eq_of_sameWord {f g : Format} (h : Format.sameWord ignoreCase f.name g.name = true) : f = g := by
  cases ignoreCase <;> cases f <;> cases g <;> first | rfl | cases h

/-- A word is taken for a format exactly if it is the name of that format, as the case of letters counts or not. -/
theorem ofName?_eq_some : Format.ofName? n ignoreCase = some f ↔ Format.sameWord ignoreCase f.name n = true := by
  constructor
  · exact List.find?_some (p := fun f : Format => Format.sameWord ignoreCase f.name n)
  · intro hf
    have hall : f ∈ Format.all := by cases f <;> decide
    have hfound : (Format.ofName? n ignoreCase).isSome = true := List.find?_isSome.mpr ⟨f, hall, hf⟩
    obtain ⟨g, hg⟩ := Option.isSome_iff_exists.mp hfound
    have hsame := List.find?_some (p := fun f : Format => Format.sameWord ignoreCase f.name n) hg
    rw [eq_of_sameWord (sameWord_of_same hf hsame)]
    exact hg

theorem ofName?_name (f : Format) : Format.ofName? f.name ignoreCase = some f :=
  ofName?_eq_some.mpr (sameWord_refl f.name)

theorem name_of_ofName? (h : Format.ofName? n false = some f) : f.name = n := eq_of_beq (ofName?_eq_some.mp h)

end Names

theorem formatOf_name (f : Format) : formatOf f.name = .ok f := by
  unfold formatOf
  rw [ofName?_name]

theorem name_of_formatOf {n : String} {f : Format} (h : formatOf n = .ok f) : f.name = n := by
  unfold formatOf at h
  cases hn : Format.ofName? n ValueOption.format.ignoresCase with
  | some g =>
    rw [hn] at h
    cases h
    exact name_of_ofName? hn
  | none =>
    simp only [hn] at h
    split at h <;> cases h

theorem names_of_mapM_formatOf {ns : List String} {fs : List Format} (h : ns.mapM formatOf = .ok fs) :
    fs.map Format.name = ns := by
  induction ns generalizing fs with
  | nil =>
    cases h
    rfl
  | cons n ns ih =>
    rw [List.mapM_cons] at h
    cases hn : formatOf n with
    | error u =>
      rw [hn] at h
      cases h
    | ok f =>
      cases hns : ns.mapM formatOf with
      | error u =>
        rw [hn, hns] at h
        cases h
      | ok more =>
        rw [hn, hns] at h
        cases h
        rw [List.map_cons, name_of_formatOf hn, ih hns]

/-- A list of names that is not accepted holds one that is no name of a format. -/
theorem exists_ne_name {ns : List String} {u : Usage} (h : ns.mapM formatOf = .error u) :
    ∃ n ∈ ns, ∀ f : Format, f.name ≠ n := by
  induction ns with
  | nil => cases h
  | cons n ns ih =>
    by_cases hn : ∃ f : Format, f.name = n
    · obtain ⟨f, rfl⟩ := hn
      cases hns : ns.mapM formatOf with
      | error u' =>
        obtain ⟨m, hm, hname⟩ := ih (hns.trans (by
          rw [List.mapM_cons, formatOf_name, hns] at h
          exact h))
        exact ⟨m, List.mem_cons_of_mem _ hm, hname⟩
      | ok fs =>
        rw [List.mapM_cons, formatOf_name, hns] at h
        cases h
    · exact ⟨n, List.mem_cons_self, fun f hf => hn ⟨f, hf⟩⟩

/-! ## Flags -/

/-- The word that asks for a format. -/
def formatFlag (name : String) : String := "--format=" ++ name

theorem betweenCommas_of_not_mem {n : String} (h : ',' ∉ n.toList) : betweenCommas n = [n] := by
  have hsplit : n.toList.splitOn ',' = [n.toList] := List.splitOnP_eq_singleton fun c hc => by
    rw [beq_eq_false_iff_ne]
    rintro rfl
    exact h hc
  rw [betweenCommas, hsplit, List.map_singleton, String.ofList_toList]

theorem takeLong_format (d : Draft) (value : List Char) :
    d.takeLong ('f' :: 'o' :: 'r' :: 'm' :: 'a' :: 't' :: '=' :: value) =
      d.takeOption .format (some (String.ofList value)) := by
  have hname : String.ofList (('f' :: 'o' :: 'r' :: 'm' :: 'a' :: 't' :: '=' :: value).takeWhile (· != '=')) = "format" :=
    congrArg String.ofList (show _ = ['f', 'o', 'r', 'm', 'a', 't'] from rfl)
  have hlong : long? "format" = some (.inl .format) := if_pos rfl
  unfold takeLong
  simp only [hname, hlong]
  rfl

theorem take_formatFlag (formats : List Format) {n : String} (h : ',' ∉ n.toList) :
    (empty.behind formats).take (formatFlag n) = (formatOf n).map fun f => empty.behind (formats ++ [f]) := by
  have hword : (formatFlag n).toList = '-' :: '-' :: 'f' :: 'o' :: 'r' :: 'm' :: 'a' :: 't' :: '=' :: n.toList := by
    rw [formatFlag, String.toList_append]
    rfl
  have htake : (empty.behind formats).take (formatFlag n) = (empty.behind formats).give .format n := by
    unfold take
    rw [hword]
    exact (takeLong_format _ n.toList).trans (by rw [String.ofList_toList]; rfl)
  rw [htake, give, betweenCommas_of_not_mem h, List.mapM_cons, List.mapM_nil]
  cases formatOf n with
  | error u => rfl
  | ok f => simp [behind, empty, bind, Except.bind, pure, Except.pure, Except.map]

/-- The flags for some formats are taken if each of them names a format. -/
theorem foldlM_formatFlags (formats : List Format) {ns : List String} (h : ∀ n ∈ ns, ',' ∉ n.toList) :
    (ns.map formatFlag).foldlM take (empty.behind formats) =
      (ns.mapM formatOf).map fun more => empty.behind (formats ++ more) := by
  induction ns generalizing formats with
  | nil => simp [behind, empty, pure, Except.pure, Except.map]
  | cons n ns ih =>
    have hmore : ∀ m ∈ ns, ',' ∉ m.toList := fun m hm => h m (List.mem_cons_of_mem n hm)
    rw [List.map_cons, List.foldlM_cons, take_formatFlag formats (h n List.mem_cons_self), List.mapM_cons]
    cases formatOf n with
    | error u => rfl
    | ok f =>
      show (ns.map formatFlag).foldlM take (empty.behind (formats ++ [f])) = _
      rw [ih (formats ++ [f]) hmore]
      cases ns.mapM formatOf with
      | error u => rfl
      | ok more => simp [bind, Except.bind, pure, Except.pure, Except.map]

end CommandLine.Draft

open CommandLine (Draft)
open CommandLine.Draft (behind formatFlag formatOf)

/-- Format flags before other words. -/
theorem Arguments.ofWords_formatFlags {ns : List String} (h : ∀ n ∈ ns, ',' ∉ n.toList) (words : List String) :
    Arguments.ofWords (ns.map formatFlag ++ words) =
      ns.mapM formatOf >>= fun formats =>
        (Arguments.ofWords words).map fun args => { args with formats := formats ++ args.formats } := by
  have hflags : (ns.map formatFlag).foldlM Draft.take .empty =
      (ns.mapM formatOf).map fun formats => Draft.empty.behind formats :=
    Draft.foldlM_formatFlags [] h
  unfold Arguments.ofWords
  rw [List.foldlM_append, hflags]
  cases ns.mapM formatOf with
  | error u => rfl
  | ok formats =>
    show words.foldlM Draft.take (Draft.empty.behind formats) >>= _ = _
    rw [Draft.foldlM_behind]
    cases words.foldlM Draft.take .empty with
    | error u => rfl
    | ok d =>
      show (d.behind formats).settle >>= _ = (d.settle >>= fun d => .ok d.arguments).map _
      rw [Draft.settle_behind]
      cases d.settle <;> rfl

/-! ## Formats in a configuration -/

namespace Config

/-- A configuration that only lists names of formats. -/
def listing (ns : List String) : Json := .object [("output", .object [("formats", .array (ns.map .string))])]

/-- A configuration with a list of names is read as these formats if each of them names one; else it is invalid. -/
theorem toOption_ofJsonText_listing {ns : List String} {text : String} (h : Json.WrittenText (listing ns) text) :
    (ofJsonText text).toOption = (ns.mapM formatOf).toOption.map fun formats => ⟨true, formats⟩ := by
  cases hns : ns.mapM formatOf with
  | ok formats =>
    have hnames : listing ns = .object [("output", .object [("formats", formatNames formats)])] := by
      rw [listing, formatNames, ← Draft.names_of_mapM_formatOf hns, List.map_map]
      rfl
    rw [hnames] at h
    exact ofJsonText_says h none (some formats) (.noSection rfl) (.value rfl rfl)
  | error u =>
    obtain ⟨n, hn, hname⟩ := Draft.exists_ne_name hns
    exact ofJsonText_mistaken h (.notFormat List.mem_cons_self List.mem_cons_self (List.mem_map_of_mem hn) hname)

end Config

/-! ## Flags and configurations -/

section Agreement

variable {ns : List String} {words : List String} {args : Arguments} {text : String}

theorem ofWords_formatFlags_of_ok (h : ∀ n ∈ ns, ',' ∉ n.toList) (hwords : Arguments.ofWords words = .ok args)
    (hnone : args.formats = []) :
    Arguments.ofWords (ns.map formatFlag ++ words) = (ns.mapM formatOf).map fun formats => { args with formats } := by
  rw [Arguments.ofWords_formatFlags h, hwords]
  cases ns.mapM formatOf with
  | error u => rfl
  | ok formats =>
    have happend : formats ++ args.formats = formats := by rw [hnone, List.append_nil]
    exact congrArg (fun fs => Except.ok ({ args with formats := fs } : Arguments)) happend

/-- With formats on the command line and no configuration file, a run ends as with a configuration file that lists
them. -/
theorem result_ofArguments_listing {formats : List Format} {c : Config}
    (hsettings : Settings.resolve { args with formats } .standard = Settings.resolve args c)
    (hconfig : args.config = none) (hload : Config.ofJsonText text = .ok c) {bare configured : Files}
    (hbare : bare Config.fileName = .error .notFound) (hconfigured : configured Config.fileName = .ok text)
    (hsource : ∀ path ∈ args.file, configured path = bare path) :
    (Run.ofArguments bare { args with formats }).result = (Run.ofArguments configured args).result := by
  obtain ⟨file, own, strict, config⟩ := args
  obtain rfl : config = none := hconfig
  cases file with
  | none => rfl
  | some path =>
    have hpath : configured path = bare path := hsource path rfl
    simp only [Run.ofArguments, Config.discover, hbare, hconfigured, Config.load, hload, Run.after, hsettings, Run.ofFile,
      hpath]

/-- The same lists of names are accepted as format flags and in a configuration. With either the program goes by the
same settings and does the same. -/
theorem formatFlags_agree_listing (hne : ns ≠ []) (hcomma : ∀ n ∈ ns, ',' ∉ n.toList)
    (hwords : Arguments.ofWords words = .ok args) (hnone : args.formats = [])
    (htext : Json.WrittenText (Config.listing ns) text) :
    ((∃ a, Arguments.ofWords (ns.map formatFlag ++ words) = .ok a) ↔ ∃ c, Config.ofJsonText text = .ok c) ∧
    ∀ a c, Arguments.ofWords (ns.map formatFlag ++ words) = .ok a → Config.ofJsonText text = .ok c →
      Settings.resolve a Config.standard = Settings.resolve args c ∧
      ∀ bare configured : Files, bare Config.fileName = .error .notFound → configured Config.fileName = .ok text →
        args.config = none → (∀ path ∈ args.file, configured path = bare path) →
        (Run.ofArguments bare a).result = (Run.ofArguments configured args).result ∧
        Outcome.ofWords bare (ns.map formatFlag ++ words) = Outcome.ofWords configured words := by
  have hflags := ofWords_formatFlags_of_ok hcomma hwords hnone
  have hread := Config.toOption_ofJsonText_listing htext
  cases hns : ns.mapM formatOf with
  | error u =>
    rw [hns] at hflags hread
    constructor
    · constructor
      · rintro ⟨a, ha⟩
        rw [hflags] at ha
        cases ha
      · rintro ⟨c, hc⟩
        rw [hc] at hread
        cases hread
    · intro a c ha
      rw [hflags] at ha
      cases ha
  | ok formats =>
    rw [hns] at hflags hread
    have hload : Config.ofJsonText text = .ok ⟨true, formats⟩ := by
      cases hc : Config.ofJsonText text with
      | error f =>
        rw [hc] at hread
        cases hread
      | ok c =>
        rw [hc] at hread
        injection hread with hread
        rw [hread]
    -- Without flags the formats of the configuration count only because there are some.
    have hformats : formats ≠ [] := by
      rintro rfl
      exact hne (Draft.names_of_mapM_formatOf hns).symm
    have hsettings : Settings.resolve { args with formats } .standard = Settings.resolve args ⟨true, formats⟩ := by
      simp only [Settings.resolve, hnone, ne_eq, not_true_eq_false, hformats, not_false_eq_true, if_true, if_false]
      rfl
    refine ⟨⟨fun _ => ⟨_, hload⟩, fun _ => ⟨_, hflags⟩⟩, fun a c ha hc => ?_⟩
    obtain rfl : { args with formats } = a := Except.ok.inj (hflags.symm.trans ha)
    obtain rfl : ⟨true, formats⟩ = c := Except.ok.inj (hload.symm.trans hc)
    refine ⟨hsettings, fun bare configured hbare hconfigured hconfig hsource => ?_⟩
    have hresult := result_ofArguments_listing hsettings hconfig hload hbare hconfigured hsource
    refine ⟨hresult, ?_⟩
    simp only [Outcome.ofWords, ha, hwords, Outcome.ofRun, hresult]

/-- A configuration that lists two formats. -/
def toonSqlConfig : String := "\x7b\"output\":\x7b\"formats\":[\"toon\",\n  \"sql\"]\x7d\x7d"

theorem written_toonSqlConfig : Json.WrittenText (Config.listing ["toon", "sql"]) toonSqlConfig := by
  have hnames : Json.Written (.array [.string "toon", .string "sql"]) _ :=
    .array (.element (.first .nil) (.string (Json.spells_escaped _))
      (.element (Json.lead_comma 1) (.string (Json.spells_escaped _)) (.close .nil)))
  have houtput : Json.Written (.object [("formats", .array [.string "toon", .string "sql"])]) _ :=
    .object (.member (.first .nil) (Json.spells_escaped _) .nil .nil hnames (.close .nil))
  have hall : Json.Written (Config.listing ["toon", "sql"]) _ :=
    .object (.member (.first .nil) (Json.spells_escaped _) .nil .nil houtput (.close .nil))
  exact ⟨[], _, [], .nil, hall, .nil, by decide +kernel⟩

/-- Two formats for one file, either way. -/
theorem toonSql_agree :
    (∃ a, Arguments.ofWords ["--format=toon", "--format=sql", "Token.sol"] = .ok a) ∧
    (∃ c, Config.ofJsonText toonSqlConfig = .ok c) ∧
    Outcome.ofWords (fun p => if p = "Token.sol" then .ok "contract A \x7b\x7d" else .error .notFound)
        ["--format=toon", "--format=sql", "Token.sol"] =
      Outcome.ofWords (fun p => if p = "Token.sol" then .ok "contract A \x7b\x7d" else .ok toonSqlConfig) ["Token.sol"] := by
  have hwords : Arguments.ofWords ["Token.sol"] = .ok ⟨some "Token.sol", [], false, none⟩ := by decide
  have hflags : ∃ a, Arguments.ofWords (["toon", "sql"].map formatFlag ++ ["Token.sol"]) = .ok a :=
    ⟨⟨some "Token.sol", [.toon, .sql], false, none⟩, by decide⟩
  obtain ⟨haccepted, hagree⟩ :=
    formatFlags_agree_listing (by decide) (by decide) hwords rfl written_toonSqlConfig
  obtain ⟨c, hc⟩ := haccepted.mp hflags
  obtain ⟨a, ha⟩ := hflags
  obtain ⟨-, hrun⟩ := hagree a c ha hc
  refine ⟨⟨a, ha⟩, ⟨c, hc⟩, (hrun _ _ ?_ ?_ rfl ?_).2⟩
  · rfl
  · rfl
  · intro path hpath
    cases hpath
    rfl

end Agreement

end SoliditySchema
