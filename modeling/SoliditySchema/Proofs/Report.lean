/-
  SoliditySchema.Proofs.Report — a report is taken apart at its labels.

  A block of a report is a label and the lines of a rendering. A JSON text begins its lines with a brace or a
  blank, a script with `C`, a blank or `)`, a listing with `C`, `D` or a blank, and no label begins so: whatever
  the names are, a newline apart, a line that reads like a label is one (`Format.exists_lines`). So a report
  falls into its blocks again, and from any block its database can be decoded.
-/

import SoliditySchema.Proofs.Json.Indented
import SoliditySchema.Proofs.Schema.JsonForm
import SoliditySchema.Proofs.Schema.Listing
import SoliditySchema.Proofs.Schema.Script
import SoliditySchema.Report

namespace SoliditySchema

/-- A line that reads like the label of a format. -/
def Format.isLabel (line : String) : Bool := all.any fun f => f.label == line

namespace Report

/-! ## Cutting at labels -/

/-- Lines cut at labels: those before the first one, and each label with the lines behind it. -/
def cutAtLabels : List String → List String × List (String × List String)
  | [] => ([], [])
  | line :: lines =>
    let (before, parts) := cutAtLabels lines
    if Format.isLabel line then ([], (line, before) :: parts) else (line :: before, parts)

/-- The text before the first line that reads like a label, and each such line with the text from there to the
next one or to the end. -/
def sections (text : String) : String × List (String × String) :=
  let (before, parts) := cutAtLabels (Text.lines text)
  (Text.unlines before, parts.map fun p => (p.1, Text.unlines p.2))

/-- A label and lines of which none reads like a label. -/
structure IsPart (p : String × List String) : Prop where
  label : Format.isLabel p.1 = true
  lines : ∀ line ∈ p.2, Format.isLabel line = false

theorem cutAtLabels_append {ls : List String} (h : ∀ line ∈ ls, Format.isLabel line = false) (rest : List String) :
    cutAtLabels (ls ++ rest) = (ls ++ (cutAtLabels rest).1, (cutAtLabels rest).2) := by
  induction ls with
  | nil => rfl
  | cons line ls ih =>
    have hline := h line List.mem_cons_self
    have hls := ih fun l hl => h l (List.mem_cons_of_mem _ hl)
    simp only [List.cons_append, cutAtLabels, hls, hline, Bool.false_eq_true, if_false]

/-- Parts are found again in their lines. -/
theorem cutAtLabels_parts {parts : List (String × List String)} (h : ∀ p ∈ parts, IsPart p) :
    cutAtLabels (parts.flatMap fun p => p.1 :: p.2) = ([], parts) := by
  induction parts with
  | nil => rfl
  | cons p parts ih =>
    have hp := h p List.mem_cons_self
    have hparts := ih fun q hq => h q (List.mem_cons_of_mem _ hq)
    have hrest := cutAtLabels_append hp.lines (parts.flatMap fun p => p.1 :: p.2)
    rw [hparts, List.append_nil] at hrest
    simp only [List.flatMap_cons, List.cons_append, cutAtLabels, hrest, hp.label, if_true]

theorem filter_parts {parts : List (String × List String)} (h : ∀ p ∈ parts, IsPart p) :
    (parts.flatMap fun p => p.1 :: p.2).filter Format.isLabel = parts.map Prod.fst := by
  induction parts with
  | nil => rfl
  | cons p parts ih =>
    have hp := h p List.mem_cons_self
    have hlines : p.2.filter Format.isLabel = [] := by
      rw [List.filter_eq_nil_iff]
      intro line hline
      rw [hp.lines line hline]
      decide
    have hparts := ih fun q hq => h q (List.mem_cons_of_mem _ hq)
    rw [List.flatMap_cons, List.filter_append, List.filter_cons_of_pos hp.label, hlines, hparts]
    rfl

end Report

/-! ## Renderings -/

theorem Format.isLabel_label (f : Format) : isLabel f.label = true := by cases f <;> decide

/-- A line that begins as no label does is none. -/
theorem Format.isLabel_eq_false {line : String} {c : Char} {more : List Char} (h : line.toList = c :: more)
    (hc : c ∈ ['{', '}', ']', ' ', 'C', 'D', ')']) : isLabel line = false := by
  cases hlabel : isLabel line with
  | false => rfl
  | true =>
    obtain ⟨f, -, hf⟩ := List.any_eq_true.mp hlabel
    rw [← eq_of_beq hf] at h
    cases f <;> (injection h with hhead _; rw [← hhead] at hc; exact absurd hc (by decide))

theorem Report.endLine_unlines {ls : List String} (h : ls ≠ []) : endLine (Text.unlines ls) = Text.unlines ls :=
  if_pos (Text.getLast?_unlines h)

/-- Lines of a rendering: each is one line, and none reads like a label. -/
def Format.AreLines (ls : List String) : Prop := ∀ line ∈ ls, OnOneLine line ∧ isLabel line = false

theorem Database.exists_lines_json (d : Database) :
    ∃ ls, Report.endLine d.toJsonText = Text.unlines ls ∧ Format.AreLines ls := by
  have htext : d.toJsonText.toList = Json.pretty 0 d.toJson := String.toList_ofList
  have hend : Report.endLine d.toJsonText = d.toJsonText ++ "\n" := by
    apply if_neg
    rw [htext]
    have hlast : (Json.pretty 0 d.toJson).getLast? = some '}' := by
      rw [Database.toJson, Json.pretty]
      exact Json.getLast?_enclose 0 '{' '}' _
    rw [hlast]
    decide
  obtain ⟨first, rest, hlines, hfirst, hrest⟩ := (Json.indented_pretty 0 d.toJson).exists_lines
  obtain ⟨more, hmore⟩ := Json.eq_cons_of_first (show '{' ≠ '\n' by decide) hlines
  refine ⟨String.ofList first :: rest.map String.ofList, ?_, ?_⟩
  · rw [hend, ← String.toList_inj, String.toList_append, htext, hlines]
    -- The newline behind each line is the one before the next, or the one that is added.
    have hshift : ∀ (first : List Char) (rest : List (List Char)),
        first ++ rest.flatMap ('\n' :: ·) ++ ['\n'] =
          (Text.unlines (String.ofList first :: rest.map String.ofList)).toList := by
      intro first rest
      induction rest generalizing first with
      | nil => simp [Text.unlines]
      | cons line rest ih =>
        rw [Text.toList_unlines_cons, List.map_cons, ← ih line]
        simp
    exact hshift first rest
  · intro line hline
    rcases List.mem_cons.mp hline with rfl | hline
    · refine ⟨by rwa [OnOneLine, String.toList_ofList], ?_⟩
      exact Format.isLabel_eq_false (String.toList_ofList.trans hmore) (by decide)
    · obtain ⟨l, hl, rfl⟩ := List.mem_map.mp hline
      obtain ⟨honeLine, c, more, hl, hc⟩ := hrest l hl
      refine ⟨by rwa [OnOneLine, String.toList_ofList], ?_⟩
      apply Format.isLabel_eq_false (String.toList_ofList.trans hl)
      rcases hc with rfl | rfl | rfl <;> decide

theorem Database.exists_lines_script {d : Database} (h : ∀ name ∈ d.names, OnOneLine name) :
    ∃ ls, Report.endLine d.toScript = Text.unlines ls ∧ Format.AreLines ls := by
  refine ⟨d.scriptHeader :: d.tables.flatMap Table.scriptLines, Report.endLine_unlines (by simp), ?_⟩
  intro line hline
  refine ⟨scriptLines_onOneLine h line hline, ?_⟩
  rcases List.mem_cons.mp hline with rfl | hline
  · exact Format.isLabel_eq_false d.toList_scriptHeader (by decide)
  · obtain ⟨t, ht, hline⟩ := List.mem_flatMap.mp hline
    rw [Table.scriptLines_eq, List.mem_cons, List.mem_append, List.mem_singleton] at hline
    rcases hline with rfl | hline | rfl
    · exact Format.isLabel_eq_false t.toList_scriptHeader (by decide)
    · obtain ⟨c, -, comma, -, rfl⟩ := Column.mem_scriptLines hline
      exact Format.isLabel_eq_false (c.toList_scriptLine comma) (by decide)
    · decide

theorem Database.exists_lines_listing {d : Database} (h : ∀ name ∈ d.names, OnOneLine name) :
    ∃ ls, Report.endLine d.toListing = Text.unlines ls ∧ Format.AreLines ls := by
  refine ⟨d.listingHeader :: d.tables.flatMap Table.listingLines, Report.endLine_unlines (by simp), ?_⟩
  intro line hline
  refine ⟨listingLines_onOneLine h line hline, ?_⟩
  rcases List.mem_cons.mp hline with rfl | hline
  · exact Format.isLabel_eq_false d.toList_listingHeader (by decide)
  · obtain ⟨t, ht, hline⟩ := List.mem_flatMap.mp hline
    rw [Table.listingLines_eq] at hline
    rcases List.mem_cons.mp hline with rfl | hline
    · exact Format.isLabel_eq_false t.toList_listingHeader (by decide)
    · obtain ⟨c, -, rfl⟩ := List.mem_map.mp hline
      exact Format.isLabel_eq_false c.toList_listingLine (by decide)

namespace Format

/-- A JSON text, a script and a listing are made of lines none of which reads like a label. -/
theorem exists_lines {f : Format} (hf : f ∈ [json, sql, nosql]) {d : Database} (h : ∀ name ∈ d.names, OnOneLine name) :
    ∃ ls, Report.endLine (f.render d) = Text.unlines ls ∧ AreLines ls := by
  cases f with
  | json => exact d.exists_lines_json
  | sql => exact d.exists_lines_script h
  | nosql => exact d.exists_lines_listing h
  | toon => exact absurd hf (by decide)

/-- Decodes a database from its text in a format. -/
def decode? : Format → String → Option Database
  | .json, text => (Database.ofJsonText text).toOption
  | .sql, text => Database.ofScript? text
  | .nosql, text => Database.ofListing? text
  | .toon, _ => none

theorem decode?_endLine {f : Format} (hf : f ∈ [json, sql, nosql]) {d : Database} (h : ∀ name ∈ d.names, OnOneLine name) :
    f.decode? (Report.endLine (f.render d)) = some d := by
  cases f with
  | json =>
    have hread : Database.ofJsonText (Report.endLine d.toJsonText) = .ok d := by
      unfold Report.endLine
      split
      · exact d.ofJsonText_append .nil (List.append_nil _).symm
      · have hblank : Json.Input.Blanks ['\n'] := List.forall_mem_singleton.mpr rfl
        exact d.ofJsonText_append hblank String.toList_append
    show (Database.ofJsonText (Report.endLine d.toJsonText)).toOption = some d
    rw [hread]
    rfl
  | sql =>
    show Database.ofScript? (Report.endLine d.toScript) = some d
    rw [Database.toScript, Report.endLine_unlines (by simp)]
    exact Database.ofScript?_eq h
  | nosql =>
    show Database.ofListing? (Report.endLine d.toListing) = some d
    rw [Database.toListing, Report.endLine_unlines (by simp)]
    exact Database.ofListing?_eq h
  | toon => exact absurd hf (by decide)

end Format

/-! ## Reports -/

namespace Report

/-- The labels of a report, each with the lines behind it. -/
def parts (ds : List Database) (formats : List Format) : List (String × List String) :=
  ds.flatMap fun d => formats.map fun f => (f.label, Text.lines (endLine (f.render d)))

/-- A report on more databases is the report on the first ones and the report on the others. -/
theorem render_append (ds ds' : List Database) (formats : List Format) :
    render ⟨ds ++ ds', formats⟩ = render ⟨ds, formats⟩ ++ render ⟨ds', formats⟩ := by
  rw [← String.toList_inj]
  simp [render, String.toList_join]

section Printed

variable {formats : List Format} (hformats : ∀ f ∈ formats, f ∈ [Format.json, .sql, .nosql])

include hformats

theorem parts_spec {ds : List Database} (h : ∀ d ∈ ds, ∀ name ∈ d.names, OnOneLine name) :
    ∀ p ∈ parts ds formats, IsPart p ∧ ∀ line ∈ p.1 :: p.2, OnOneLine line := by
  intro p hp
  obtain ⟨d, hd, hp⟩ := List.mem_flatMap.mp hp
  obtain ⟨f, hf, rfl⟩ := List.mem_map.mp hp
  obtain ⟨ls, hls, hlines⟩ := Format.exists_lines (hformats f hf) (h d hd)
  have heq : Text.lines (endLine (f.render d)) = ls := by
    rw [hls, Text.lines_unlines fun line hline => (hlines line hline).1]
  have hlabel : OnOneLine f.label := by cases f <;> decide
  simp only [heq]
  refine ⟨⟨f.isLabel_label, fun line hline => (hlines line hline).2⟩, ?_⟩
  intro line hline
  rcases List.mem_cons.mp hline with rfl | hline
  · exact hlabel
  · exact (hlines line hline).1

/-- The rendering in a block is made of its lines. -/
theorem unlines_lines_endLine {f : Format} (hf : f ∈ formats) {d : Database} (h : ∀ name ∈ d.names, OnOneLine name) :
    Text.unlines (Text.lines (endLine (f.render d))) = endLine (f.render d) := by
  obtain ⟨ls, hls, hlines⟩ := Format.exists_lines (hformats f hf) h
  rw [hls, Text.lines_unlines fun line hline => (hlines line hline).1]

/-- What is made of the parts of a report is made of its labels and the renderings behind them. -/
theorem map_parts {β : Type} (make : String → String → β) {ds : List Database}
    (h : ∀ d ∈ ds, ∀ name ∈ d.names, OnOneLine name) :
    ((parts ds formats).map fun p => make p.1 (Text.unlines p.2)) =
      ds.flatMap fun d => formats.map fun f => make f.label (endLine (f.render d)) := by
  rw [parts, List.map_flatMap]
  apply List.flatMap_congr
  intro d hd
  rw [List.map_map]
  apply List.map_congr_left
  intro f hf
  show make f.label (Text.unlines (Text.lines (endLine (f.render d)))) = make f.label (endLine (f.render d))
  rw [unlines_lines_endLine hformats hf (h d hd)]

theorem render_eq_unlines {ds : List Database} (h : ∀ d ∈ ds, ∀ name ∈ d.names, OnOneLine name) :
    render ⟨ds, formats⟩ = Text.unlines ((parts ds formats).flatMap fun p => p.1 :: p.2) := by
  have hjoin : ∀ ps : List (String × List String), String.join (ps.map fun p => p.1 ++ "\n" ++ Text.unlines p.2) =
      Text.unlines (ps.flatMap fun p => p.1 :: p.2) := by
    intro ps
    induction ps with
    | nil => rfl
    | cons p ps ih => rw [List.map_cons, String.join_cons, ih, List.flatMap_cons, Text.unlines_append, Text.unlines_cons]
  rw [← hjoin, map_parts hformats (fun label text => label ++ "\n" ++ text) h]
  rfl

/-- The lines of a report are its labels, each with the lines of its block. -/
theorem lines_render {ds : List Database} (h : ∀ d ∈ ds, ∀ name ∈ d.names, OnOneLine name) :
    Text.lines (render ⟨ds, formats⟩) = (parts ds formats).flatMap fun p => p.1 :: p.2 := by
  rw [render_eq_unlines hformats h]
  apply Text.lines_unlines
  intro line hline
  obtain ⟨p, hp, hline⟩ := List.mem_flatMap.mp hline
  exact (parts_spec hformats h p hp).2 line hline

theorem sections_render {ds : List Database} (h : ∀ d ∈ ds, ∀ name ∈ d.names, OnOneLine name) :
    sections (render ⟨ds, formats⟩) = ("", ds.flatMap fun d => formats.map fun f => (f.label, endLine (f.render d))) := by
  have hcut := cutAtLabels_parts fun p hp => (parts_spec hformats h p hp).1
  rw [sections, lines_render hformats h, hcut]
  show ("", (parts ds formats).map fun p => (p.1, Text.unlines p.2)) = _
  rw [map_parts hformats Prod.mk h]

/-- From the first block on a database the database can be decoded, so blocks that are the same are on the
same databases. -/
theorem eq_of_blocks {ds ds' : List Database} (hne : formats ≠ []) (h : ∀ d ∈ ds, ∀ name ∈ d.names, OnOneLine name)
    (h' : ∀ d ∈ ds', ∀ name ∈ d.names, OnOneLine name)
    (hsame : (ds'.flatMap fun d => formats.map fun f => (f.label, endLine (f.render d))) =
      ds.flatMap fun d => formats.map fun f => (f.label, endLine (f.render d))) : ds' = ds := by
  obtain ⟨f, fs, hfs⟩ := List.exists_cons_of_ne_nil hne
  have hf : f ∈ formats := by rw [hfs]; exact List.mem_cons_self
  induction ds generalizing ds' with
  | nil =>
    cases ds' with
    | nil => rfl
    | cons d' ds' => rw [hfs] at hsame; cases hsame
  | cons d ds ih =>
    cases ds' with
    | nil => rw [hfs] at hsame; cases hsame
    | cons d' ds' =>
      rw [List.flatMap_cons, List.flatMap_cons] at hsame
      obtain ⟨hfirst, hrest⟩ := List.append_inj hsame (by rw [List.length_map, List.length_map])
      have hblock := congrArg Prod.snd (List.map_inj_left.mp hfirst f hf)
      have hd := Format.decode?_endLine (hformats f hf) (h d List.mem_cons_self)
      have hd' := Format.decode?_endLine (hformats f hf) (h' d' List.mem_cons_self)
      have hdec : f.decode? (endLine (f.render d')) = f.decode? (endLine (f.render d)) := congrArg f.decode? hblock
      rw [hd, hd'] at hdec
      rw [Option.some_inj.mp hdec, ih (fun e he => h e (List.mem_cons_of_mem _ he))
        (fun e he => h' e (List.mem_cons_of_mem _ he)) hrest]

end Printed

/-- A report in formats other than TOON can be taken apart if no name has a newline. Its lines that read like
a label are the labels of the formats, once for each database. Nothing stands before the first of them, and
behind each, up to the next one or the end, stands the rendering of that database in that format with a newline
at its end. No other such databases have the same report in these formats, and the report on databases and
further ones is that on the first and behind it that on the others. -/
theorem taken_apart {ds : List Database} {formats : List Format} (hne : formats ≠ [])
    (hformats : ∀ f ∈ formats, f ∈ [Format.json, .sql, .nosql]) (h : ∀ d ∈ ds, ∀ name ∈ d.names, OnOneLine name) :
    (Text.lines (render ⟨ds, formats⟩)).filter Format.isLabel = (ds.flatMap fun _ => formats.map Format.label) ∧
    Text.unlines (Text.lines (render ⟨ds, formats⟩)) = render ⟨ds, formats⟩ ∧
    sections (render ⟨ds, formats⟩) =
      ("", ds.flatMap fun d => formats.map fun f => (f.label, endLine (f.render d))) ∧
    (∀ ds' : List Database, (∀ d ∈ ds', ∀ name ∈ d.names, OnOneLine name) →
      render ⟨ds', formats⟩ = render ⟨ds, formats⟩ → ds' = ds) ∧
    ∀ ds' : List Database, render ⟨ds ++ ds', formats⟩ = render ⟨ds, formats⟩ ++ render ⟨ds', formats⟩ := by
  refine ⟨?_, ?_, sections_render hformats h, ?_, fun ds' => render_append ds ds' formats⟩
  · have hlabels : (parts ds formats).map Prod.fst = ds.flatMap fun _ => formats.map Format.label := by
      rw [parts, List.map_flatMap]
      simp only [List.map_map]
      rfl
    rw [lines_render hformats h, filter_parts fun p hp => (parts_spec hformats h p hp).1, hlabels]
  · rw [lines_render hformats h, render_eq_unlines hformats h]
  · intro ds' h' hsame
    have hsections := congrArg sections hsame
    rw [sections_render hformats h, sections_render hformats h'] at hsections
    exact eq_of_blocks hformats hne h h' (congrArg Prod.snd hsections)

/-- Databases whose names read like labels and like what stands around names. -/
def labelledDatabases : List Database :=
  [⟨"SQL Format:", [⟨"JSON Format:", [⟨"\"\x7d\r", .string⟩]⟩]⟩, ⟨"", []⟩, ⟨"", []⟩]

/-- A report on them, with a format asked for twice. -/
theorem labelledDatabases_taken_apart :
    (Text.lines (render ⟨labelledDatabases, [.nosql, .json, .nosql]⟩)).filter Format.isLabel =
      ["NoSQL Format:", "JSON Format:", "NoSQL Format:", "NoSQL Format:", "JSON Format:", "NoSQL Format:",
        "NoSQL Format:", "JSON Format:", "NoSQL Format:"] :=
  (taken_apart (by decide) (by decide) (by decide)).1

end Report

end SoliditySchema
