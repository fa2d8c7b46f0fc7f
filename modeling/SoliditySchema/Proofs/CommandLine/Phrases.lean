/-
  SoliditySchema.Proofs.CommandLine.Phrases — command lines that are followed.

  Such a command line is a list of phrases: an option with its value, in any of its spellings, the flag `--strict`, or
  the file. Between two phrases no option waits for a value, and checking what is pending leaves what the phrases so
  far ask for (`Asks`). Each phrase keeps this, if it asks for nothing that may come once only and has come already
  (`Asks.phrase`). So the order of the phrases counts for the formats alone, and how a phrase is spelled does not
  count at all (`Arguments.ofWords_phrases`).
-/

import SoliditySchema.Proofs.CommandLine.Formats

namespace SoliditySchema

namespace CommandLine

/-- A word that is not taken for an option: it is not empty and does not begin with a dash. -/
structure PlainWord where
  text : String
  nonempty : text ≠ ""
  undashed : text.toList.head? ≠ some '-'

/-! ## Spellings of an option -/

/-- The letter of an option. -/
def ValueOption.letter : ValueOption → Char
  | .format => 'f'
  | .config => 'c'

/-- The long name of an option. -/
def ValueOption.longName : ValueOption → List Char
  | .format => ['f', 'o', 'r', 'm', 'a', 't']
  | .config => ['c', 'o', 'n', 'f', 'i', 'g']

/-- How an option is written with its value: by its letter or its long name, the value in the next word or in the
same one. -/
inductive Spelling where
  | letter
  | letterJoined
  | long
  | longJoined
  deriving DecidableEq, Repr

namespace Spelling

/-- The words of an option and its value. -/
def words (o : ValueOption) (value : String) : Spelling → List String
  | .letter => [String.ofList ['-', o.letter], value]
  | .letterJoined => [String.ofList ('-' :: o.letter :: value.toList)]
  | .long => [String.ofList ('-' :: '-' :: o.longName), value]
  | .longJoined => [String.ofList ('-' :: '-' :: o.longName ++ '=' :: value.toList)]

/-- Directly behind a letter, an equals sign would not belong to the value. -/
def Takes (s : Spelling) (value : String) : Prop := s = .letterJoined → value.toList.head? ≠ some '='

end Spelling

/-! ## Phrases -/

/-- The value that asks for formats, the first and those after it. -/
def formatsValue (first : Format) (more : List Format) : String := ",".intercalate ((first :: more).map Format.name)

/-- What a command line asks for at one place. -/
inductive Phrase where
  | formats (spelling : Spelling) (first : Format) (more : List Format)
  | config (spelling : Spelling) (path : PlainWord) (fits : spelling.Takes path.text)
  | strict
  | file (word : PlainWord)

namespace Phrase

/-- The words of a phrase. -/
def words : Phrase → List String
  | .formats spelling first more => spelling.words .format (formatsValue first more)
  | .config spelling path _ => spelling.words .config path.text
  | .strict => ["--strict"]
  | .file word => [word.text]

/-- The formats that a phrase asks for. -/
def formatList : Phrase → List Format
  | .formats _ first more => first :: more
  | _ => []

/-- The configuration file that a phrase names. -/
def config? : Phrase → Option String
  | .config _ path _ => some path.text
  | _ => none

/-- The file that a phrase names. -/
def file? : Phrase → Option String
  | .file word => some word.text
  | _ => none

/-- The phrase is the flag `--strict`. -/
def isStrict : Phrase → Bool
  | .strict => true
  | _ => false

/-- What is asked for with one more phrase. -/
def addTo (a : Arguments) : Phrase → Arguments
  | .formats _ first more => { a with formats := a.formats ++ first :: more }
  | .config _ path _ => { a with config := some path.text }
  | .strict => { a with strict := true }
  | .file word => { a with file := some word.text }

/-- The phrase asks for nothing again that may come once only. -/
structure IsNew (a : Arguments) (p : Phrase) : Prop where
  file : p.file?.isSome → a.file = none
  strict : p.isStrict = true → a.strict = false
  config : p.config?.isSome → a.config = none

end Phrase

namespace Draft

/-! ## Taking up a word -/

theorem takeLong_longName (d : Draft) (o : ValueOption) (v? : Option (List Char)) :
    d.takeLong (o.longName ++ v?.elim [] ('=' :: ·)) = d.takeOption o (v?.map String.ofList) := by
  have hname : ∀ more : List Char, (o.longName ++ '=' :: more).takeWhile (· != '=') = o.longName := by
    cases o <;> exact fun _ => rfl
  have halone : o.longName.takeWhile (· != '=') = o.longName := by cases o <;> rfl
  have hlong : long? (String.ofList o.longName) = some (.inl o) := by cases o <;> rfl
  unfold takeLong
  cases v? with
  | none =>
    simp only [Option.elim, List.append_nil, halone, hlong]
    cases o <;> rfl
  | some v =>
    simp only [Option.elim, hname, hlong]
    cases o <;> rfl

section Words

variable {d : Draft} (hliteral : d.literal = false)

include hliteral

theorem take_plain (w : PlainWord) : d.take w.text = d.takePlain w.text := by
  obtain ⟨text, -, hdash⟩ := w
  unfold take
  rw [if_neg (by rw [hliteral]; exact Bool.false_ne_true)]
  split
  · rename_i h
    exact absurd (congrArg List.head? h) hdash
  · rename_i h
    exact absurd (congrArg List.head? h) hdash
  · rename_i h
    exact absurd (congrArg List.head? h) hdash
  · rfl

variable (o : ValueOption)

theorem take_letter : d.take (String.ofList ['-', o.letter]) = d.takeOption o none := by
  unfold take
  rw [if_neg (by rw [hliteral]; exact Bool.false_ne_true), String.toList_ofList]
  cases o <;> rfl

theorem take_letterJoined {v : List Char} (hne : v ≠ []) (heq : v.head? ≠ some '=') :
    d.take (String.ofList ('-' :: o.letter :: v)) = d.takeOption o (some (String.ofList v)) := by
  have hshort : d.takeShort o.letter v = d.takeOption o (some (String.ofList v)) := by
    have hletter : short? o.letter = some (.inl o) := by cases o <;> rfl
    unfold takeShort
    simp only [hletter]
    split
    · exact absurd rfl hne
    · exact absurd rfl heq
    · rfl
  unfold take
  rw [if_neg (by rw [hliteral]; exact Bool.false_ne_true), String.toList_ofList, ← hshort]
  cases o <;> rfl

theorem take_long : d.take (String.ofList ('-' :: '-' :: o.longName)) = d.takeOption o none := by
  have hlong := takeLong_longName d o none
  rw [Option.elim_none, List.append_nil] at hlong
  unfold take
  rw [if_neg (by rw [hliteral]; exact Bool.false_ne_true), String.toList_ofList]
  cases o <;> exact hlong

theorem take_longJoined (v : List Char) :
    d.take (String.ofList ('-' :: '-' :: o.longName ++ '=' :: v)) = d.takeOption o (some (String.ofList v)) := by
  have hlong := takeLong_longName d o (some v)
  unfold take
  rw [if_neg (by rw [hliteral]; exact Bool.false_ne_true), String.toList_ofList]
  cases o <;> exact hlong

end Words

/-! ## Taking up a phrase -/

/-- Behind some phrases: no option waits for its value, and with what is pending checked the draft asks for `a`. -/
structure Asks (d : Draft) (a : Arguments) : Prop where
  literal : d.literal = false
  fileSeen : d.fileSeen = a.file.isSome
  ready : ∀ o, d.pending ≠ .option o none
  settle : d.settle = .ok ⟨a, .nothing, a.file.isSome, false⟩

/-- A draft in which nothing is pending. -/
theorem Asks.of_settled (a : Arguments) : Asks ⟨a, .nothing, a.file.isSome, false⟩ a :=
  ⟨rfl, rfl, (fun _ h => nomatch h), rfl⟩

section Steps

variable {d : Draft} {a : Arguments} (h : Asks d a)

include h

/-- An option whose value is in its own word is given it at once, any other one when the draft is settled. -/
theorem Asks.option {o : ValueOption} {value : PlainWord} {s : Spelling} (hs : s.Takes value.text) {a' : Arguments}
    (hfile : a'.file = a.file)
    (hgive : give ⟨a, .nothing, a.file.isSome, false⟩ o value.text = .ok ⟨a', .nothing, a.file.isSome, false⟩) :
    ∃ d', (s.words o value.text).foldlM take d = .ok d' ∧ Asks d' a' := by
  have hjoined : d.takeOption o (some value.text) = .ok ⟨a', .nothing, a'.file.isSome, false⟩ := by
    rw [takeOption, h.settle, hfile]
    exact hgive
  have hapart : ∀ word : String, d.take word = d.takeOption o none →
      ∃ d', [word, value.text].foldlM take d = .ok d' ∧ Asks d' a' := by
    intro word hword
    refine ⟨⟨a, .option o (some value.text), a.file.isSome, false⟩, ?_, rfl, ?_, (fun _ h => nomatch h), ?_⟩
    · have htake : d.take word = .ok ⟨a, .option o none, a.file.isSome, false⟩ := by
        rw [hword, takeOption, h.settle]
        rfl
      rw [List.foldlM_cons, htake]
      show ([value.text].foldlM take _ : Except Usage Draft) = _
      rw [List.foldlM_cons, take_plain rfl value]
      rfl
    · rw [hfile]
    · rw [hfile]
      exact hgive
  have hvalue : value.text.toList ≠ [] := fun hnil => value.nonempty (String.toList_eq_nil_iff.mp hnil)
  cases s with
  | letter => exact hapart _ (take_letter h.literal o)
  | long => exact hapart _ (take_long h.literal o)
  | letterJoined =>
    refine ⟨_, ?_, .of_settled a'⟩
    rw [Spelling.words, List.foldlM_cons, take_letterJoined h.literal o hvalue (hs rfl), String.ofList_toList, hjoined]
    rfl
  | longJoined =>
    refine ⟨_, ?_, .of_settled a'⟩
    rw [Spelling.words, List.foldlM_cons, take_longJoined h.literal o, String.ofList_toList, hjoined]
    rfl

theorem Asks.strict (hstrict : a.strict = false) :
    ∃ d', d.take "--strict" = .ok d' ∧ Asks d' { a with strict := true } := by
  refine ⟨⟨{ a with strict := true }, .nothing, a.file.isSome, false⟩, ?_, .of_settled _⟩
  have htake : d.take "--strict" = d.takeFlag .strict true := by
    unfold take
    rw [if_neg (by rw [h.literal]; exact Bool.false_ne_true)]
    rfl
  rw [htake, takeFlag, h.settle]
  show (if a.strict = true then _ else _) = _
  rw [if_neg (by rw [hstrict]; exact Bool.false_ne_true)]
  rfl

theorem Asks.file (w : PlainWord) (hfile : a.file = none) :
    ∃ d', d.take w.text = .ok d' ∧ Asks d' { a with file := some w.text } := by
  have hseen : d.fileSeen = false := by rw [h.fileSeen, hfile]; rfl
  have hplain : d.takePlain w.text = d.takeFile w.text := by
    unfold takePlain
    split
    · rename_i o hwaits
      exact absurd hwaits (h.ready o)
    · rfl
  refine ⟨⟨a, .file w.text, true, false⟩, ?_, rfl, rfl, (fun _ h => nomatch h), ?_⟩
  · rw [take_plain h.literal, hplain, takeFile, if_neg (by rw [hseen]; exact Bool.false_ne_true), h.settle]
    rfl
  · show (if w.text = "" then _ else _) = _
    rw [if_neg w.nonempty]
    rfl

end Steps

/-! ## Formats in a value -/

theorem comma_not_mem_name (f : Format) : ',' ∉ f.name.toList := by cases f <;> decide

theorem betweenCommas_formatsValue (first : Format) (more : List Format) :
    betweenCommas (formatsValue first more) = (first :: more).map Format.name := by
  have hsplit : (formatsValue first more).toList.splitOn ',' = ((first :: more).map Format.name).map String.toList := by
    rw [formatsValue, String.toList_intercalate]
    refine List.splitOn_intercalate ',' ?_ (by simp)
    simp only [List.mem_map, List.map_map]
    rintro _ ⟨f, -, rfl⟩
    exact comma_not_mem_name f
  rw [betweenCommas, hsplit, List.map_map]
  exact List.map_id'' (fun _ => String.ofList_toList) _

theorem mapM_formatOf_names (fs : List Format) : (fs.map Format.name).mapM formatOf = .ok fs := by
  induction fs with
  | nil => rfl
  | cons f fs ih =>
    rw [List.map_cons, List.mapM_cons, formatOf_name, ih]
    rfl

theorem give_formats (d : Draft) (first : Format) (more : List Format) :
    d.give .format (formatsValue first more) =
      .ok { d with arguments := { d.arguments with formats := d.arguments.formats ++ first :: more } } := by
  rw [give, betweenCommas_formatsValue, mapM_formatOf_names]
  rfl

/-- A value that asks for formats begins with a letter. -/
theorem exists_letter (first : Format) (more : List Format) :
    ∃ c ∈ ['j', 's', 'n', 't'], (formatsValue first more).toList.head? = some c := by
  have hfirst : ∃ rest, formatsValue first more = first.name ++ rest := by
    cases more with
    | nil => exact ⟨"", (String.append_empty).symm⟩
    | cons f more => exact ⟨_, (String.intercalate_cons_cons).trans (String.append_assoc ..)⟩
  obtain ⟨rest, hrest⟩ := hfirst
  rw [hrest, String.toList_append]
  cases first
  · exact ⟨'j', by simp, rfl⟩
  · exact ⟨'s', by simp, rfl⟩
  · exact ⟨'n', by simp, rfl⟩
  · exact ⟨'t', by simp, rfl⟩

/-- The value that asks for formats as a word. -/
def formatsWord (first : Format) (more : List Format) : PlainWord where
  text := formatsValue first more
  nonempty := by
    intro h
    obtain ⟨c, -, hc⟩ := exists_letter first more
    rw [h] at hc
    cases hc
  undashed := by
    intro h
    obtain ⟨c, hmem, hc⟩ := exists_letter first more
    obtain rfl := Option.some_inj.mp (h.symm.trans hc)
    exact absurd hmem (by decide)

theorem takes_formatsWord (s : Spelling) (first : Format) (more : List Format) : s.Takes (formatsWord first more).text := by
  intro _ h
  obtain ⟨c, hmem, hc⟩ := exists_letter first more
  obtain rfl := Option.some_inj.mp (h.symm.trans hc)
  exact absurd hmem (by decide)

/-! ## Taking up phrases -/

/-- A phrase that is new adds what it asks for. -/
theorem Asks.phrase {d : Draft} {a : Arguments} (h : Asks d a) {p : Phrase} (hp : p.IsNew a) :
    ∃ d', p.words.foldlM take d = .ok d' ∧ Asks d' (p.addTo a) := by
  have hone : ∀ {word : String} {a' : Arguments}, (∃ d', d.take word = .ok d' ∧ Asks d' a') →
      ∃ d', [word].foldlM take d = .ok d' ∧ Asks d' a' := by
    rintro word a' ⟨d', htake, hd'⟩
    refine ⟨d', ?_, hd'⟩
    rw [List.foldlM_cons, htake]
    rfl
  cases p with
  | formats s first more =>
    have hgive := give_formats ⟨a, .nothing, a.file.isSome, false⟩ first more
    exact h.option (takes_formatsWord s first more) rfl hgive
  | config s path fits =>
    have hnone : a.config = none := hp.config rfl
    refine h.option fits rfl ?_
    unfold give
    dsimp only
    rw [hnone, if_neg (by exact Bool.false_ne_true), if_neg path.nonempty]
    rfl
  | strict => exact hone (h.strict (hp.strict rfl))
  | file w => exact hone (h.file w (hp.file rfl))

end Draft

namespace Phrase

/-- Phrases that, behind what is asked for, ask once at most for what may come once only. -/
structure Fit (a : Arguments) (ps : List Phrase) : Prop where
  file : (a.file.toList ++ ps.filterMap file?).length ≤ 1
  strict : a.strict.toNat + ps.countP isStrict ≤ 1
  config : (a.config.toList ++ ps.filterMap config?).length ≤ 1

/-- What is asked for with some more phrases. -/
def addAll (a : Arguments) (ps : List Phrase) : Arguments where
  file := (a.file.toList ++ ps.filterMap file?).head?
  formats := a.formats ++ ps.flatMap formatList
  strict := a.strict || ps.any isStrict
  config := (a.config.toList ++ ps.filterMap config?).head?

theorem Fit.cons {a : Arguments} {p : Phrase} {ps : List Phrase} (h : Fit a (p :: ps)) :
    p.IsNew a ∧ Fit (p.addTo a) ps ∧ addAll (p.addTo a) ps = addAll a (p :: ps) := by
  obtain ⟨file, formats, strict, config⟩ := a
  obtain ⟨hfile, hstrict, hconfig⟩ := h
  cases p with
  | formats s first more =>
    refine ⟨⟨(fun h => nomatch h), (fun h => nomatch h), (fun h => nomatch h)⟩, ⟨hfile, hstrict, hconfig⟩, ?_⟩
    simp [addAll, addTo, formatList, isStrict, file?, config?, List.findSome?_cons]
  | config s path fits =>
    cases config with
    | some c => simp [config?] at hconfig
    | none =>
      refine ⟨⟨(fun h => nomatch h), (fun h => nomatch h), fun _ => rfl⟩, ⟨hfile, hstrict, hconfig⟩, ?_⟩
      simp [addAll, addTo, formatList, isStrict, file?, config?, List.findSome?_cons]
  | strict =>
    have hcount : (Phrase.strict :: ps).countP isStrict = ps.countP isStrict + 1 := List.countP_cons_of_pos rfl
    rw [hcount] at hstrict
    cases strict with
    | true =>
      simp only [Bool.toNat_true] at hstrict
      omega
    | false =>
      refine ⟨⟨(fun h => nomatch h), (fun _ => rfl), (fun h => nomatch h)⟩, ⟨hfile, ?_, hconfig⟩, ?_⟩
      · simpa [addTo, Nat.add_comm] using hstrict
      · simp [addAll, addTo, formatList, isStrict, file?, config?, List.findSome?_cons]
  | file w =>
    cases file with
    | some f => simp [file?] at hfile
    | none =>
      refine ⟨⟨(fun _ => rfl), (fun h => nomatch h), (fun h => nomatch h)⟩, ⟨hfile, hstrict, hconfig⟩, ?_⟩
      simp [addAll, addTo, formatList, isStrict, file?, config?, List.findSome?_cons]

end Phrase

theorem Draft.asks_empty : Asks .empty ⟨none, [], false, none⟩ := ⟨rfl, rfl, (fun _ h => nomatch h), rfl⟩

/-- Phrases that fit are taken up one after the other. -/
theorem Draft.Asks.phrases {d : Draft} {a : Arguments} (h : Asks d a) {ps : List Phrase} (hps : Phrase.Fit a ps) :
    ∃ d', (ps.flatMap Phrase.words).foldlM take d = .ok d' ∧ Asks d' (Phrase.addAll a ps) := by
  induction ps generalizing d a with
  | nil =>
    refine ⟨d, rfl, ?_⟩
    obtain ⟨file, formats, strict, config⟩ := a
    have hnone : Phrase.addAll ⟨file, formats, strict, config⟩ [] = ⟨file, formats, strict, config⟩ := by
      cases file <;> cases config <;> simp [Phrase.addAll]
    rw [hnone]
    exact h
  | cons p ps ih =>
    obtain ⟨hnew, hrest, hall⟩ := hps.cons
    obtain ⟨d₁, hfirst, h₁⟩ := h.phrase hnew
    obtain ⟨d₂, hmore, h₂⟩ := ih h₁ hrest
    refine ⟨d₂, ?_, hall ▸ h₂⟩
    rw [List.flatMap_cons, List.foldlM_append, hfirst]
    exact hmore

end CommandLine

open CommandLine (Phrase PlainWord)

/-- Phrases are read as what they ask for, whatever their order and however they are spelled, if the file,
`--strict` and a configuration file are asked for once at most. The formats are in the order in which they come. -/
theorem Arguments.ofWords_phrases {ps : List Phrase} (hfile : (ps.filterMap Phrase.file?).length ≤ 1)
    (hstrict : ps.countP Phrase.isStrict ≤ 1) (hconfig : (ps.filterMap Phrase.config?).length ≤ 1) :
    Arguments.ofWords (ps.flatMap Phrase.words) = .ok
      { file := ps.findSome? Phrase.file?
        formats := ps.flatMap Phrase.formatList
        strict := ps.any Phrase.isStrict
        config := ps.findSome? Phrase.config? } := by
  have hfit : Phrase.Fit ⟨none, [], false, none⟩ ps := ⟨hfile, by simpa using hstrict, hconfig⟩
  have hall : Phrase.addAll ⟨none, [], false, none⟩ ps =
      ⟨ps.findSome? Phrase.file?, ps.flatMap Phrase.formatList, ps.any Phrase.isStrict, ps.findSome? Phrase.config?⟩ := by
    simp [Phrase.addAll, List.head?_filterMap]
  obtain ⟨d, hwords, hd⟩ := CommandLine.Draft.asks_empty.phrases hfit
  rw [← hall, Arguments.ofWords, hwords]
  show d.settle >>= _ = _
  rw [hd.settle]
  rfl

/-- A file that is named like a format. -/
def sqlFile : PlainWord := ⟨"sql", by decide, by decide⟩

/-- A configuration file whose name begins with an equals sign. -/
def oddConfig : PlainWord := ⟨"=c", by decide, by decide⟩

/-- Formats in all four spellings, with the other phrases between them. -/
theorem Arguments.ofWords_spelledFormats :
    Arguments.ofWords ["-fjson,toon", "sql", "--format", "sql", "--config==c", "-f", "json", "--strict", "--format=nosql"] =
      .ok ⟨some "sql", [.json, .toon, .sql, .json, .nosql], true, some "=c"⟩ :=
  @Arguments.ofWords_phrases
    [.formats .letterJoined .json [.toon], .file sqlFile, .formats .long .sql [],
      .config .longJoined oddConfig (fun h => nomatch h), .formats .letter .json [], .strict, .formats .longJoined .nosql []]
    (by decide) (by decide) (by decide)

end SoliditySchema
