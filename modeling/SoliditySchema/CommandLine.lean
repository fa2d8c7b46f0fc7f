/-
  SoliditySchema.CommandLine — the words after the program's name.

  A word is an option, the value of an option, or the file to read. An option with a value takes it from
  the same word (`-fsql`, `-f=sql`, `--format=sql`) or from the next one, which may not look like an
  option itself; after `--` every word stands for itself. A value is checked when the next option or file
  is taken up, or at the end, so an unknown option is reported before a wrong value in the word before it.
  Of the answer to a mistake only the first line is given.
-/

import SoliditySchema.Format

namespace SoliditySchema

/-- What a command line asks for. -/
structure Arguments where
  file : Option String
  formats : List Format
  strict : Bool
  config : Option String
  deriving DecidableEq, Repr

/-- Why a command line is not followed: the first two ask for a text, the others are mistakes. -/
inductive Usage where
  | help (long : Bool)
  | version
  | missingValue (argument : String)
  | invalidValue (value argument : String)
  | tooManyValues (value argument : String)
  | repeated (argument : String)
  | unknown (argument : String)
  deriving DecidableEq, Repr

namespace CommandLine

/-- The name of the program. -/
def programName : String := "contract_schema"

/-- The version of the program. -/
def versionText : String := programName ++ " 0.1.0\n"

/-! ## Help texts -/

/-- A text filled up with blanks to a width. -/
def pad (width : Nat) (s : String) : String := s ++ String.ofList (List.replicate (width - s.length) ' ')

/-- The description of each argument. -/
def about : String := "Extract struct and function-local schemas from a Solidity contract file"
def aboutFile : String := "Path to the Solidity source file"
def aboutFormat : String := "Output formats, in order (repeatable or comma-separated)"
def aboutStrict : String := "Fail on any syntax error instead of skipping unparsable top-level items"
def aboutConfig : String :=
  "Config file (defaults to .contract_schema.json in the current directory, if present)"

/-- How the program is called. -/
def usageLine : String := "Usage: " ++ programName ++ " [OPTIONS] [FILE]"

/-- The lines with examples at the end of every help text. -/
def examples : List String := [
  "Examples:",
  "  " ++ programName ++ " Token.sol                  # JSON, SQL and NoSQL schemas",
  "  " ++ programName ++ " Token.sol -f sql           # SQL script only",
  "  " ++ programName ++ " Token.sol -f json,toon     # JSON then toon",
  "  " ++ programName ++ " Token.sol --strict         # Fail on any syntax error"]

/-- The short help text, a line for each argument. -/
def shortHelp : List String :=
  [about, "", usageLine, "",
    "Arguments:",
    "  [FILE]  " ++ aboutFile, "",
    "Options:",
    "  -f, --format <FORMATS>  " ++ aboutFormat ++ " [possible values: "
      ++ ", ".intercalate (Format.all.map Format.name) ++ "]",
    "      --strict            " ++ aboutStrict,
    "  -c, --config <CONFIG>   " ++ aboutConfig,
    "  -h, --help              Print help (see more with '--help')",
    "  -V, --version           Print version", ""] ++ examples

/-- The long help text. -/
def longHelp : List String :=
  [about, "", usageLine, "",
    "Arguments:",
    "  [FILE]",
    "          " ++ aboutFile, "",
    "Options:",
    "  -f, --format <FORMATS>",
    "          " ++ aboutFormat, "",
    "          Possible values:"]
    ++ Format.all.map (fun f => "          - " ++ pad 7 (f.name ++ ":") ++ f.summary)
    ++ ["",
    "      --strict",
    "          " ++ aboutStrict, "",
    "  -c, --config <CONFIG>",
    "          " ++ aboutConfig, "",
    "  -h, --help",
    "          Print help (see a summary with '-h')", "",
    "  -V, --version",
    "          Print version", ""] ++ examples

/-! ## Options -/

/-- An option that takes a value. -/
inductive ValueOption where
  | format
  | config
  deriving DecidableEq, Repr

/-- How messages write an option with its value. -/
def ValueOption.display : ValueOption → String
  | .format => "--format <FORMATS>"
  | .config => "--config <CONFIG>"

/-- An option takes its values whatever the case of their letters; none does. -/
def ValueOption.ignoresCase : ValueOption → Bool
  | .format => false
  | .config => false

/-- An option that takes no value. -/
inductive Flag where
  | strict
  | help
  | version
  deriving DecidableEq, Repr

/-- How messages write a flag. -/
def Flag.display : Flag → String
  | .strict => "--strict"
  | .help => "--help"
  | .version => "--version"

/-- How messages write the file. -/
def fileDisplay : String := "[FILE]"

/-- An option by its long name. -/
def long? (name : String) : Option (ValueOption ⊕ Flag) :=
  if name = "format" then some (.inl .format)
  else if name = "config" then some (.inl .config)
  else if name = "strict" then some (.inr .strict)
  else if name = "help" then some (.inr .help)
  else if name = "version" then some (.inr .version)
  else none

/-- An option by its letter. -/
def short? (letter : Char) : Option (ValueOption ⊕ Flag) :=
  if letter = 'f' then some (.inl .format)
  else if letter = 'c' then some (.inl .config)
  else if letter = 'h' then some (.inr .help)
  else if letter = 'V' then some (.inr .version)
  else none

/-! ## Reading words -/

/-- What was taken up and is still to be checked: an option with its value, if that has come, or the
file. -/
inductive Pending where
  | nothing
  | option (o : ValueOption) (value : Option String)
  | file (word : String)
  deriving DecidableEq, Repr

/-- What the words so far ask for. `fileSeen` says that the place of the file is taken, and `literal`
that words stand for themselves. -/
structure Draft where
  arguments : Arguments
  pending : Pending
  fileSeen : Bool
  literal : Bool
  deriving DecidableEq, Repr

namespace Draft

/-- No words yet. -/
def empty : Draft := ⟨⟨none, [], false, none⟩, .nothing, false, false⟩

/-- The parts of a text between its commas. -/
def betweenCommas (s : String) : List String := (s.toList.splitOn ',').map String.ofList

/-- A format given by name. -/
def formatOf (name : String) : Except Usage Format :=
  match Format.ofName? name ValueOption.format.ignoresCase with
  | some f => .ok f
  | none =>
    if name = "" then .error (.missingValue ValueOption.format.display)
    else .error (.invalidValue name ValueOption.format.display)

/-- Gives an option its value. -/
def give (d : Draft) (o : ValueOption) (value : String) : Except Usage Draft :=
  match o with
  | .format => do
    let formats ← (betweenCommas value).mapM formatOf
    return { d with arguments := { d.arguments with formats := d.arguments.formats ++ formats } }
  | .config =>
    if d.arguments.config.isSome then .error (.repeated o.display)
    else if value = "" then .error (.missingValue o.display)
    else .ok { d with arguments := { d.arguments with config := some value } }

/-- Checks what is pending. -/
def settle (d : Draft) : Except Usage Draft :=
  let done := { d with pending := .nothing }
  match d.pending with
  | .nothing => .ok d
  | .option o (some value) => done.give o value
  | .option o none => .error (.missingValue o.display)
  | .file word =>
    if word = "" then .error (.missingValue fileDisplay)
    else .ok { done with arguments := { d.arguments with file := some word } }

/-- Takes up an option and its value, if the value is in the same word. -/
def takeOption (d : Draft) (o : ValueOption) (value : Option String) : Except Usage Draft := do
  let d ← d.settle
  match value with
  | some v => d.give o v
  | none => return { d with pending := .option o none }

/-- Takes up a flag; `long` says how it was written. -/
def takeFlag (d : Draft) (f : Flag) (long : Bool) : Except Usage Draft := do
  let d ← d.settle
  match f with
  | .strict =>
    if d.arguments.strict then .error (.repeated f.display)
    else return { d with arguments := { d.arguments with strict := true } }
  | .help => .error (.help long)
  | .version => .error .version

/-- Takes up a word that stands for itself: the file. -/
def takeFile (d : Draft) (word : String) : Except Usage Draft := do
  if d.fileSeen then .error (.unknown word)
  else
    let d ← d.settle
    return { d with pending := .file word, fileSeen := true }

/-- Takes up a word that is no option: the value that an option waits for, or the file. -/
def takePlain (d : Draft) (word : String) : Except Usage Draft :=
  match d.pending with
  | .option o none => .ok { d with pending := .option o (some word) }
  | _ => d.takeFile word

/-- Takes up a long option, without its dashes. -/
def takeLong (d : Draft) (word : List Char) : Except Usage Draft :=
  let name := String.ofList (word.takeWhile (· != '='))
  let value := (word.dropWhile (· != '=')).tail?.map String.ofList
  match long? name with
  | some (.inl o) => d.takeOption o value
  | some (.inr f) =>
    match value with
    | some v => .error (.tooManyValues v f.display)
    | none => d.takeFlag f true
  | none => .error (.unknown ("--" ++ name))

/-- Takes up a short option, whose letter is followed by `rest`. -/
def takeShort (d : Draft) (letter : Char) (rest : List Char) : Except Usage Draft :=
  match short? letter with
  | some (.inl o) =>
    match rest with
    | [] => d.takeOption o none
    | '=' :: value => d.takeOption o (some (String.ofList value))
    | value => d.takeOption o (some (String.ofList value))
  | some (.inr f) => d.takeFlag f false
  | none => .error (.unknown (String.ofList ['-', letter]))

/-- Takes up a word. -/
def take (d : Draft) (word : String) : Except Usage Draft :=
  if d.literal then d.takeFile word
  else
    match word.toList with
    | ['-', '-'] => .ok { d with literal := true }
    | '-' :: '-' :: name => d.takeLong name
    | '-' :: letter :: rest => d.takeShort letter rest
    | _ => d.takePlain word

end Draft

end CommandLine

/-- Reads the words of a command line. -/
def Arguments.ofWords (words : List String) : Except Usage Arguments := do
  let d ← words.foldlM CommandLine.Draft.take .empty
  let d ← d.settle
  return d.arguments

/-- The text that answers a command line which is not followed. -/
def Usage.message : Usage → String
  | .help true => "\n".intercalate CommandLine.longHelp ++ "\n"
  | .help false => "\n".intercalate CommandLine.shortHelp ++ "\n"
  | .version => CommandLine.versionText
  | .missingValue argument => "error: a value is required for '" ++ argument ++ "' but none was supplied"
  | .invalidValue value argument => "error: invalid value '" ++ value ++ "' for '" ++ argument ++ "'"
  | .tooManyValues value argument =>
    "error: unexpected value '" ++ value ++ "' for '" ++ argument ++ "' found; no more were expected"
  | .repeated argument => "error: the argument '" ++ argument ++ "' cannot be used multiple times"
  | .unknown argument => "error: unexpected argument '" ++ argument ++ "' found"

/-- The text was asked for. -/
def Usage.isAnswer : Usage → Bool
  | .help _ => true
  | .version => true
  | _ => false

/-- The exit code: 0 if the text was asked for, else 2. -/
def Usage.exitCode (u : Usage) : Nat := if u.isAnswer then 0 else 2

end SoliditySchema
