/-
  SoliditySchema.Extraction — from a source text to the report of its schemas.

  A text is parsed, and each of its contracts is built into a database, in order; the first contract
  that cannot be built ends the run. A run is followed by its events: those of the parsing, then for
  each contract one for each table and, once all are built, one for the contract.
-/

import SoliditySchema.CommandLine
import SoliditySchema.Config
import SoliditySchema.FileTree
import SoliditySchema.Outline.OfText
import SoliditySchema.Report
import SoliditySchema.Schema.OfContract

namespace SoliditySchema

/-- What a run goes by. -/
structure Settings where
  tolerant : Bool
  formats : List Format
  deriving DecidableEq, Repr

/-- The settings of a command line and a configuration: the command line comes first, and formats are
never left empty. -/
def Settings.resolve (args : Arguments) (config : Config) : Settings :=
  ⟨config.tolerant && !args.strict,
   if args.formats ≠ [] then args.formats
   else if config.formats ≠ [] then config.formats
   else Format.defaults⟩

/-- Why a run gives no report. -/
inductive RunError where
  | missingFile
  | unreadableConfig (path : String) (reason : ReadError)
  | invalidConfig (path : String) (reason : String)
  | unreadableSource (path : String) (reason : ReadError)
  | badSource (diagnostics : List Diagnostic)
  | unresolved (contract : String) (column : UnresolvedColumn)
  deriving DecidableEq, Repr

/-- The message of an error. -/
def RunError.message : RunError → String
  | .missingFile => "Please provide a Solidity file path."
  | .unreadableConfig path reason => "Failed to read config file '" ++ path ++ "': " ++ reason.message
  | .invalidConfig path reason => "Invalid JSON in config file '" ++ path ++ "': " ++ reason
  | .unreadableSource path reason => "Failed to read source file '" ++ path ++ "': " ++ reason.message
  | .badSource diagnostics => Diagnostic.failureMessage diagnostics
  | .unresolved contract column =>
    "Failed to build schema for contract '" ++ contract ++ "': " ++ column.message

/-- What comes of a run: the events on the way, and the report or the error that ended it. -/
structure Run where
  events : List Event
  result : Except RunError Report

namespace Run

/-- A run that ends with an error before anything happens. -/
def failed (e : RunError) : Run := ⟨[], .error e⟩

/-- A run after some events. -/
def after (events : List Event) (r : Run) : Run := ⟨events ++ r.events, r.result⟩

end Run

/-- The databases of contracts up to the first that cannot be built, and the events of building them. -/
def Database.ofContracts : List Outline.Contract → List Event × Except RunError (List Database)
  | [] => ([], .ok [])
  | c :: cs =>
    let events := (BuiltTables.ofContract c).events c.name
    match Database.ofContract c with
    | .error u => (events, .error (.unresolved c.name u))
    | .ok d =>
      let (more, rest) := ofContracts cs
      (events ++ .extracted d.name d.tables.length d.columnCount :: more, rest.map (d :: ·))

/-- The run over a source text. -/
def Run.ofSource (settings : Settings) (source : String) : Run :=
  let parsed := Outline.parse settings.tolerant source.toList
  match parsed.result with
  | .error ds => ⟨parsed.events, .error (.badSource ds)⟩
  | .ok outline =>
    let (events, databases) := Database.ofContracts outline.contracts
    ⟨parsed.events ++ events, databases.map fun ds => ⟨ds, settings.formats⟩⟩

/-! ## Runs of a command line -/

/-- The configuration in a file, and the event of its loading. -/
def Config.load (files : Files) (path : String) : List Event × Except RunError Config :=
  match files path with
  | .error e => ([], .error (.unreadableConfig path e))
  | .ok text =>
    match Config.ofJsonText text with
    | .error f => ([], .error (.invalidConfig path (f.message text)))
    | .ok config => ([.loadedConfig path], .ok config)

/-- The configuration in the named file; without a name that in the usual file, if there is one. -/
def Config.discover (files : Files) (path : Option String) : List Event × Except RunError Config :=
  match path with
  | some p => load files p
  | none =>
    match files fileName with
    | .error .notFound => ([], .ok standard)
    | _ => load files fileName

/-- The run over the source file at a path. -/
def Run.ofFile (files : Files) (settings : Settings) (path : String) : Run :=
  match files path with
  | .error e => .failed (.unreadableSource path e)
  | .ok source => .ofSource settings source

/-- The run of a command line. -/
def Run.ofArguments (files : Files) (args : Arguments) : Run :=
  match args.file with
  | none => .failed .missingFile
  | some path =>
    match Config.discover files args.config with
    | (events, .error e) => ⟨events, .error e⟩
    | (events, .ok config) => (Run.ofFile files (Settings.resolve args config) path).after events

/-! ## The program -/

/-- What a user sees of the program. -/
structure Outcome where
  exitCode : Nat
  output : String
  errors : String
  deriving DecidableEq, Repr

/-- The outcome of a run: the report, or the message of the error and exit code 1. -/
def Outcome.ofRun (r : Run) : Outcome :=
  match r.result with
  | .ok report => ⟨0, report.render, ""⟩
  | .error e => ⟨1, "", e.message ++ "\n"⟩

/-- The outcome of the program for a command line. -/
def Outcome.ofWords (files : Files) (words : List String) : Outcome :=
  match Arguments.ofWords words with
  | .ok args => .ofRun (.ofArguments files args)
  | .error u =>
    if u.isAnswer then ⟨u.exitCode, u.message, ""⟩
    else ⟨u.exitCode, "", u.message ++ "\n\nFor more information, try '--help'.\n"⟩

end SoliditySchema
