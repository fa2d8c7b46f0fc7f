/-
  SoliditySchema.Config — the configuration file.

  A configuration has a section `parse` with the flag `tolerant`, and a section `output` with the list
  `formats`. Sections and fields may be left out.
-/

import SoliditySchema.Format
import SoliditySchema.Json.Shape.OfValue

namespace SoliditySchema

open Json (Shape Field Datum)

/-- A configuration. -/
structure Config where
  tolerant : Bool
  formats : List Format
  deriving DecidableEq, Repr

namespace Config

/-- The configuration where there is none. -/
def standard : Config := ⟨true, Format.defaults⟩

/-- The file that is looked up if no other is named. -/
def fileName : String := ".contract_schema.json"

/-- Formats as they are read. -/
def formatsDatum (formats : List Format) : Datum := .list (formats.map fun f => .choice f.name)

/-- The shape of a format's name. -/
def formatShape : Shape := .choice (Format.all.map Format.name)

/-- The shape of a configuration. -/
def shape : Shape :=
  .record "ConfigFile" [
    .mk "parse" (.record "ParseConfig" [.mk "tolerant" .flag (some (.flag standard.tolerant))])
      (some (.record [.flag standard.tolerant])),
    .mk "output" (.record "OutputConfig" [.mk "formats" (.list formatShape) (some (formatsDatum standard.formats))])
      (some (.record [formatsDatum standard.formats]))]

/-- The format that was read, if it is one. -/
def formatOfDatum? : Datum → Option Format
  | .choice name => Format.ofName? name false
  | _ => none

/-- The configuration that was read. -/
def ofDatum : Datum → Config
  | .record [.record [.flag tolerant], .record [.list formats]] => ⟨tolerant, formats.filterMap formatOfDatum?⟩
  | _ => standard

/-- Reads a configuration from a JSON text. -/
def ofJsonText (text : String) : Except Json.Fault Config := (shape.readText text).map ofDatum

/-- Takes a configuration from a JSON value. -/
def ofJson (j : Json) : Except Json.Cause Config := (shape.check j).map ofDatum

end Config

end SoliditySchema
