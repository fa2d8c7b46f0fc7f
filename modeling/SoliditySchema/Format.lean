/-
  SoliditySchema.Format — the formats in which a schema can be printed.
-/

import SoliditySchema.Schema.JsonForm
import SoliditySchema.Schema.Listing
import SoliditySchema.Schema.Script
import SoliditySchema.Schema.Tabular

namespace SoliditySchema

/-- A format. -/
inductive Format where
  | json
  | sql
  | nosql
  | toon
  deriving DecidableEq, Repr

namespace Format

/-- Every format. -/
def all : List Format := [.json, .sql, .nosql, .toon]

/-- The formats that are printed if none are asked for. -/
def defaults : List Format := [.json, .sql, .nosql]

/-- The name by which a format is asked for. -/
def name : Format → String
  | .json => "json"
  | .sql => "sql"
  | .nosql => "nosql"
  | .toon => "toon"

/-- The line before a schema in a format. -/
def label : Format → String
  | .json => "JSON Format:"
  | .sql => "SQL Format:"
  | .nosql => "NoSQL Format:"
  | .toon => "TOON Format:"

/-- What the help text says about a format. -/
def summary : Format → String
  | .json => "JSON document of the schema model"
  | .sql => "CREATE DATABASE / CREATE TABLE script"
  | .nosql => "Document-store collection listing"
  | .toon => "Token-efficient toon format"

/-- A letter of the ASCII alphabet in lower case, any other character as it is. -/
def lowerAscii (c : Char) : Char := if 'A' ≤ c ∧ c ≤ 'Z' then Char.ofNat (c.toNat + 32) else c

/-- Two words are the same, or the same but for the case of ASCII letters. -/
def sameWord (ignoreCase : Bool) (a b : String) : Bool :=
  if ignoreCase then a.toList.map lowerAscii == b.toList.map lowerAscii else a == b

/-- The format of a name. -/
def ofName? (name : String) (ignoreCase : Bool) : Option Format :=
  all.find? fun f => sameWord ignoreCase f.name name

/-- A database in a format. -/
def render : Format → Database → String
  | .json, d => d.toJsonText
  | .sql, d => d.toScript
  | .nosql, d => d.toListing
  | .toon, d => d.toTabular

end Format

end SoliditySchema
