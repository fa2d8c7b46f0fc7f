/-
  SoliditySchema.Event — what a run reports of its work.

  Events are kept as data, in the order in which they happen; `level`, `message` and `fields` say how the
  log shows them. Which of them it shows, and where, is left to the setting up of the log, which is no part of this.
-/

import SoliditySchema.Diagnostic

namespace SoliditySchema

/-- How much an event matters. -/
inductive Level where
  | debug | info | warn
  deriving DecidableEq, Repr

/-- A value that an event carries. -/
inductive FieldValue where
  | number (n : Nat)
  | text (s : String)
  deriving DecidableEq, Repr

/-- Something that happened. -/
inductive Event where
  /-- The whole file did not parse, with so many errors, and its items are tried one by one. -/
  | recovering (errors : Nat)
  /-- An item was skipped for an error. -/
  | skipped (d : Diagnostic)
  | builtTable (contract table : String) (columns : Nat)
  | extracted (contract : String) (tables columns : Nat)
  | loadedConfig (path : String)
  deriving DecidableEq, Repr

namespace Event

/-- The level of an event. -/
def level : Event → Level
  | .recovering _ => .debug
  | .skipped _ => .warn
  | .builtTable _ _ _ => .debug
  | .extracted _ _ _ => .info
  | .loadedConfig _ => .debug

/-- The message of an event. -/
def message : Event → String
  | .recovering _ => "full parse failed, recovering per top-level item"
  | .skipped d => "skipping unparsable item: " ++ d.message
  | .builtTable _ _ _ => "built table"
  | .extracted _ _ _ => "extracted schema"
  | .loadedConfig _ => "loaded config file"

/-- The values that an event carries, by name. -/
def fields : Event → List (String × FieldValue)
  | .recovering errors => [("errors", .number errors)]
  | .skipped d => [("line", .number d.place.line), ("column", .number d.place.column)]
  | .builtTable contract table columns =>
    [("contract", .text contract), ("table", .text table), ("columns", .number columns)]
  | .extracted contract tables columns =>
    [("contract", .text contract), ("tables", .number tables), ("columns", .number columns)]
  | .loadedConfig path => [("path", .text path)]

/-- The diagnostic of an item that was skipped. -/
def skipped? : Event → Option Diagnostic
  | .skipped d => some d
  | _ => none

end Event

end SoliditySchema
