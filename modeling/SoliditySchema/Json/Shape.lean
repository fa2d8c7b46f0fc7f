/-
  SoliditySchema.Json.Shape — what a JSON text or value should hold.

  A shape is a text, a flag, a list, one of some names, or a record of named fields. What is read by a
  shape is a `Datum`, whose records have their fields in the order of the shape.

  A record is an object whose keys may come in any order; an unknown key is skipped with its value, and a
  known key that does not come is a fault, unless the field has a default. A record may also be a list of
  its fields in order. A name may be written as an object whose only key it is, with the value `null`.
-/

import SoliditySchema.Json.Fault

namespace SoliditySchema.Json

/-- What was read. -/
inductive Datum where
  | text (s : String)
  | flag (b : Bool)
  | list (elements : List Datum)
  | choice (name : String)
  | record (fields : List Datum)

mutual

/-- What is expected. -/
inductive Shape where
  | text
  | flag
  | list (element : Shape)
  | choice (names : List String)
  | record (name : String) (fields : List Field)

/-- A field of a record: its key, its shape, and its value where it is left out. -/
inductive Field where
  | mk (key : String) (shape : Shape) (default : Option Datum)

end

/-! ## Records -/

namespace Shape

/-- What a message calls a record. -/
def structName (name : String) : String := "struct " ++ name

/-- What a message says that a record of so many fields should be. -/
def recordAsList (name : String) (count : Nat) : String :=
  name ++ " with " ++ toString count ++ (if count = 1 then " element" else " elements")

end Shape

/-- A field of a record with a way to take its value. -/
structure FieldBy (α : Type) where
  key : String
  take : α
  default : Option Datum

/-- What has been read of a record: for each field its value, if it has come. -/
abbrev Slots := List (Option Datum)

/-- The values of the fields, with the defaults of those that have not come. -/
def complete {α : Type} (fields : List (FieldBy α)) (slots : Slots) : Except Cause (List Datum) :=
  (fields.zip slots).mapM fun p =>
    match p.2, p.1.default with
    | some d, _ => .ok d
    | none, some d => .ok d
    | none, none => .error (.missingField p.1.key)

end SoliditySchema.Json
