/-
  SoliditySchema.Json.Shape.OfValue — taking a JSON value of an expected shape.

  A value has no places, so what is wrong is only a cause. The members of an object are taken in the order
  of their keys.
-/

import SoliditySchema.Json
import SoliditySchema.Json.Input
import SoliditySchema.Json.Shape

namespace SoliditySchema.Json

/-- A value as a message names it; a number as it is named in a text. -/
def foundOf : Json → Found
  | .null => .null
  | .bool b => .bool b
  | .number mantissa places =>
    match Input.found ⟨decimal mantissa places, 0⟩ with
    | .ok (found, _) => found
    | .error _ => .integer mantissa
  | .string s => .string s
  | .array _ => .sequence
  | .object _ => .map

/-- A way to check a value. -/
abbrev Checker := Json → Except Cause Datum

namespace Check

/-- One of some names. -/
def name (names : List String) (s : String) : Except Cause Datum :=
  if s ∈ names then .ok (.choice s) else .error (.unknownChoice s names)

/-- One of some names, as a text or as the key of an object. -/
def choice (names : List String) : Json → Except Cause Datum
  | .string s => name names s
  | .object [(key, .null)] => name names key
  | .object [(key, value)] => do
    let _ ← name names key
    .error (.wrongType (foundOf value) "unit")
  | .object _ => .error (.wrongValue .map "map with a single key")
  | j => .error (.wrongType (foundOf j) "string or map")

/-- The fields of a record that is written as a list, `count` of them having been checked. -/
def positional (expected : String) (count : Nat) : List (FieldBy Checker) → List Json → Except Cause (List Datum)
  | [], _ => .ok []
  | f :: fs, j :: js => do return (← f.take j) :: (← positional expected (count + 1) fs js)
  | f :: fs, [] =>
    match f.default with
    | some d => do return d :: (← positional expected (count + 1) fs [])
    | none => .error (.wrongLength count expected)

/-- The members of an object in the order of their keys, with the fields they fill. -/
def members (fields : List (FieldBy Checker)) : Slots → List (String × Json) → Except Cause Slots
  | slots, [] => .ok slots
  | slots, (key, value) :: ms =>
    match fields.findIdx? fun f => f.key == key with
    | none => members fields slots ms
    | some k =>
      match fields[k]? with
      | none => members fields slots ms
      | some f => do members fields (slots.set k (some (← f.take value))) ms

/-- A record. -/
def record (name : String) (fields : List (FieldBy Checker)) : Json → Except Cause Datum
  | .array js => do
    let ds ← positional (Shape.recordAsList name fields.length) 0 fields js
    if fields.length < js.length then .error (.wrongLength js.length "fewer elements in array")
    else return .record ds
  | .object ms => do
    let sorted := ms.mergeSort fun a b => a.1 ≤ b.1
    let slots ← members fields (fields.map fun _ => none) sorted
    return .record (← complete fields slots)
  | j => .error (.wrongType (foundOf j) name)

end Check

namespace Shape

mutual

/-- Checks that a value is of a shape. -/
def check : Shape → Json → Except Cause Datum
  | .text, .string s => .ok (.text s)
  | .text, j => .error (.wrongType (foundOf j) "a string")
  | .flag, .bool b => .ok (.flag b)
  | .flag, j => .error (.wrongType (foundOf j) "a boolean")
  | .list element, .array js => (js.mapM element.check).map .list
  | .list _, j => .error (.wrongType (foundOf j) "a sequence")
  | .choice names, j => Check.choice names j
  | .record name fields, j => Check.record (structName name) (checks fields) j

/-- The checks of fields. -/
def checks : List Field → List (FieldBy Checker)
  | [] => []
  | .mk key shape default :: fs => ⟨key, shape.check, default⟩ :: checks fs

end

end Shape

end SoliditySchema.Json
