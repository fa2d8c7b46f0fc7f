/-
  SoliditySchema.Json.Shape.OfText — reading a JSON text of an expected shape.

  The text is read once from its beginning, up to the first fault. A key that comes twice is a fault. What
  is wrong with the fields of a record as a whole is placed behind the record's closing brace, if that
  comes next.
-/

import SoliditySchema.Json.Input
import SoliditySchema.Json.Shape

namespace SoliditySchema.Json

namespace Reader

open Input

/-- A text. -/
def text (expected : String) (i : Input) : Except Fault (String × Input) :=
  let i := i.skipBlanks
  match i.peek? with
  | none => .error (i.peekFault .endInValue)
  | some '"' => Input.text (i.skip 1)
  | some _ => .error (i.unexpected expected)

/-- A flag. -/
def flag (i : Input) : Except Fault (Datum × Input) :=
  let i := i.skipBlanks
  match i.peek? with
  | none => .error (i.peekFault .endInValue)
  | some 't' => (word ['r', 'u', 'e'] (i.skip 1)).map fun j => (.flag true, j)
  | some 'f' => (word ['a', 'l', 's', 'e'] (i.skip 1)).map fun j => (.flag false, j)
  | some _ => .error (i.unexpected "a boolean")

/-- The word `null`. -/
def null (i : Input) : Except Fault Input :=
  let i := i.skipBlanks
  match i.peek? with
  | none => .error (i.peekFault .endInValue)
  | some 'n' => word ['u', 'l', 'l'] (i.skip 1)
  | some _ => .error (i.unexpected "unit")

/-- A colon after a key. -/
def colon (i : Input) : Except Fault Input :=
  let i := i.skipBlanks
  match i.peek? with
  | none => .error (i.peekFault .endInObject)
  | some ':' => .ok (i.skip 1)
  | some _ => .error (i.peekFault .expectedColon)

/-- One of some names, as a text. -/
def name (names : List String) (i : Input) : Except Fault (Datum × Input) :=
  match text "variant identifier" i with
  | .error f => .error f
  | .ok (s, j) => if s ∈ names then .ok (.choice s, j) else .error (j.fault (.unknownChoice s names))

/-- One of some names. -/
def choice (names : List String) (i : Input) : Except Fault (Datum × Input) :=
  let i := i.skipBlanks
  match i.peek? with
  | none => .error (i.peekFault .endInValue)
  | some '"' => name names i
  | some '{' => do
    let (chosen, j) ← name names (i.skip 1)
    let j ← null (← colon j)
    let j := j.skipBlanks
    match j.peek? with
    | none => .error (j.fault .endInObject)
    | some '}' => .ok (chosen, j.skip 1)
    | some _ => .error (j.fault .expectedValue)
  | some _ => .error (i.peekFault .expectedValue)

/-- The input at the next element of a list, or none at its end. -/
def nextElement? (first : Bool) (i : Input) : Except Fault (Option Input) :=
  let i := i.skipBlanks
  match i.peek? with
  | none => .error (i.peekFault .endInList)
  | some ']' => .ok none
  | some c =>
    if first then .ok (some i)
    else if c = ',' then
      let j := (i.skip 1).skipBlanks
      match j.peek? with
      | none => .error (j.peekFault .endInValue)
      | some ']' => .error (j.peekFault .trailingComma)
      | some _ => .ok (some j)
    else .error (i.peekFault .expectedCommaOrBracket)

/-- The end of a list of which no more elements are wanted. -/
def listEnd (i : Input) : Except Fault Input :=
  let i := i.skipBlanks
  match i.peek? with
  | none => .error (i.peekFault .endInList)
  | some ']' => .ok (i.skip 1)
  | some ',' =>
    let j := (i.skip 1).skipBlanks
    .error (j.peekFault (if j.peek? = some ']' then .trailingComma else .trailingCharacters))
  | some _ => .error (i.peekFault .trailingCharacters)

/-- The elements of a list up to its end; each takes at least a character. -/
def elements (read : Reader Datum) : Nat → Bool → Input → Except Fault (List Datum × Input)
  | 0, _, i => .error (i.fault .expectedValue)
  | fuel + 1, first, i => do
    match ← nextElement? first i with
    | none => return ([], ← listEnd i)
    | some j =>
      let (d, after) ← read j
      let (ds, rest) ← elements read fuel false after
      return (d :: ds, rest)

/-- A list. -/
def list (read : Reader Datum) (i : Input) : Except Fault (Datum × Input) :=
  let i := i.skipBlanks
  match i.peek? with
  | none => .error (i.peekFault .endInValue)
  | some '[' => (elements read (i.rest.length + 1) true (i.skip 1)).map fun p => (.list p.1, p.2)
  | some _ => .error (i.unexpected "a sequence")

/-- The fields of a record that is written as a list, `count` of them having been read. -/
def positional (expected : String) (count : Nat) : List (FieldBy (Reader Datum)) → Input → Except Fault (List Datum × Input)
  | [], i => return ([], ← listEnd i)
  | f :: fs, i => do
    match ← nextElement? (count = 0) i with
    | some j =>
      let (d, after) ← f.take j
      let (ds, rest) ← positional expected (count + 1) fs after
      return (d :: ds, rest)
    | none =>
      match f.default with
      | some d =>
        let (ds, rest) ← positional expected (count + 1) fs i
        return (d :: ds, rest)
      | none => .error ((← listEnd i).fault (.wrongLength count expected))

/-- The input at the next key of an object, behind its quote, or none at its end. -/
def nextKey? (first : Bool) (i : Input) : Except Fault (Option Input) :=
  let i := i.skipBlanks
  match i.peek? with
  | none => .error (i.peekFault .endInObject)
  | some '}' => .ok none
  | some c =>
    if first then
      if c = '"' then .ok (some (i.skip 1)) else .error (i.peekFault .keyNotString)
    else if c = ',' then
      let j := (i.skip 1).skipBlanks
      match j.peek? with
      | none => .error (j.peekFault .endInValue)
      | some '"' => .ok (some (j.skip 1))
      | some '}' => .error (j.peekFault .trailingComma)
      | some _ => .error (j.peekFault .keyNotString)
    else .error (i.peekFault .expectedCommaOrBrace)

/-- The fault of a record that is left at `i`: it is placed behind the record's end if that comes next. -/
def faultAtEnd (i : Input) (cause : Cause) : Fault :=
  let i := i.skipBlanks
  if i.peek? = some '}' then (i.skip 1).fault cause else i.fault cause

/-- The members of an object up to its end, which is not taken. -/
def members (fields : List (FieldBy (Reader Datum))) : Nat → Bool → Slots → Input → Except Fault (Slots × Input)
  | 0, _, _, i => .error (i.fault .expectedValue)
  | fuel + 1, first, slots, i => do
    match ← nextKey? first i with
    | none => return (slots, i.skipBlanks)
    | some j =>
      let (key, after) ← Input.text j
      match fields.findIdx? fun f => f.key == key with
      | none => members fields fuel false slots (← (← colon after).skipValue)
      | some k =>
        if (slots.getD k none).isSome then .error (faultAtEnd after (.duplicateField key))
        else
          match fields[k]? with
          | none => .error (after.fault .expectedValue)
          | some f =>
            let (d, rest) ← f.take (← colon after)
            members fields fuel false (slots.set k (some d)) rest

/-- A record. -/
def record (name : String) (fields : List (FieldBy (Reader Datum))) (i : Input) : Except Fault (Datum × Input) :=
  let i := i.skipBlanks
  match i.peek? with
  | none => .error (i.peekFault .endInValue)
  | some '[' =>
    (positional (Shape.recordAsList name fields.length) 0 fields (i.skip 1)).map fun p => (.record p.1, p.2)
  | some '{' => do
    let (slots, j) ← members fields (i.rest.length + 1) true (fields.map fun _ => none) (i.skip 1)
    match complete fields slots with
    | .ok ds => return (.record ds, j.skip 1)
    | .error cause => .error (faultAtEnd j cause)
  | some _ => .error (i.unexpected name)

end Reader

namespace Shape

mutual

/-- Reads a value of a shape. -/
def read : Shape → Reader Datum
  | .text => fun i => (Reader.text "a string" i).map fun p => (.text p.1, p.2)
  | .flag => Reader.flag
  | .list element => Reader.list element.read
  | .choice names => Reader.choice names
  | .record name fields => Reader.record (structName name) (readers fields)

/-- The readers of fields. -/
def readers : List Field → List (FieldBy (Reader Datum))
  | [] => []
  | .mk key shape default :: fs => ⟨key, shape.read, default⟩ :: readers fs

end

/-- Reads a whole text of a shape. -/
def readText (shape : Shape) (text : String) : Except Fault Datum := do
  let (d, i) ← shape.read (Input.ofText text)
  let i := i.skipBlanks
  if i.rest = [] then return d else .error (i.peekFault .trailingCharacters)

end Shape

end SoliditySchema.Json
