/-
  SoliditySchema.Json.Fault — what can be wrong with a JSON text, or with what it says.

  A text is wrong in its form, or ends too early, or says something else than what is expected of it.
  The place of a fault is a number of bytes, shown as a line and a column: lines are counted from 1, and
  the column is the number of bytes between the last newline and the place.
-/

import SoliditySchema.Text.Visible

namespace SoliditySchema.Json

/-- A value that is found where another one is expected. -/
inductive Found where
  | null
  | bool (b : Bool)
  | integer (n : Int)
  /-- A number with a fraction or an exponent, or too large for an integer, in its shortest form. -/
  | decimal (text : String)
  | string (s : String)
  | sequence
  | map
  deriving DecidableEq, Repr

/-- What a message calls a value that was found. -/
def Found.describe : Found → String
  | .null => "null"
  | .bool true => "boolean \x60true\x60"
  | .bool false => "boolean \x60false\x60"
  | .integer n => "integer \x60" ++ toString n ++ "\x60"
  | .decimal text => "floating point \x60" ++ text ++ "\x60"
  | .string s => "string " ++ Text.inQuotes s
  | .sequence => "sequence"
  | .map => "map"

/-- The kinds of faults: of the form, of an early end, or of what a text says. -/
inductive Category where
  | form | early | data
  deriving DecidableEq, Repr

/-- What is wrong. -/
inductive Cause where
  | endInValue
  | endInObject
  | endInList
  | endInString
  | expectedColon
  | expectedCommaOrBracket
  | expectedCommaOrBrace
  | expectedWord
  | expectedValue
  | badEscape
  | loneSurrogate
  | brokenSurrogatePair
  | controlCharacter
  | badNumber
  | numberOutOfRange
  | keyNotString
  | trailingComma
  | trailingCharacters
  | wrongType (found : Found) (expected : String)
  | wrongValue (found : Found) (expected : String)
  | wrongLength (length : Nat) (expected : String)
  | unknownChoice (name : String) (choices : List String)
  | missingField (key : String)
  | duplicateField (key : String)
  deriving DecidableEq, Repr

namespace Cause

/-- The kind of a fault. -/
def category : Cause → Category
  | .endInValue | .endInObject | .endInList | .endInString => .early
  | .wrongType _ _ | .wrongValue _ _ | .wrongLength _ _ | .unknownChoice _ _ | .missingField _
  | .duplicateField _ => .data
  | _ => .form

/-- A name between grave accents. -/
def mark (name : String) : String := "\x60" ++ name ++ "\x60"

/-- What a message says about the choices there are. -/
def describeChoices : List String → String
  | [] => "there are no variants"
  | [a] => "expected " ++ mark a
  | [a, b] => "expected " ++ mark a ++ " or " ++ mark b
  | choices => "expected one of " ++ ", ".intercalate (choices.map mark)

/-- The message of a fault. -/
def message : Cause → String
  | .endInValue => "EOF while parsing a value"
  | .endInObject => "EOF while parsing an object"
  | .endInList => "EOF while parsing a list"
  | .endInString => "EOF while parsing a string"
  | .expectedColon => "expected \x60:\x60"
  | .expectedCommaOrBracket => "expected \x60,\x60 or \x60]\x60"
  | .expectedCommaOrBrace => "expected \x60,\x60 or \x60\x7d\x60"
  | .expectedWord => "expected ident"
  | .expectedValue => "expected value"
  | .badEscape => "invalid escape"
  | .loneSurrogate => "lone leading surrogate in hex escape"
  | .brokenSurrogatePair => "unexpected end of hex escape"
  | .controlCharacter => "control character (\\u0000-\\u001F) found while parsing a string"
  | .badNumber => "invalid number"
  | .numberOutOfRange => "number out of range"
  | .keyNotString => "key must be a string"
  | .trailingComma => "trailing comma"
  | .trailingCharacters => "trailing characters"
  | .wrongType found expected => "invalid type: " ++ found.describe ++ ", expected " ++ expected
  | .wrongValue found expected => "invalid value: " ++ found.describe ++ ", expected " ++ expected
  | .wrongLength length expected => "invalid length " ++ toString length ++ ", expected " ++ expected
  | .unknownChoice name choices => "unknown variant " ++ mark name ++ ", " ++ describeChoices choices
  | .missingField key => "missing field " ++ mark key
  | .duplicateField key => "duplicate field " ++ mark key

end Cause

/-- A fault at a number of bytes from the beginning of the text. -/
structure Fault where
  cause : Cause
  offset : Nat
  deriving DecidableEq, Repr

namespace Fault

/-- The line and the column of a place, counted from a line and a column on. -/
def lineColumn (line column : Nat) : List Char → Nat → Nat × Nat
  | _, 0 => (line, column)
  | [], _ => (line, column)
  | c :: cs, n =>
    if c = '\n' then lineColumn (line + 1) 0 cs (n - 1)
    else if c.utf8Size ≤ n then lineColumn line (column + c.utf8Size) cs (n - c.utf8Size)
    else (line, column + n)

/-- The message of a fault in a text, with its place. -/
def message (text : String) (f : Fault) : String :=
  let place := lineColumn 1 0 text.toList f.offset
  f.cause.message ++ " at line " ++ toString place.1 ++ " column " ++ toString place.2

end Fault

end SoliditySchema.Json
