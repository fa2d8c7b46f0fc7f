/-
  SoliditySchema.Identifier — names of declarations, and the words that name sized types.

  `uint8`, `int`, `bytes32` and their like are words for built-in types of a given width, so no name is
  spelled like one of them; that is why the schema of a declaration can tell `uint256` from every
  type that a source file declares.
-/

import SoliditySchema.Text.IdentifierChar

namespace SoliditySchema

/-- A built-in type with a width: in bits for the integers, in bytes for the byte strings. -/
inductive SizedType where
  | uint (bits : Nat)
  | int (bits : Nat)
  | bytes (size : Nat)
  deriving DecidableEq, Repr

namespace SizedType

/-- The value of a run of ASCII digits that does not begin with a zero. -/
def numeral? : List Char → Option Nat
  | [] => none
  | '0' :: _ => none
  | ds => if ds.all Text.isAsciiDigit then some (ds.foldl (fun n d => 10 * n + (d.toNat - 48)) 0) else none

/-- The width after `int` or `uint`: none for 256 bits, else a multiple of 8 from 8 to 256. -/
def bits? : List Char → Option Nat
  | [] => some 256
  | ds => (numeral? ds).filter fun n => n % 8 == 0 && n ≤ 256

/-- The width after `bytes`, from 1 to 32. -/
def size? (ds : List Char) : Option Nat := (numeral? ds).filter fun n => n ≤ 32

/-- The sized type that a word names. -/
def ofWord? : List Char → Option SizedType
  | 'u' :: 'i' :: 'n' :: 't' :: ds => (bits? ds).map .uint
  | 'i' :: 'n' :: 't' :: ds => (bits? ds).map .int
  | 'b' :: 'y' :: 't' :: 'e' :: 's' :: ds => (size? ds).map .bytes
  | _ => none

/-- The full spelling, with the width. -/
def spelling : SizedType → String
  | .uint bits => "uint" ++ toString bits
  | .int bits => "int" ++ toString bits
  | .bytes size => "bytes" ++ toString size

end SizedType

/-- A name: a word spelled as an identifier that names no sized type. -/
structure Identifier where
  text : String
  spelled : Text.isIdentifier text.toList = true
  unsized : SizedType.ofWord? text.toList = none
  deriving DecidableEq, Repr

end SoliditySchema
