/-
  SoliditySchema.Token — the tokens of a source file.

  White space and comments separate tokens and are not kept. A token's `spelling` is its form in
  messages: a text literal is shown with its raw content between double quotes, whichever quotes it
  was written with, and a sized type with its width.
-/

import SoliditySchema.Token.Keyword
import SoliditySchema.Token.Operator

namespace SoliditySchema

/-- A token. Literals keep their raw text. -/
inductive Token where
  | keyword (k : Keyword)
  | operator (o : Operator)
  | sized (type : SizedType)
  | identifier (name : Identifier)
  /-- A name after an at sign. -/
  | atWord (name : String)
  /-- A text literal, plain or marked as Unicode. -/
  | text (unicode : Bool) (raw : String)
  | hexText (raw : String)
  | addressText (raw : String)
  | number (whole exponent : String)
  | rational (whole fraction exponent : String)
  | hexNumber (raw : String)
  deriving DecidableEq, Repr

namespace Token

/-- The exponent as it follows a number, if there is one. -/
def exponentSpelling (exponent : String) : String :=
  if exponent = "" then "" else "e" ++ exponent

/-- The token as messages show it. -/
def spelling : Token → String
  | .keyword k => k.spelling
  | .operator o => o.spelling
  | .sized t => t.spelling
  | .identifier name => name.text
  | .atWord name => "@" ++ name
  | .text false raw => "\"" ++ raw ++ "\""
  | .text true raw => "unicode\"" ++ raw ++ "\""
  | .hexText raw => raw
  | .addressText raw => raw
  | .number whole exponent => whole ++ exponentSpelling exponent
  | .rational whole fraction exponent => whole ++ "." ++ fraction ++ exponentSpelling exponent
  | .hexNumber raw => raw

/-- The token that a word is: a keyword, a sized type, or else an identifier. -/
def ofWord (word : List Char) (h : Text.isIdentifier word = true) : Token :=
  match Keyword.ofWord? word with
  | some k => .keyword k
  | none =>
    match hw : SizedType.ofWord? word with
    | some t => .sized t
    | none => .identifier ⟨String.ofList word, by simpa using h, by simpa using hw⟩

end Token

/-- A token with the byte offsets of its first byte and of the first byte after it. -/
structure PlacedToken where
  token : Token
  start : Nat
  stop : Nat
  deriving DecidableEq, Repr

end SoliditySchema
