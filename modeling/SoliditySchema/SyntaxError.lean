/-
  SoliditySchema.SyntaxError — what can be wrong with a source text.
-/

import SoliditySchema.Token

namespace SoliditySchema

/-- A reason why a text is no source file: the first six are found while tokens are read, the others
while they are put together. -/
inductive Problem where
  | unclosedComment
  | unclosedText
  | unclosedHexNumber
  | missingNumber
  | missingExponent
  | notHexadecimal (c : Char)
  /-- Characters that begin no token. -/
  | strayText (run : String)
  | unexpectedToken (token : Token)
  | unexpectedEnd
  /-- A word that stands where only the word `from` may. -/
  | notFrom (found : String)
  deriving DecidableEq, Repr

/-- The message of a problem. -/
def Problem.message : Problem → String
  | .unclosedComment => "end of file found in comment"
  | .unclosedText => "end of file found in string literal"
  | .unclosedHexNumber => "end of file found in hex literal string"
  | .missingNumber => "missing number"
  | .missingExponent => "missing exponent"
  | .notHexadecimal c => "invalid character '" ++ String.singleton c ++ "' in hex literal string"
  | .strayText run => "unrecognised token '" ++ run ++ "'"
  | .unexpectedToken token => "unrecognised token '" ++ token.spelling ++ "'"
  | .unexpectedEnd => "unexpected end of file"
  | .notFrom found => "'" ++ found ++ "' found where 'from' expected"

/-- A problem at a byte offset of the text. -/
structure SyntaxError where
  start : Nat
  problem : Problem
  deriving DecidableEq, Repr

end SoliditySchema
