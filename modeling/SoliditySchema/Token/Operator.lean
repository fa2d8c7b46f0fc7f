/-
  SoliditySchema.Token.Operator — operators and punctuation.

  Of several operators that a text begins with, the longest is read: `>>=` before `>>` before `>`.
-/

namespace SoliditySchema

/-- An operator or a punctuation mark. -/
inductive Operator where
  | openParen | closeParen | openBracket | closeBracket | openBrace | closeBrace | comma | semicolon
  | dot | colon | question | fatArrow | arrow | assign | yulAssign | orAssign | xorAssign | andAssign
  | shiftLeftAssign | shiftRightAssign | plusAssign | minusAssign | starAssign | slashAssign
  | percentAssign | equal | notEqual | less | lessEqual | greater | greaterEqual | orOr | andAnd | not
  | or | xor | and | tilde | shiftLeft | shiftRight | plus | minus | star | slash | percent | power
  | increment | decrement
  deriving DecidableEq, Repr

namespace Operator

/-- The characters of the operator. -/
def spelling : Operator → String
  | .openParen => "("
  | .closeParen => ")"
  | .openBracket => "["
  | .closeBracket => "]"
  | .openBrace => "\x7b"
  | .closeBrace => "\x7d"
  | .comma => ","
  | .semicolon => ";"
  | .dot => "."
  | .colon => ":"
  | .question => "?"
  | .fatArrow => "=>"
  | .arrow => "->"
  | .assign => "="
  | .yulAssign => ":="
  | .orAssign => "|="
  | .xorAssign => "^="
  | .andAssign => "&="
  | .shiftLeftAssign => "<<="
  | .shiftRightAssign => ">>="
  | .plusAssign => "+="
  | .minusAssign => "-="
  | .starAssign => "*="
  | .slashAssign => "/="
  | .percentAssign => "%="
  | .equal => "=="
  | .notEqual => "!="
  | .less => "<"
  | .lessEqual => "<="
  | .greater => ">"
  | .greaterEqual => ">="
  | .orOr => "||"
  | .andAnd => "&&"
  | .not => "!"
  | .or => "|"
  | .xor => "^"
  | .and => "&"
  | .tilde => "~"
  | .shiftLeft => "<<"
  | .shiftRight => ">>"
  | .plus => "+"
  | .minus => "-"
  | .star => "*"
  | .slash => "/"
  | .percent => "%"
  | .power => "**"
  | .increment => "++"
  | .decrement => "--"

/-- Every operator, longer spellings before shorter ones. -/
def all : List Operator := [
  .shiftLeftAssign, .shiftRightAssign, .fatArrow, .arrow, .yulAssign, .orAssign, .xorAssign,
  .andAssign, .plusAssign, .minusAssign, .starAssign, .slashAssign, .percentAssign, .equal, .notEqual,
  .lessEqual, .greaterEqual, .orOr, .andAnd, .shiftLeft, .shiftRight, .power, .increment, .decrement,
  .openParen, .closeParen, .openBracket, .closeBracket, .openBrace, .closeBrace, .comma, .semicolon,
  .dot, .colon, .question, .assign, .less, .greater, .not, .or, .xor, .and, .tilde, .plus, .minus,
  .star, .slash, .percent]

/-- The longest operator that a text begins with. -/
def atStart? (cs : List Char) : Option Operator := all.find? fun o => o.spelling.toList.isPrefixOf cs

end Operator

end SoliditySchema
