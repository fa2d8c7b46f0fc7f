/-
  SoliditySchema.Schema.Tabular — databases in the tabular notation.

  A database is its name and the list of its tables; a table is its columns, written as rows under a
  header that counts them, and its name. Every list begins with the number of its elements. A text
  stands bare unless that could be read in another way; then it is quoted.
-/

import SoliditySchema.Schema
import SoliditySchema.Text.Blank
import SoliditySchema.Text.DecimalDigit

namespace SoliditySchema

namespace Tabular

/-- A character that makes a text need quotes wherever it stands. -/
def isSpecial (c : Char) : Bool :=
  c ∈ [':', '"', '\\', '[', ']', '{', '}', ',', '\n', '\r', '\t']

/-- At least one digit, and nothing else. -/
def isDigits (cs : List Char) : Bool := !cs.isEmpty && cs.all Text.isDecimalDigit

/-- An exponent: nothing, or a small `e`, maybe a sign, and digits. -/
def isExponent : List Char → Bool
  | [] => true
  | 'e' :: '+' :: ds => isDigits ds
  | 'e' :: '-' :: ds => isDigits ds
  | 'e' :: ds => isDigits ds
  | _ => false

/-- Digits, then maybe a point and digits, then maybe an exponent. -/
def isUnsignedNumber (cs : List Char) : Bool :=
  let whole := cs.takeWhile Text.isDecimalDigit
  let rest := cs.drop whole.length
  isDigits whole &&
    match rest with
    | '.' :: more =>
      let fraction := more.takeWhile Text.isDecimalDigit
      isDigits fraction && isExponent (more.drop fraction.length)
    | rest => isExponent rest

/-- A text that reads as a number. -/
def isNumber : List Char → Bool
  | '-' :: cs => isUnsignedNumber cs
  | cs => isUnsignedNumber cs

/-- A text that must be quoted. -/
def needsQuotes (cs : List Char) : Bool :=
  cs.isEmpty || Text.trim cs != cs || cs ∈ ["true".toList, "false".toList, "null".toList] || isNumber cs
    || cs.any isSpecial || ['-', ' '].isPrefixOf cs

/-- A character inside quotes. -/
def escape (c : Char) : List Char :=
  if c = '\\' then ['\\', '\\']
  else if c = '"' then ['\\', '"']
  else if c = '\n' then ['\\', 'n']
  else if c = '\r' then ['\\', 'r']
  else if c = '\t' then ['\\', 't']
  else [c]

/-- A text, in quotes if need be. -/
def scalar (s : String) : String :=
  if needsQuotes s.toList then String.ofList ('"' :: s.toList.flatMap escape ++ ['"']) else s

end Tabular

/-- The row of a column. -/
def Column.row (c : Column) : String := "    " ++ Tabular.scalar c.name ++ "," ++ Tabular.scalar c.type.label

/-- The lines of a table as an element of a list. -/
def Table.tabularLines (t : Table) : List String :=
  let header :=
    if t.columns.isEmpty then "  - columns[0]:"
    else "  - columns[" ++ toString t.columns.length ++ "]\x7bname,type\x7d:"
  header :: t.columns.map Column.row ++ ["    name: " ++ Tabular.scalar t.name]

/-- A database in the tabular notation, without a newline at its end. -/
def Database.toTabular (d : Database) : String :=
  "\n".intercalate <|
    ("name: " ++ Tabular.scalar d.name) :: ("tables[" ++ toString d.tables.length ++ "]:")
      :: d.tables.flatMap Table.tabularLines

end SoliditySchema
