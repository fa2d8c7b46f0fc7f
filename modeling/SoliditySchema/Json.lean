/-
  SoliditySchema.Json — values of the JSON format, and their indented form.

  The indented form puts each element and each member on a line of its own, two blanks deeper than its
  container; an empty container is its two brackets. In a text only the quote, the backslash and the
  control characters below U+0020 are escaped.
-/

namespace SoliditySchema

/-- A JSON value. A number is `mantissa / 10 ^ places`, written with so many decimal places. -/
inductive Json where
  | null
  | bool (b : Bool)
  | number (mantissa : Int) (places : Nat)
  | string (s : String)
  | array (elements : List Json)
  | object (members : List (String × Json))
  deriving Inhabited

namespace Json

/-- A hexadecimal digit in lower case. -/
def hexDigit (n : Nat) : Char := if n < 10 then Char.ofNat (48 + n) else Char.ofNat (87 + n)

/-- A character as it stands between the quotes of a text. -/
def escape (c : Char) : List Char :=
  if c = '"' then ['\\', '"']
  else if c = '\\' then ['\\', '\\']
  else if c = '\x08' then ['\\', 'b']
  else if c = '\x0c' then ['\\', 'f']
  else if c = '\n' then ['\\', 'n']
  else if c = '\r' then ['\\', 'r']
  else if c = '\t' then ['\\', 't']
  else if c.toNat < 32 then ['\\', 'u', '0', '0', hexDigit (c.toNat / 16), hexDigit (c.toNat % 16)]
  else [c]

/-- A text in quotes. -/
def quote (s : String) : List Char := '"' :: s.toList.flatMap escape ++ ['"']

/-- The beginning of a line at a depth of nesting. -/
def newline (depth : Nat) : List Char := '\n' :: List.replicate (2 * depth) ' '

/-- A number in decimal. -/
def decimal (mantissa : Int) (places : Nat) : List Char :=
  let digits := (toString mantissa.natAbs).toList
  let padded := List.replicate (places + 1 - digits.length) '0' ++ digits
  let whole := padded.take (padded.length - places)
  let fraction := padded.drop (padded.length - places)
  (if mantissa < 0 then ['-'] else []) ++ whole ++ (if places = 0 then [] else '.' :: fraction)

/-- Items, each on its own line, between two brackets; the brackets alone if there are none. -/
def enclose (depth : Nat) (opening closing : Char) (items : List (List Char)) : List Char :=
  match items with
  | [] => [opening, closing]
  | _ =>
    let lines := items.map (newline (depth + 1) ++ ·)
    opening :: ((lines.intersperse [',']).flatten ++ newline depth ++ [closing])

mutual

/-- The indented form of a value that begins at a depth of nesting. -/
def pretty (depth : Nat) : Json → List Char
  | .null => ['n', 'u', 'l', 'l']
  | .bool true => ['t', 'r', 'u', 'e']
  | .bool false => ['f', 'a', 'l', 's', 'e']
  | .number mantissa places => decimal mantissa places
  | .string s => quote s
  | .array elements => enclose depth '[' ']' (prettyElements (depth + 1) elements)
  | .object members => enclose depth '{' '}' (prettyMembers (depth + 1) members)

/-- The forms of elements. -/
def prettyElements (depth : Nat) : List Json → List (List Char)
  | [] => []
  | e :: es => pretty depth e :: prettyElements depth es

/-- The forms of members. -/
def prettyMembers (depth : Nat) : List (String × Json) → List (List Char)
  | [] => []
  | (key, value) :: ms => (quote key ++ ':' :: ' ' :: pretty depth value) :: prettyMembers depth ms

end

/-- The indented form as a text. -/
def render (j : Json) : String := String.ofList (pretty 0 j)

end Json

end SoliditySchema
