/-
  SoliditySchema.Token.Lexeme — reading tokens off a text.

  `Lexeme.atStart` says what a text begins with: how many characters belong together, which token they
  are, if any, and what is wrong with them, if anything. A text is read lexeme by lexeme
  (`Scan.ofText`); a faulty lexeme is reported and reading goes on after it.

  Inside a version pragma a number is a run of digits, without fraction or exponent, so that
  `0.8.19` is five tokens.
-/

import SoliditySchema.SyntaxError
import SoliditySchema.Text.Blank
import SoliditySchema.Text.Position

namespace SoliditySchema

/-- What a text begins with. Counts are in characters from where the lexeme begins. -/
structure Lexeme where
  /-- The number of characters that are read, at least one. -/
  length : Nat
  /-- The token and its number of characters. -/
  token : Option (Token × Nat)
  /-- What is wrong, and the number of characters before it. -/
  fault : Option (Problem × Nat)

namespace Lexeme

/-- Characters between tokens. -/
def blank (length : Nat) : Lexeme := ⟨length, none, none⟩

/-- A token of the given length. -/
def ofToken (token : Token) (length : Nat) : Lexeme := ⟨length, some (token, length), none⟩

/-- No token, but a problem where the lexeme begins. -/
def faulty (problem : Problem) (length : Nat) : Lexeme := ⟨length, none, some (problem, 0)⟩

/-- A hexadecimal digit. -/
def isHexDigit (c : Char) : Bool :=
  Text.isAsciiDigit c || (65 ≤ c.toNat && c.toNat ≤ 70) || (97 ≤ c.toNat && c.toNat ≤ 102)

/-- A character of a decimal run: a digit or `_`. -/
def isDigitPart (c : Char) : Bool := Text.isAsciiDigit c || c == '_'

/-- A character of a hexadecimal run. -/
def isHexPart (c : Char) : Bool := isHexDigit c || c == '_'

/-- The content of a literal up to its closing quote; a backslash takes the next character with it. -/
def quoted? (quote : Char) : List Char → Option (List Char)
  | [] => none
  | '\\' :: c :: cs => (quoted? quote cs).map fun r => '\\' :: c :: r
  | c :: cs => if c = quote then some [] else (quoted? quote cs).map (c :: ·)

/-- The number of characters up to and including the first `*` directly before a `/`, and that `/`. -/
def commentEnd? : List Char → Option Nat
  | [] => none
  | '*' :: '/' :: _ => some 2
  | _ :: cs => (commentEnd? cs).map (· + 1)

/-- The number of characters up to and including the first `quote`, or all of them. -/
def throughQuote (quote : Char) : List Char → Nat
  | [] => 0
  | c :: cs => if c = quote then 1 else throughQuote quote cs + 1

/-- A comment or the operator, after a slash. -/
def ofSlash : List Char → Lexeme
  | '/' :: cs => .blank (2 + (cs.takeWhile fun c => c != '\n' && c != '\r').length)
  | '*' :: cs =>
    match commentEnd? cs with
    | some n => .blank (2 + n)
    | none => .faulty .unclosedComment (2 + cs.length)
  | '=' :: _ => .ofToken (.operator .slashAssign) 2
  | _ => .ofToken (.operator .slash) 1

/-- A plain text literal, after its opening quote. -/
def ofText (quote : Char) (cs : List Char) : Lexeme :=
  match quoted? quote cs with
  | some raw => .ofToken (.text false (String.ofList raw)) (raw.length + 2)
  | none => .faulty .unclosedText (1 + cs.length)

/-- A Unicode text literal, after the word and the opening quote. Unclosed, its word stays a name. -/
def ofUnicodeText (word : List Char) (h : Text.isIdentifier word = true) (quote : Char) (cs : List Char) :
    Lexeme :=
  match quoted? quote cs with
  | some raw => .ofToken (.text true (String.ofList raw)) (word.length + raw.length + 2)
  | none => ⟨word.length + 1 + cs.length, some (Token.ofWord word h, word.length), some (.unclosedText, 0)⟩

/-- A hexadecimal literal, after the word and the opening quote. Of a literal with a wrong character
nothing is kept. -/
def ofHexText (word : List Char) (quote : Char) (cs : List Char) : Lexeme :=
  let digits := cs.takeWhile isHexPart
  match cs.drop digits.length with
  | [] => .faulty .unclosedText (word.length + 1 + cs.length)
  | c :: rest =>
    if c = quote then
      .ofToken (.hexText (String.ofList (word ++ quote :: digits ++ [quote]))) (word.length + digits.length + 2)
    else
      let before := word.length + 1 + digits.length
      ⟨before + 1 + throughQuote quote rest, none, some (.notHexadecimal c, before)⟩

/-- An address literal, after the word and the opening quote. -/
def ofAddressText (word : List Char) (quote : Char) (cs : List Char) : Lexeme :=
  let content := cs.takeWhile (· != quote)
  match cs.drop content.length with
  | [] => .faulty .unclosedText (word.length + 1 + cs.length)
  | _ :: _ =>
    .ofToken (.addressText (String.ofList (word ++ quote :: content ++ [quote]))) (word.length + content.length + 2)

/-- A word, given with what follows it: one of the marked literals if a quote follows directly. -/
def ofWord (word : List Char) (h : Text.isIdentifier word = true) (rest : List Char) : Lexeme :=
  let plain := ofToken (Token.ofWord word h) word.length
  match rest with
  | [] => plain
  | quote :: cs =>
    if quote = '"' ∨ quote = '\'' then
      if word = "unicode".toList then ofUnicodeText word h quote cs
      else if word = "hex".toList then ofHexText word quote cs
      else if word = "address".toList then ofAddressText word quote cs
      else plain
    else plain

/-- A number in hexadecimal, after `0x`. -/
def ofHexNumber : List Char → Lexeme
  | [] => .faulty .unclosedHexNumber 2
  | c :: cs =>
    if isHexDigit c then
      let digits := c :: cs.takeWhile isHexPart
      .ofToken (.hexNumber (String.ofList ('0' :: 'x' :: digits))) (2 + digits.length)
    else .faulty .missingNumber 3

/-- The exponent of a number of `length` characters, which `finish` makes a token of, and `rest` after
the number. -/
def ofExponent (length : Nat) (rest : List Char) (finish : String → Token) : Lexeme :=
  match rest with
  | [] => .ofToken (finish "") length
  | e :: cs =>
    if e = 'e' ∨ e = 'E' then
      let signs := cs.takeWhile (· == '-')
      let digits := (cs.drop signs.length).takeWhile isDigitPart
      if digits = [] then .faulty .missingExponent (length + 1 + signs.length)
      else .ofToken (finish (String.ofList (signs ++ digits))) (length + 1 + signs.length + digits.length)
    else .ofToken (finish "") length

/-- A number with a fraction, given its whole part and the text from the first digit after the point. -/
def ofFraction (whole : List Char) (cs : List Char) : Lexeme :=
  let fraction := cs.takeWhile isDigitPart
  ofExponent (whole.length + 1 + fraction.length) (cs.drop fraction.length)
    (.rational (String.ofList whole) (String.ofList fraction))

/-- A number, whose first character is a digit. -/
def ofNumber (version : Bool) (cs : List Char) : Lexeme :=
  match cs with
  | '0' :: 'x' :: rest => ofHexNumber rest
  | _ =>
    let whole := cs.takeWhile isDigitPart
    let plain := Token.number (String.ofList whole)
    if version then .ofToken (plain "") whole.length
    else
      match cs.drop whole.length with
      | '.' :: d :: rest =>
        if Text.isAsciiDigit d then ofFraction whole (d :: rest) else .ofToken (plain "") whole.length
      | rest => ofExponent whole.length rest plain

/-- A number that begins with its point, and all the rest of the text if its exponent is missing. -/
def ofPoint (cs : List Char) : Lexeme :=
  let number := ofFraction [] cs
  if number.fault.isSome then { number with length := 1 + cs.length } else number

/-- An operator, or else characters up to white space that begin no token. -/
def ofOther (cs : List Char) : Lexeme :=
  match Operator.atStart? cs with
  | some o => .ofToken (.operator o) o.spelling.length
  | none =>
    let run := cs.takeWhile fun c => !Text.isBlank c
    .faulty (.strayText (String.ofList run)) run.length

/-- What a text begins with, `version` being true inside a version pragma. -/
def atStart (version : Bool) (c : Char) (cs : List Char) : Lexeme :=
  if Text.isBlank c then .blank 1
  else if h : Text.isIdentifierStart c = true then
    let more := cs.takeWhile Text.isIdentifierContinue
    ofWord (c :: more) (by simp [Text.isIdentifier, h, more]) (cs.drop more.length)
  else if c = '"' ∨ c = '\'' then ofText c cs
  else if c = '/' then ofSlash cs
  else if Text.isAsciiDigit c then ofNumber version (c :: cs)
  else if c = '@' then
    let name := cs.takeWhile Text.isIdentifierContinue
    if name = [] then .faulty (.strayText "@") 1
    else .ofToken (.atWord (String.ofList name)) (1 + name.length)
  else if c = '.' && !version && (cs.head?.map Text.isAsciiDigit).getD false then ofPoint cs
  else ofOther (c :: cs)

end Lexeme

/-! ## The tokens of a text -/

/-- Where a version pragma stands: a name after the word `pragma` opens it, a semicolon ends it. -/
inductive PragmaPhase where
  | outside
  | opening
  | version
  deriving DecidableEq, Repr

namespace PragmaPhase

/-- The phase after a token. -/
def next : PragmaPhase → Token → PragmaPhase
  | _, .operator .semicolon => .outside
  | .version, _ => .version
  | _, .keyword .kwPragma => .opening
  | .opening, .identifier _ => .version
  | _, _ => .outside

end PragmaPhase

/-- The tokens of a text and what is wrong with its characters, both in the order of the text. -/
structure Scan where
  tokens : List PlacedToken
  faults : List SyntaxError
  deriving DecidableEq, Repr

namespace Scan

/-- Puts a lexeme that begins at byte offset `start`, whose characters are `cs`, before what is read
after it. -/
def addLexeme (l : Lexeme) (cs : List Char) (start : Nat) (after : Scan) : Scan :=
  let offset := fun n => start + Text.byteLength (cs.take n)
  ⟨(l.token.map fun t => ⟨t.1, start, offset t.2⟩).toList ++ after.tokens,
   (l.fault.map fun f => ⟨offset f.2, f.1⟩).toList ++ after.faults⟩

/-- Reads on at byte offset `start`, where `skip` characters still belong to the last lexeme. -/
def ofSuffix (phase : PragmaPhase) (start skip : Nat) : List Char → Scan
  | [] => ⟨[], []⟩
  | c :: cs =>
    match skip with
    | n + 1 => ofSuffix phase (start + c.utf8Size) n cs
    | 0 =>
      let l := Lexeme.atStart (phase == .version) c cs
      let phase' := (l.token.map fun t => phase.next t.1).getD phase
      addLexeme l (c :: cs) start (ofSuffix phase' (start + c.utf8Size) (l.length - 1) cs)

/-- Reads a whole text. -/
def ofText (text : List Char) : Scan := ofSuffix .outside 0 0 text

end Scan

end SoliditySchema
