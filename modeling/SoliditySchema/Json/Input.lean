/-
  SoliditySchema.Json.Input — reading the smallest parts of a JSON text.

  An input is what is left of a text, with the number of bytes before it. A fault at the next
  character is placed behind its first byte, one after characters that were taken is placed behind
  those.

  A text literal can be read or skipped. Reading joins two escapes that are the halves of one
  character and refuses a half alone; skipping asks only that the escapes are well formed.
-/

import SoliditySchema.Json.Fault
import SoliditySchema.Number.Binary64
import SoliditySchema.Text.Position

namespace SoliditySchema.Json

/-- The rest of a text, and the number of bytes before it. -/
structure Input where
  rest : List Char
  offset : Nat
  deriving DecidableEq, Repr

/-- A way to read something from the beginning of an input. -/
abbrev Reader (α : Type) := Input → Except Fault (α × Input)

namespace Input

/-- The input of a whole text. -/
def ofText (text : String) : Input := ⟨text.toList, 0⟩

/-- A blank of the JSON format. -/
def isBlank (c : Char) : Bool := c == ' ' || c == '\n' || c == '\t' || c == '\r'

/-- The input after `n` characters of one byte each. -/
def skip (i : Input) (n : Nat) : Input := ⟨i.rest.drop n, i.offset + n⟩

/-- The input without the blanks it begins with. -/
def skipBlanks (i : Input) : Input := i.skip (i.rest.takeWhile isBlank).length

/-- The next character. -/
def peek? (i : Input) : Option Char := i.rest.head?

/-- A fault behind what was taken. -/
def fault (i : Input) (cause : Cause) : Fault := ⟨cause, i.offset⟩

/-- A fault at the next character. -/
def peekFault (i : Input) (cause : Cause) : Fault :=
  ⟨cause, if i.rest = [] then i.offset else i.offset + 1⟩

/-- Takes the characters of a word. -/
def word : List Char → Input → Except Fault Input
  | [], i => .ok i
  | c :: cs, i =>
    match i.rest with
    | [] => .error (i.fault .endInValue)
    | d :: _ => if d = c then word cs (i.skip 1) else .error ⟨.expectedWord, i.offset + 1⟩

/-! ## Text literals -/

/-- The value of a hexadecimal digit. -/
def hexValue? (c : Char) : Option Nat :=
  if '0' ≤ c ∧ c ≤ '9' then some (c.toNat - 48)
  else if 'a' ≤ c ∧ c ≤ 'f' then some (c.toNat - 87)
  else if 'A' ≤ c ∧ c ≤ 'F' then some (c.toNat - 55)
  else none

/-- The value of four hexadecimal digits. -/
def hexValue4? (a b c d : Char) : Option Nat := do
  return 4096 * (← hexValue? a) + 256 * (← hexValue? b) + 16 * (← hexValue? c) + (← hexValue? d)

/-- The fault of text that should begin with four hexadecimal digits and does not: fewer than four bytes
are left, or the four bytes are others. -/
def hexFault (i : Input) : Fault :=
  let left := Text.byteLength i.rest
  if left < 4 then ⟨.endInString, i.offset + left⟩ else ⟨.badEscape, i.offset + 4⟩

/-- The first half of a character beyond U+FFFF. -/
def isHighHalf (n : Nat) : Bool := 0xD800 ≤ n && n ≤ 0xDBFF

/-- The second half of a character beyond U+FFFF. -/
def isLowHalf (n : Nat) : Bool := 0xDC00 ≤ n && n ≤ 0xDFFF

/-- The character of two halves. -/
def joinHalves (high low : Nat) : Char := Char.ofNat ((high - 0xD800) * 0x400 + (low - 0xDC00) + 0x10000)

/-- The character that stands after a backslash for itself or for a control character. -/
def simpleEscape? (c : Char) : Option Char :=
  match c with
  | '"' => some '"'
  | '\\' => some '\\'
  | '/' => some '/'
  | 'b' => some '\x08'
  | 'f' => some '\x0c'
  | 'n' => some '\n'
  | 'r' => some '\r'
  | 't' => some '\t'
  | _ => none

/-- Puts a character before what is read after it. -/
def prepend (c : Char) (r : Except Fault (List Char × Input)) : Except Fault (List Char × Input) :=
  r.map fun p => (c :: p.1, p.2)

/-- The fault after the first half of a character, where the escape of the second half should begin. -/
def secondHalfFault (i : Input) : Fault :=
  match i.rest with
  | [] => i.fault .endInString
  | '\\' :: [] => ⟨.endInString, i.offset + 1⟩
  | '\\' :: 'u' :: rest => hexFault ⟨rest, i.offset + 2⟩
  | '\\' :: _ => ⟨.brokenSurrogatePair, i.offset + 2⟩
  | _ => ⟨.brokenSurrogatePair, i.offset + 1⟩

/-- Reads the content of a text literal and its closing quote. -/
def textContent (offset : Nat) : List Char → Except Fault (List Char × Input)
  | [] => .error ⟨.endInString, offset⟩
  | '"' :: cs => .ok ([], ⟨cs, offset + 1⟩)
  | '\\' :: 'u' :: a :: b :: c :: d :: cs =>
    match hexValue4? a b c d with
    | none => .error (hexFault ⟨a :: b :: c :: d :: cs, offset + 2⟩)
    | some n =>
      if isLowHalf n then .error ⟨.loneSurrogate, offset + 6⟩
      else if isHighHalf n then
        match cs with
        | '\\' :: 'u' :: a' :: b' :: c' :: d' :: cs' =>
          match hexValue4? a' b' c' d' with
          | none => .error (hexFault ⟨a' :: b' :: c' :: d' :: cs', offset + 8⟩)
          | some n' =>
            if isLowHalf n' then prepend (joinHalves n n') (textContent (offset + 12) cs')
            else .error ⟨.loneSurrogate, offset + 12⟩
        | _ => .error (secondHalfFault ⟨cs, offset + 6⟩)
      else prepend (Char.ofNat n) (textContent (offset + 6) cs)
  | '\\' :: c :: cs =>
    match simpleEscape? c with
    | some e => prepend e (textContent (offset + 2) cs)
    | none => .error (if c = 'u' then hexFault ⟨cs, offset + 2⟩ else ⟨.badEscape, offset + 2⟩)
  | c :: cs =>
    if c = '\\' then .error ⟨.endInString, offset + 1⟩
    else if c.toNat < 32 then .error ⟨.controlCharacter, offset + 1⟩
    else prepend c (textContent (offset + c.utf8Size) cs)

/-- Reads a text literal after its opening quote. -/
def text (i : Input) : Except Fault (String × Input) :=
  (textContent i.offset i.rest).map fun p => (String.ofList p.1, p.2)

/-- Skips the content of a text literal and its closing quote. -/
def skipContent (offset : Nat) : List Char → Except Fault Input
  | [] => .error ⟨.endInString, offset⟩
  | '"' :: cs => .ok ⟨cs, offset + 1⟩
  | '\\' :: 'u' :: a :: b :: c :: d :: cs =>
    match hexValue4? a b c d with
    | none => .error (hexFault ⟨a :: b :: c :: d :: cs, offset + 2⟩)
    | some _ => skipContent (offset + 6) cs
  | '\\' :: c :: cs =>
    match simpleEscape? c with
    | some _ => skipContent (offset + 2) cs
    | none => .error (if c = 'u' then hexFault ⟨cs, offset + 2⟩ else ⟨.badEscape, offset + 2⟩)
  | c :: cs =>
    if c = '\\' then .error ⟨.endInString, offset + 1⟩
    else if c.toNat < 32 then .error ⟨.controlCharacter, offset⟩
    else skipContent (offset + c.utf8Size) cs

/-- Skips a text literal after its opening quote. -/
def skipText (i : Input) : Except Fault Input := skipContent i.offset i.rest

/-! ## Numbers -/

/-- A decimal digit. -/
def isDigit (c : Char) : Bool := '0' ≤ c && c ≤ '9'

/-- The next character is a digit. -/
def atDigit (i : Input) : Bool := (i.peek?.map isDigit).getD false

/-- The digits that come next, as values, and the input after them. -/
def digits (i : Input) : List Nat × Input :=
  let ds := i.rest.takeWhile isDigit
  (ds.map fun d => d.toNat - 48, i.skip ds.length)

/-- Takes one digit behind a number or its exponent mark, and those after it. -/
def someDigits (i : Input) (atEnd : Cause) : Except Fault (List Nat × Input) :=
  match i.rest with
  | [] => .error (i.fault atEnd)
  | c :: _ => if isDigit c then .ok i.digits else .error ⟨.badNumber, i.offset + 1⟩

/-- Skips an exponent after its mark. -/
def skipExponent (i : Input) : Except Fault Input :=
  let i := if i.peek? = some '+' ∨ i.peek? = some '-' then i.skip 1 else i
  (i.someDigits .badNumber).map Prod.snd

/-- Skips what may follow the whole part of a number. -/
def skipFraction (i : Input) : Except Fault Input :=
  match i.rest with
  | '.' :: _ =>
    let i := i.skip 1
    if !i.atDigit then .error (i.peekFault .badNumber)
    else
      let i := i.digits.2
      if i.peek? = some 'e' ∨ i.peek? = some 'E' then skipExponent (i.skip 1) else .ok i
  | 'e' :: _ => skipExponent (i.skip 1)
  | 'E' :: _ => skipExponent (i.skip 1)
  | _ => .ok i

/-- Skips a number after its sign. -/
def skipNumber (i : Input) : Except Fault Input :=
  match i.rest with
  | [] => .error (i.fault .badNumber)
  | '0' :: _ =>
    let i := i.skip 1
    if i.atDigit then .error (i.peekFault .badNumber) else skipFraction i
  | c :: _ => if isDigit c then skipFraction i.digits.2 else .error ⟨.badNumber, i.offset + 1⟩

/-- The largest number that still counts as an integer. -/
def integerLimit : Nat := 0xFFFFFFFFFFFFFFFF

/-- Adds digits to a significand while it stays below the limit: the significand and the number of
digits left out. -/
def accumulate (significand : Nat) : List Nat → Nat × Nat
  | [] => (significand, 0)
  | d :: ds =>
    if integerLimit < 10 * significand + d then (significand, ds.length + 1)
    else accumulate (10 * significand + d) ds

/-- `value * 10 ^ power`, rounded once for each 308 decimal places. -/
def scale? : Nat → Binary64 → Int → Option Binary64
  | 0, _, _ => none
  | fuel + 1, value, power =>
    if 308 < power.natAbs then
      if value.significand = 0 then some value
      else if 0 ≤ power then none
      else do
        let step ← Binary64.ofScaled? 10 308 1 1
        scale? fuel (← value.div? step) (power + 308)
    else do
      let factor ← Binary64.ofScaled? 10 power.natAbs 1 1
      if 0 ≤ power then value.mul? factor else value.div? factor

/-- The number `significand * 10 ^ power` that was read up to `i`. -/
def decimal (i : Input) (negative : Bool) (significand : Nat) (power : Int) : Except Fault (Found × Input) :=
  let value := do
    let s ← Binary64.ofQuotient? significand 1
    scale? (power.natAbs / 308 + 2) s power
  match value with
  | some x => .ok (.decimal ((if negative then "-" else "") ++ x.render), i)
  | none => .error (i.fault .numberOutOfRange)

/-- The largest exponent that is read to its last digit. -/
def exponentLimit : Nat := 0x7FFFFFFF

/-- The first digits of an exponent that make a value above the limit, if they do: the number of them. -/
def exceeds? (value : Nat) : List Nat → Option Nat
  | [] => none
  | d :: ds => if exponentLimit < 10 * value + d then some 1 else (exceeds? (10 * value + d) ds).map (· + 1)

/-- Reads an exponent after its mark. -/
def exponent (i : Input) (negative : Bool) (significand : Nat) (power : Int) : Except Fault (Found × Input) :=
  let sign := i.peek?
  let j := if sign = some '+' ∨ sign = some '-' then i.skip 1 else i
  match j.someDigits .endInValue with
  | .error f => .error f
  | .ok (ds, after) =>
    match exceeds? 0 ds with
    | some n =>
      if significand ≠ 0 ∧ sign ≠ some '-' then .error ((j.skip n).fault .numberOutOfRange)
      else .ok (.decimal ((if negative then "-" else "") ++ "0.0"), after)
    | none =>
      let value : Nat := ds.foldl (fun v d => 10 * v + d) 0
      decimal after negative significand (if sign = some '-' then power - value else power + value)

/-- Reads what follows the digits of a number whose significand is read. -/
def afterDigits (i : Input) (negative : Bool) (significand : Nat) (power : Int) : Except Fault (Found × Input) :=
  if i.peek? = some 'e' ∨ i.peek? = some 'E' then exponent (i.skip 1) negative significand power
  else decimal i negative significand power

/-- Reads a fraction after its point. -/
def fraction (i : Input) (negative : Bool) (significand : Nat) (power : Int) : Except Fault (Found × Input) :=
  let (ds, after) := i.digits
  if ds = [] then .error (i.peekFault (if i.rest = [] then .endInValue else .badNumber))
  else
    let (s, dropped) := accumulate significand ds
    afterDigits after negative s (power - (ds.length - dropped : Nat))

/-- Reads a number after its sign. -/
def number (i : Input) (negative : Bool) : Except Fault (Found × Input) :=
  match i.rest with
  | [] => .error (i.fault .endInValue)
  | c :: _ =>
    if !isDigit c then .error ⟨.badNumber, i.offset + 1⟩
    else if c = '0' ∧ (i.skip 1).atDigit then .error ((i.skip 1).peekFault .badNumber)
    else
      let (ds, after) := i.digits
      let (s, dropped) := accumulate 0 ds
      match after.rest with
      | '.' :: _ => fraction (after.skip 1) negative s dropped
      | 'e' :: _ => exponent (after.skip 1) negative s dropped
      | 'E' :: _ => exponent (after.skip 1) negative s dropped
      | _ =>
        if dropped ≠ 0 then decimal after negative s dropped
        else if !negative then .ok (.integer s, after)
        else if s = 0 ∨ 0x8000000000000000 < s then decimal after true s 0
        else .ok (.integer (-(s : Int)), after)

/-! ## Values that are not expected -/

/-- Reads a value only to say what it is. -/
def found (i : Input) : Except Fault (Found × Input) :=
  match i.peek? with
  | some 'n' => (word ['u', 'l', 'l'] (i.skip 1)).map fun j => (.null, j)
  | some 't' => (word ['r', 'u', 'e'] (i.skip 1)).map fun j => (.bool true, j)
  | some 'f' => (word ['a', 'l', 's', 'e'] (i.skip 1)).map fun j => (.bool false, j)
  | some '-' => number (i.skip 1) true
  | some '"' => (text (i.skip 1)).map fun p => (.string p.1, p.2)
  | some '[' => .ok (.sequence, i)
  | some '{' => .ok (.map, i)
  | some c => if isDigit c then number i false else .error (i.peekFault .expectedValue)
  | none => .error (i.peekFault .expectedValue)

/-- The fault that another value comes next than the expected one. -/
def unexpected (i : Input) (expected : String) : Fault :=
  match i.found with
  | .ok (f, after) => after.fault (.wrongType f expected)
  | .error fault => fault

/-! ## Skipping values -/

/-- The two kinds of brackets. -/
inductive Bracket where
  | list | object
  deriving DecidableEq, Repr

/-- The character that closes a bracket. -/
def Bracket.close : Bracket → Char
  | .list => ']'
  | .object => '}'

/-- What is wrong if the text ends inside a bracket. -/
def Bracket.endCause : Bracket → Cause
  | .list => .endInList
  | .object => .endInObject

/-- What is wrong if a value in a bracket is followed by something else than a comma or its end. -/
def Bracket.separatorCause : Bracket → Cause
  | .list => .expectedCommaOrBracket
  | .object => .expectedCommaOrBrace

/-- Skips the key of a member and the colon after it. -/
def skipKey (i : Input) : Except Fault Input :=
  let i := i.skipBlanks
  match i.peek? with
  | none => .error (i.peekFault .endInObject)
  | some '"' =>
    match skipText (i.skip 1) with
    | .error f => .error f
    | .ok j =>
      let j := j.skipBlanks
      match j.peek? with
      | none => .error (j.peekFault .endInObject)
      | some ':' => .ok (j.skip 1)
      | some _ => .error (j.peekFault .expectedColon)
  | some _ => .error (i.peekFault .keyNotString)

/-- Where skipping stands: before a value, behind an opening bracket, or behind a value. -/
inductive SkipPhase where
  | value | opened | done
  deriving DecidableEq, Repr

/-- Skips on inside the given open brackets, the innermost first, until all of them are closed. -/
def skipFrom : Nat → SkipPhase → List Bracket → Input → Except Fault Input
  | 0, _, _, i => .error (i.fault .expectedValue)
  | _ + 1, .done, [], i => .ok i
  | fuel + 1, .done, b :: bs, i =>
    let i := i.skipBlanks
    match i.peek? with
    | none => .error (i.peekFault b.endCause)
    | some c =>
      if c = ',' then
        match b with
        | .list => skipFrom fuel .value (b :: bs) (i.skip 1)
        | .object =>
          match skipKey (i.skip 1) with
          | .error f => .error f
          | .ok j => skipFrom fuel .value (b :: bs) j
      else if c = b.close then skipFrom fuel .done bs (i.skip 1)
      else .error (i.peekFault b.separatorCause)
  | fuel + 1, .opened, bs, i =>
    let i := i.skipBlanks
    match bs, i.peek? with
    | [], _ => .error (i.fault .expectedValue)
    | b :: _, none => .error (i.peekFault b.endCause)
    | b :: outer, some c =>
      if c = b.close then skipFrom fuel .done outer (i.skip 1)
      else
        match b with
        | .list => skipFrom fuel .value bs i
        | .object =>
          match skipKey i with
          | .error f => .error f
          | .ok j => skipFrom fuel .value bs j
  | fuel + 1, .value, bs, i =>
    let i := i.skipBlanks
    let scalar (r : Except Fault Input) : Except Fault Input :=
      match r with
      | .error f => .error f
      | .ok j => skipFrom fuel .done bs j
    match i.peek? with
    | none => .error (i.peekFault .endInValue)
    | some 'n' => scalar (word ['u', 'l', 'l'] (i.skip 1))
    | some 't' => scalar (word ['r', 'u', 'e'] (i.skip 1))
    | some 'f' => scalar (word ['a', 'l', 's', 'e'] (i.skip 1))
    | some '-' => scalar (skipNumber (i.skip 1))
    | some '"' => scalar (skipText (i.skip 1))
    | some '[' => skipFrom fuel .opened (.list :: bs) (i.skip 1)
    | some '{' => skipFrom fuel .opened (.object :: bs) (i.skip 1)
    | some c => if isDigit c then scalar (skipNumber i) else .error (i.peekFault .expectedValue)

/-- Skips a value. Each step but one behind each bracket takes a character. -/
def skipValue (i : Input) : Except Fault Input := skipFrom (2 * i.rest.length + 2) .value [] i

end Input

end SoliditySchema.Json
