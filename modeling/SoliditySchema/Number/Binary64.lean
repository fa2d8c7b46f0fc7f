/-
  SoliditySchema.Number.Binary64 — binary floating point numbers of 64 bits, and their shortest decimals.

  Only numbers that are not negative are treated; a sign is written by whoever has one. A finite number
  is `significand * 2 ^ exponent` with a significand below 2^53. Quotients are rounded to the nearest
  such number, a tie to the even significand; past the largest finite number there is none.

  The shortest decimal of a number has the fewest digits that read back as it, and of those the nearest
  to it. It is written positionally while the point stands at most 4 zeros before the digits or at
  most 16 places behind their beginning, and else with an exponent.
-/

namespace SoliditySchema

/-- A finite number. -/
structure Binary64 where
  significand : Nat
  exponent : Int
  deriving DecidableEq, Repr

namespace Binary64

/-- Zero. -/
def zero : Binary64 := ⟨0, 0⟩

/-- A quotient rounded to the nearest integer, a tie to the even one. -/
def roundDiv (num den : Nat) : Nat :=
  let q := num / den
  let twice := 2 * (num % den)
  if twice < den then q else if den < twice then q + 1 else if q % 2 = 0 then q else q + 1

/-- `num / den * base ^ e`, again as a quotient. -/
def scaleBy (base : Nat) (e : Int) (num den : Nat) : Nat × Nat :=
  if 0 ≤ e then (num * Nat.pow base e.toNat, den) else (num, den * Nat.pow base (-e).toNat)

/-- The exponent at which a quotient has a significand of 53 bits, or the smallest exponent. -/
def scaleOf (num den : Nat) : Int :=
  let guess : Int := (num.log2 : Int) - (den.log2 : Int) - 52
  -- the quotient is at least `2 ^ (52 + e)`
  let atLeast (e : Int) : Bool :=
    let (n, d) := scaleBy 2 (-(52 + e)) num den
    d ≤ n
  max (-1074) (if atLeast guess then guess else guess - 1)

/-- The number nearest to `num / den`, if it is finite. -/
def ofQuotient? (num den : Nat) : Option Binary64 :=
  if num = 0 then some zero
  else
    let e := scaleOf num den
    let (n, d) := scaleBy 2 (-e) num den
    let s := roundDiv n d
    let rounded : Binary64 := if s = 0x20000000000000 then ⟨0x10000000000000, e + 1⟩ else ⟨s, e⟩
    if 971 < rounded.exponent then none else some rounded

/-- `num / den * base ^ e`, rounded. -/
def ofScaled? (base : Nat) (e : Int) (num den : Nat) : Option Binary64 :=
  let (n, d) := scaleBy base e num den
  ofQuotient? n d

/-- A product, rounded. -/
def mul? (a b : Binary64) : Option Binary64 :=
  ofScaled? 2 (a.exponent + b.exponent) (a.significand * b.significand) 1

/-- A quotient, rounded, where the divisor is not zero. -/
def div? (a b : Binary64) : Option Binary64 :=
  ofScaled? 2 (a.exponent - b.exponent) a.significand b.significand

/-! ## Shortest decimals -/

/-- The number as a quotient. -/
def quotient (x : Binary64) : Nat × Nat := scaleBy 2 x.exponent x.significand 1

/-- The power of ten just above a quotient that is not zero: the least `k` with `num / den < 10 ^ k`. -/
def decimalScale (num den : Nat) : Int :=
  let below (k : Int) : Bool :=
    let (n, d) := scaleBy 10 (-k) num den
    n < d
  let guess : Int := ((num.log2 : Int) - (den.log2 : Int)) * 30103 / 100000
  if below (guess - 1) then guess - 1
  else if below guess then guess
  else if below (guess + 1) then guess + 1
  else guess + 2

/-- `digits * 10 ^ power` reads back as `x`. -/
def readsBack (x : Binary64) (digits : Nat) (power : Int) : Bool := ofScaled? 10 power digits 1 = some x

/-- The shortest decimal with at least `count` digits, trying `fuel` more counts: the digits as a number
and the power of ten of the last one. -/
def shortestFrom (x : Binary64) (scale : Int) : Nat → Nat → Nat × Int
  | 0, _ => (0, 0)
  | fuel + 1, count =>
    let power := scale - count
    let (num, den) := x.quotient
    let (n, d) := scaleBy 10 (-power) num den
    let low := n / d
    let high := low + 1
    let lowFits := readsBack x low power
    let highFits := readsBack x high power
    let lowNearer := 2 * (n % d) < d ∨ (2 * (n % d) = d ∧ low % 2 = 0)
    if lowFits ∧ (lowNearer ∨ !highFits) then (low, power)
    else if highFits then (high, power)
    else shortestFrom x scale fuel (count + 1)

/-- Digits without the zeros at their end, and the power of the last one that is left. -/
def dropZeros : Nat → Nat → Int → Nat × Int
  | 0, digits, power => (digits, power)
  | fuel + 1, digits, power =>
    if digits ≠ 0 ∧ digits % 10 = 0 then dropZeros fuel (digits / 10) (power + 1) else (digits, power)

/-- The shortest decimal of a number that is not zero. -/
def shortest (x : Binary64) : Nat × Int :=
  let (num, den) := x.quotient
  let (digits, power) := shortestFrom x (decimalScale num den) 18 1
  dropZeros 20 digits power

/-- The text of a number. -/
def render (x : Binary64) : String :=
  if x.significand = 0 then "0.0"
  else
    let (n, power) := x.shortest
    let digits := (toString n).toList
    let zeros (k : Int) : List Char := List.replicate k.toNat '0'
    let point := digits.length + power
    String.ofList <|
      if 0 ≤ power ∧ point ≤ 16 then digits ++ zeros power ++ ['.', '0']
      else if 0 < point ∧ point ≤ 16 then digits.take point.toNat ++ '.' :: digits.drop point.toNat
      else if -5 < point ∧ point ≤ 0 then '0' :: '.' :: zeros (-point) ++ digits
      else
        let exponent := (toString (point - 1)).toList
        match digits with
        | [d] => d :: 'e' :: exponent
        | d :: ds => d :: '.' :: ds ++ 'e' :: exponent
        | [] => []

end Binary64

end SoliditySchema
