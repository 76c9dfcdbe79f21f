/-!
# Floating point numbers

Numbers with 53 bits, by exact arithmetic on naturals: rounding a ratio to the nearest of them,
and the fewest digits that read back.
-/

namespace Requisite

/-- The number `mantissa * 2 ^ exponent`, with its sign. -/
structure Double where
  negative : Bool
  mantissa : Nat
  exponent : Int
  deriving DecidableEq, Repr

namespace Double

def zero (negative : Bool) : Double := ⟨negative, 0, 0⟩

def isZero (x : Double) : Bool := x.mantissa == 0

def minExponent : Int := -1074

def maxExponent : Int := 971

/-- `a / b * 2 ^ -e` as a ratio. -/
def scaled (a b : Nat) (e : Int) : Nat × Nat :=
  if e < 0 then (a * Nat.pow 2 e.natAbs, b) else (a, b * Nat.pow 2 e.natAbs)

/-- The quotient rounded to the nearest natural, a half to the even one. -/
def roundQuotient (a b : Nat) : Nat :=
  let q := a / b
  let r := a % b
  if 2 * r < b then q
  else if b < 2 * r then q + 1
  else q + q % 2

/-- The number nearest to `a / b`, or `none` if it is too large. -/
def ofRatio? (negative : Bool) (a b : Nat) : Option Double :=
  if a == 0 then some (zero negative)
  else
    let guess : Int := (a.log2 : Int) - (b.log2 : Int) - 52
    -- The guess is right or one too large.
    let (n, d) := scaled a b guess
    let e := max minExponent (if n < d * Nat.pow 2 52 then guess - 1 else guess)
    let (n, d) := scaled a b e
    let q := roundQuotient n d
    let (q, e) := if q == Nat.pow 2 53 then (Nat.pow 2 52, e + 1) else (q, e)
    if maxExponent < e then none
    else if q == 0 then some (zero negative)
    else some ⟨negative, q, e⟩

def ratio (x : Double) : Nat × Nat := scaled x.mantissa 1 (-x.exponent)

def mul? (x y : Double) : Option Double :=
  let (a, b) := x.ratio
  let (c, d) := y.ratio
  ofRatio? (x.negative != y.negative) (a * c) (b * d)

def div? (x y : Double) : Option Double :=
  let (a, b) := x.ratio
  let (c, d) := y.ratio
  ofRatio? (x.negative != y.negative) (a * d) (b * c)

def ofNat? (n : Nat) : Option Double := ofRatio? false n 1

/-! ## Decimal input -/

/-- The largest power of ten below infinity. -/
def maxPower : Nat := 308

/-- The significand as a number, times a power of ten as a number, in steps of `maxPower`. The
result is `none` if it is too large. -/
def scaleDecimal? : Nat → Double → Int → Option Double
  | 0, x, _ => some x
  | fuel + 1, x, e =>
    if e.natAbs ≤ maxPower then do
      let power ← ofNat? (Nat.pow 10 e.natAbs)
      if 0 ≤ e then x.mul? power else x.div? power
    else if x.isZero then some x
    else if 0 ≤ e then none
    else do
      let power ← ofNat? (Nat.pow 10 maxPower)
      scaleDecimal? fuel (← x.div? power) (e + maxPower)

def ofDecimal? (negative : Bool) (significand : Nat) (exponent : Int) : Option Double := do
  let x ← ofNat? significand
  -- After a few steps nothing is left of any significand.
  let x ← scaleDecimal? 8 x exponent
  return { x with negative }

/-! ## Decimal output -/

/-- The ends of the interval whose numbers round to `x`, in units of `2 ^ (exponent - 2)`. -/
def interval (x : Double) : Nat × Nat :=
  let low := if x.mantissa == Nat.pow 2 52 && minExponent < x.exponent then 1 else 2
  (4 * x.mantissa - low, 4 * x.mantissa + 2)

/-- Whether `a / b` rounds to `x`. -/
def covers (x : Double) (a b : Nat) : Bool :=
  let (low, high) := x.interval
  let (n, d) := scaled a b (x.exponent - 2)
  if x.mantissa % 2 == 0 then low * d ≤ n && n ≤ high * d else low * d < n && n < high * d

/-- `a / b * 10 ^ -e` as a ratio. -/
def scaledTen (a b : Nat) (e : Int) : Nat × Nat :=
  if e < 0 then (a * Nat.pow 10 e.natAbs, b) else (a, b * Nat.pow 10 e.natAbs)

/-- The multiple of `10 ^ e` that rounds to `x` and is nearest to it. -/
def nearestOnGrid? (x : Double) (e : Int) : Option Nat :=
  let (a, b) := x.ratio
  let (n, d) := scaledTen a b e
  let below := n / d
  let fits (k : Nat) : Bool :=
    let (n, d) := scaledTen k 1 (-e)
    x.covers n d
  match fits below, fits (below + 1) with
  | true, true => some (if 2 * (n % d) ≤ d then below else below + 1)
  | true, false => some below
  | false, true => some (below + 1)
  | false, false => none

/-- How many decimal digits the integral part of `a / b` has, or would have if shifted: the
least `k` with `a / b < 10 ^ k`. -/
def decimalPoint (a b : Nat) : Int :=
  -- The binary length fixes it up to one.
  let guess : Int := ((a.log2 : Int) - (b.log2 : Int)) * 30103 / 100000 - 1
  let reaches (k : Int) : Bool := let (n, d) := scaledTen a b k; d ≤ n
  if !reaches guess then guess
  else if !reaches (guess + 1) then guess + 1
  else if !reaches (guess + 2) then guess + 2
  else guess + 3

def stripZeros : Nat → Nat → Int → Nat × Int
  | 0, k, e => (k, e)
  | fuel + 1, k, e => if k % 10 == 0 && 0 < k then stripZeros fuel (k / 10) (e + 1) else (k, e)

/-- The fewest digits that read back as `x`, as `k * 10 ^ e`. -/
def shortest (x : Double) : Nat × Int :=
  if x.isZero then (0, 0)
  else
    let (a, b) := x.ratio
    let point := decimalPoint a b
    let grids := (List.range 17).map fun (n : Nat) => point - (n : Int) - 1
    match grids.findSome? fun e => (x.nearestOnGrid? e).map (·, e) with
    | some (k, e) => stripZeros 20 k e
    | none => (0, 0)

/-- Up to sixteen digits before the point, and up to five zeros after it, are written out. -/
def render (x : Double) : String :=
  let (k, e) := x.shortest
  let digits := Nat.toDigits 10 k
  let length : Int := digits.length
  let point := length + e
  let sign := if x.negative then "-" else ""
  let zeros (n : Int) : List Char := List.replicate n.toNat '0'
  let body : List Char :=
    if x.isZero then ['0', '.', '0']
    else if 0 ≤ e && point ≤ 16 then digits ++ zeros e ++ ['.', '0']
    else if 0 < point && point ≤ 16 then
      digits.take point.toNat ++ ['.'] ++ digits.drop point.toNat
    else if -5 < point && point ≤ 0 then ['0', '.'] ++ zeros (-point) ++ digits
    else
      let mantissa := match digits with
        | [d] => [d]
        | d :: ds => d :: '.' :: ds
        | [] => []
      let exponent := point - 1
      let sign := if exponent < 0 then ['-'] else []
      mantissa ++ ['e'] ++ sign ++ Nat.toDigits 10 exponent.natAbs
  sign ++ String.ofList body

end Double

end Requisite
