import CodeLint.Number.Double

/-!
Decimal texts of floating-point numbers. A finite number is m · 2^q for whole m and q. The reals
that round to it form an interval, with the ends included when m is even. Of the decimals in that
interval, one with the fewest digits is taken, and of these the nearest.
-/

namespace CodeLint.Number

structure Decimal where
  digits : Nat
  power : Int
  deriving DecidableEq

/-- The reals that round to a number: four times the number less or more than a half of the gaps
to its neighbours, over four times the denominator. -/
structure Interval where
  low : Nat
  mid : Nat
  high : Nat
  den : Nat
  closed : Bool

def Binary.interval (b : Binary) : Interval :=
  let scale := if b.exponent < 0 then 1 else Nat.pow 2 b.exponent.toNat
  let den := if b.exponent < 0 then 4 * Nat.pow 2 b.exponent.natAbs else 4
  let narrow := b.mantissa = Nat.pow 2 (precision - 1) ∧ b.exponent > minExponent
  { low := (4 * b.mantissa - if narrow then 1 else 2) * scale
    mid := 4 * b.mantissa * scale
    high := (4 * b.mantissa + 2) * scale
    den := den
    closed := b.mantissa % 2 = 0 }

def Interval.holds (i : Interval) (n : Nat) (power : Int) : Bool :=
  let (v, low, high) :=
    if power < 0 then
      (n * i.den, i.low * Nat.pow 10 power.natAbs, i.high * Nat.pow 10 power.natAbs)
    else (n * Nat.pow 10 power.toNat * i.den, i.low, i.high)
  if i.closed then low ≤ v && v ≤ high else low < v && v < high

/-- The middle of the interval in units of `10^power`, rounded down, with the remainder over the
denominator. -/
def Interval.below (i : Interval) (power : Int) : Nat × Nat × Nat :=
  if power < 0 then
    let n := i.mid * Nat.pow 10 power.natAbs
    (n / i.den, n % i.den, i.den)
  else
    let d := i.den * Nat.pow 10 power.toNat
    (i.mid / d, i.mid % d, d)

def Interval.onGrid (i : Interval) (power : Int) : Option Decimal :=
  let (n, r, d) := i.below power
  let lower := i.holds n power
  let upper := i.holds (n + 1) power
  let preferUpper := 2 * r > d || (2 * r == d && n % 2 == 1)
  if lower && upper then some ⟨if preferUpper then n + 1 else n, power⟩
  else if lower then some ⟨n, power⟩
  else if upper then some ⟨n + 1, power⟩
  else none

def Interval.search (i : Interval) : Nat → Int → Decimal
  | 0, power => ⟨(i.below power).1, power⟩
  | n + 1, power =>
    match i.onGrid power with
    | some d => d
    | none => Interval.search i n (power - 1)

def digitCount (n : Nat) : Nat := (Nat.toDigits 10 n).length

/-- The power of ten at or below a positive quotient, found by trying. -/
def leadingPower (num den : Nat) : Int :=
  if num ≥ den then (digitCount (num / den) : Int) - 1
  else
    let short := digitCount den - digitCount num
    if num * Nat.pow 10 short ≥ den then -(short : Int) else -(short : Int) - 1

def stripZeros : Nat → Decimal → Decimal
  | 0, d => d
  | n + 1, d =>
    if d.digits ≠ 0 && d.digits % 10 == 0 then stripZeros n ⟨d.digits / 10, d.power + 1⟩ else d

def shortest (b : Binary) : Decimal :=
  let i := b.interval
  let d := i.search 17 (leadingPower i.mid i.den)
  stripZeros 20 d

def placePoint (digits : List Char) (n : Int) : List Char :=
  if n ≤ 0 then '0' :: '.' :: List.replicate n.natAbs '0' ++ digits
  else
    let k := n.toNat
    if k ≥ digits.length then digits ++ List.replicate (k - digits.length) '0' ++ ['.', '0']
    else digits.take k ++ '.' :: digits.drop k

def exponentText (e : Int) : List Char :=
  let n := Nat.toDigits 10 e.natAbs
  'e' :: (if e < 0 then '-' else '+') :: (if n.length < 2 then '0' :: n else n)

/-- A decimal is written out in full between a ten-thousandth and ten to the sixteenth, and with
an exponent otherwise. -/
def Decimal.text (d : Decimal) : List Char :=
  let digits := Nat.toDigits 10 d.digits
  let lead : Int := d.power + digits.length - 1
  if -4 ≤ lead && lead < 16 then placePoint digits (lead + 1)
  else match digits with
    | [c] => c :: exponentText lead
    | c :: cs => c :: '.' :: cs ++ exponentText lead
    | [] => []

def Binary.text (b : Binary) : List Char :=
  if b.mantissa = 0 then ['0', '.', '0'] else (shortest b).text

def Double.text : Double → String
  | .undefined => "nan"
  | .infinite s => if s then "-inf" else "inf"
  | .finite s b => String.ofList (if s then '-' :: b.text else b.text)

end CodeLint.Number
