import CodeLint.Number.Double

/-!
Rounding. Every operation on floating-point numbers gives the number nearest to the exact result,
and of two that are equally near the one with the even mantissa. Results too large for any number
are infinite.
-/

namespace CodeLint.Number

/-- A quotient rounded to the nearest whole number, a tie to the even one. -/
def roundDiv (num den : Nat) : Nat :=
  let q := num / den
  let r := num % den
  if 2 * r > den || (2 * r == den && q % 2 == 1) then q + 1 else q

def Ratio.scaled (r : Ratio) (exponent : Int) : Ratio :=
  if exponent < 0 then ⟨r.num * Nat.pow 2 exponent.natAbs, r.den⟩
  else ⟨r.num, r.den * Nat.pow 2 exponent.toNat⟩

def exponentFor (r : Ratio) : Int :=
  let guess : Int := (Nat.log2 r.num : Int) - Nat.log2 r.den - (precision - 1 : Nat)
  let s := r.scaled guess
  let exact := if s.num < s.den * Nat.pow 2 (precision - 1) then guess - 1 else guess
  max exact minExponent

/-- A mantissa that was rounded up to one bit more moves to the next exponent. -/
def Binary.settle (b : Binary) : Binary :=
  if b.mantissa = Nat.pow 2 precision then ⟨Nat.pow 2 (precision - 1), b.exponent + 1⟩ else b

def nearest? (r : Ratio) : Option Binary :=
  if r.num = 0 then some ⟨0, minExponent⟩
  else
    let e := exponentFor r
    let s := r.scaled e
    let b := Binary.settle ⟨roundDiv s.num s.den, e⟩
    if b.exponent > maxExponent then none else some b

namespace Double

def ofRatio (negative : Bool) (r : Ratio) : Double :=
  match nearest? r with
  | some b => .finite negative b
  | none => .infinite negative

def ofInt (i : Int) : Double := ofRatio (i < 0) ⟨i.natAbs, 1⟩

def ofDecimal (negative : Bool) (digits : Nat) (power : Int) : Double :=
  if power < 0 then ofRatio negative ⟨digits, Nat.pow 10 power.natAbs⟩
  else ofRatio negative ⟨digits * Nat.pow 10 power.toNat, 1⟩

def units (negative : Bool) (b : Binary) (e : Int) : Int :=
  let n : Int := (b.mantissa * Nat.pow 2 (b.exponent - e).toNat : Nat)
  if negative then -n else n

/-- A number of units of two to an exponent. A zero is positive unless said otherwise. -/
def ofUnits (zeroNegative : Bool) (n : Int) (e : Int) : Double :=
  if n = 0 then .finite zeroNegative ⟨0, minExponent⟩
  else ofRatio (n < 0) (Binary.ratio ⟨n.natAbs, e⟩)

def add : Double → Double → Double
  | .undefined, _ => .undefined
  | _, .undefined => .undefined
  | .infinite s, .infinite t => if s = t then .infinite s else .undefined
  | .infinite s, _ => .infinite s
  | _, .infinite t => .infinite t
  | .finite s a, .finite t b =>
    let e := min a.exponent b.exponent
    ofUnits (s && t) (units s a e + units t b e) e

def sub (x y : Double) : Double := add x y.neg

def mul : Double → Double → Double
  | .undefined, _ => .undefined
  | _, .undefined => .undefined
  | .finite s a, .finite t b =>
    ofRatio (s != t) ⟨a.ratio.num * b.ratio.num, a.ratio.den * b.ratio.den⟩
  | .infinite s, .infinite t => .infinite (s != t)
  | .infinite s, .finite t b => if b.mantissa = 0 then .undefined else .infinite (s != t)
  | .finite s a, .infinite t => if a.mantissa = 0 then .undefined else .infinite (s != t)

def div : Double → Double → Double
  | .undefined, _ => .undefined
  | _, .undefined => .undefined
  | .finite s a, .finite t b =>
    if b.mantissa = 0 then if a.mantissa = 0 then .undefined else .infinite (s != t)
    else ofRatio (s != t) ⟨a.ratio.num * b.ratio.den, a.ratio.den * b.ratio.num⟩
  | .infinite _, .infinite _ => .undefined
  | .infinite s, .finite t _ => .infinite (s != t)
  | .finite s _, .infinite t => .finite (s != t) ⟨0, minExponent⟩

def lt : Double → Double → Bool
  | .undefined, _ => false
  | _, .undefined => false
  | .infinite s, .infinite t => s && !t
  | .infinite s, .finite _ _ => s
  | .finite _ _, .infinite t => !t
  | .finite s a, .finite t b =>
    let e := min a.exponent b.exponent
    units s a e < units t b e

def same : Double → Double → Bool
  | .infinite s, .infinite t => s == t
  | .finite s a, .finite t b =>
    let e := min a.exponent b.exponent
    units s a e == units t b e
  | _, _ => false

def le (x y : Double) : Bool := x.lt y || x.same y

end Double

end CodeLint.Number
