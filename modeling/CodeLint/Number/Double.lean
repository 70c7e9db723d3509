/-!
Floating-point numbers of 64 bits. A finite one is m · 2^q with a sign, where m has at most 53
bits and q is at least -1074; q is as small as these bounds allow, so that every number has one
form. Zero has both signs.
-/

namespace CodeLint.Number

/-- The magnitude `mantissa · 2^exponent`. -/
structure Binary where
  mantissa : Nat
  exponent : Int
  deriving DecidableEq

structure Ratio where
  num : Nat
  den : Nat
  deriving DecidableEq

def precision : Nat := 53

def minExponent : Int := -1074

def maxExponent : Int := 971

def Binary.ratio (b : Binary) : Ratio :=
  if b.exponent < 0 then ⟨b.mantissa, Nat.pow 2 b.exponent.natAbs⟩
  else ⟨b.mantissa * Nat.pow 2 b.exponent.toNat, 1⟩

def Binary.floor (b : Binary) : Nat := b.ratio.num / b.ratio.den

inductive Double
  | finite (negative : Bool) (b : Binary)
  | infinite (negative : Bool)
  | undefined
  deriving DecidableEq, Inhabited

namespace Double

def zero : Double := .finite false ⟨0, minExponent⟩

def isZero : Double → Bool
  | .finite _ b => b.mantissa == 0
  | _ => false

def neg : Double → Double
  | .finite s b => .finite (!s) b
  | .infinite s => .infinite (!s)
  | .undefined => .undefined

end Double

end CodeLint.Number
