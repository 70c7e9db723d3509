import CodeLint.Number.Nearest
import CodeLint.Number.Shortest

/-!
Rounding to a number of decimal places or of digits. The exact value of the number is rounded, a
tie to the even last digit.
-/

namespace CodeLint.Number

def Binary.inPlaces (b : Binary) (places : Nat) : Nat :=
  roundDiv (b.ratio.num * Nat.pow 10 places) b.ratio.den

def Double.roundTo (places : Nat) : Double → Double
  | .finite s b => .ofDecimal s (b.inPlaces places) (-(places : Int))
  | x => x

def placedText (n places : Nat) : List Char :=
  let digits := Nat.toDigits 10 n
  let filled := List.replicate (places + 1 - digits.length) '0' ++ digits
  let whole := filled.take (filled.length - places)
  if places = 0 then whole else whole ++ '.' :: filled.drop (filled.length - places)

def Double.fixedText (places : Nat) : Double → String
  | .undefined => "nan"
  | .infinite s => if s then "-inf" else "inf"
  | .finite s b =>
    let text := placedText (b.inPlaces places) places
    String.ofList (if s then '-' :: text else text)

def Binary.inDigits (b : Binary) (count : Nat) : Decimal :=
  let power := leadingPower b.ratio.num b.ratio.den - count + 1
  let n := if power < 0 then roundDiv (b.ratio.num * Nat.pow 10 power.natAbs) b.ratio.den
    else roundDiv b.ratio.num (b.ratio.den * Nat.pow 10 power.toNat)
  ⟨n, power⟩

def Double.significant (count : Nat) : Double → Double
  | .finite s b =>
    if b.mantissa = 0 then .zero
    else
      let d := b.inDigits count
      .ofDecimal s d.digits d.power
  | x => x

end CodeLint.Number
