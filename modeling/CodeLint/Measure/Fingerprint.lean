import CodeLint.Digest.Sha256
import CodeLint.Measure.Value
import CodeLint.Number.Fixed

/-!
Fingerprints of values. A value is written as bytes, and the fingerprint is their digest. Numbers
are rounded to a few digits, so that the last bits do not count. The items of a dictionary are
ordered by the fingerprints of their keys and the elements of a set by their own, so the order in
which they are enumerated does not count either. Of long lists and arrays only the ends are
written, and nothing below a depth.
-/

namespace CodeLint.Measure

open CodeLint.Number CodeLint.Digest

def significantDigits : Nat := 6

def listLimit : Nat := 2000

def arrayLimit : Nat := 4000

def depthLimit : Nat := 8

def asBytes (s : String) : List UInt8 := s.toList.flatMap String.utf8EncodeChar

def ends {α : Type} (limit : Nat) (as : List α) : List α :=
  if as.length ≤ limit then as else as.take (limit / 2) ++ as.drop (as.length - limit / 2)

def roundedText (x : Double) : String := (x.significant significantDigits).text

/-! ### Arrays -/

def NumberArray.kind (a : NumberArray) : Char := (a.type.toList.drop 1).headD 'i'

def NumberArray.width (a : NumberArray) : Nat :=
  ((a.type.toList.drop 2).filter Char.isDigit).foldl (fun n c => 10 * n + (c.toNat - 48)) 0

def shapeText : List Nat → String
  | [n] => "(" ++ toString n ++ ",)"
  | ns => "(" ++ ", ".intercalate (ns.map toString) ++ ")"

/-- A whole number in so many bytes, the lowest first; a negative one in two's complement. -/
def lowFirst (width : Nat) (i : Int) : List UInt8 :=
  (bytesOf width (i % (Nat.pow 256 width : Nat)).toNat).reverse

def NumberArray.isReal (a : NumberArray) : Bool := a.kind == 'f' || a.kind == 'c'

def NumberArray.feed (a : NumberArray) : List UInt8 :=
  asBytes ("A" ++ shapeText a.shape ++ a.type) ++
    if a.isReal then (ends arrayLimit a.reals).flatMap fun x => asBytes (roundedText x)
    else sha256 (a.whole.flatMap (lowFirst a.width))

/-! ### Values -/

/-- Joins the writings of items in the order of the fingerprints of their keys. -/
def joinItems (items : List (String × List UInt8)) : List UInt8 :=
  (items.mergeSort fun a b => !(b.1 < a.1)).flatMap (·.2)

def joinElements (fingerprints : List String) : List UInt8 :=
  (fingerprints.mergeSort fun a b => !(b < a)).flatMap asBytes

def within (depth : Nat) (bs : List UInt8) : List UInt8 :=
  if depth > depthLimit then asBytes "..." else bs

def heading (letter : String) (count : Nat) : List UInt8 := asBytes (letter ++ toString count)

def textFeed (depth : Nat) (s : String) : List UInt8 := within depth (asBytes ("s" ++ s))

mutual
def feed (depth : Nat) : Value → List UInt8
  | .none => within depth (asBytes "None")
  | .bool b => within depth (asBytes (if b then "True" else "False"))
  | .int i => within depth (asBytes (toString i))
  | .real x => within depth (asBytes (roundedText x))
  | .complex re im => within depth (asBytes ("c" ++ roundedText re ++ roundedText im))
  | .text s => textFeed depth s
  | .bytes _ bs => within depth (asBytes "b" ++ bs)
  | .list vs =>
    within depth (heading "L" vs.length ++ (ends listLimit (feedAll (depth + 1) vs)).flatten)
  | .tuple vs =>
    within depth (heading "L" vs.length ++ (ends listLimit (feedAll (depth + 1) vs)).flatten)
  | .dict items =>
    within depth (heading "D" items.length ++ joinItems (feedItems (depth + 1) items))
  | .set _ vs =>
    within depth (heading "S" vs.length ++
      joinElements ((feedAll (depth + 1) vs).map fun bs => hexText (sha256 bs)))
  | .stamp s => within depth (asBytes s.shown)
  | .fields fs => within depth (heading "D" fs.length ++ joinItems (feedFields (depth + 1) fs))
  | .object module name => within depth (asBytes ("<" ++ module ++ "." ++ name ++ ">"))
  | .array a => within depth a.feed
  | .parameter _ v => feed depth v
def feedAll (depth : Nat) : List Value → List (List UInt8)
  | [] => []
  | v :: vs => feed depth v :: feedAll depth vs
def feedItems (depth : Nat) : List (Value × Value) → List (String × List UInt8)
  | [] => []
  | (k, v) :: items =>
    let key := feed depth k
    (hexText (sha256 key), key ++ feed depth v) :: feedItems depth items
def feedFields (depth : Nat) : List (String × Value) → List (String × List UInt8)
  | [] => []
  | (k, v) :: fs =>
    let key := textFeed depth k
    (hexText (sha256 key), key ++ feed depth v) :: feedFields depth fs
end

def fingerprint (v : Value) : String := hexText (sha256 (feed 0 v))

end CodeLint.Measure
