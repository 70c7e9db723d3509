import CodeLint.Number.Nearest
import CodeLint.Text.Blank
import CodeLint.Text.Digit

/-!
Numbers from text. Blanks around a number do not count, nor does an underscore between two digits;
digits may be of any script. Infinite and undefined numbers are written by name.
-/

namespace CodeLint.Number

open CodeLint.Text

def takeDigits : List Char → List Char × List Char
  | [] => ([], [])
  | c :: cs =>
    if isDigit c then
      let (ds, rest) := takeDigits cs
      (c :: ds, rest)
    else if c == '_' && (cs.head?.map isDigit).getD false then
      let (ds, rest) := takeDigits cs
      ('_' :: ds, rest)
    else ([], c :: cs)

def digitRun (cs : List Char) : List Char × List Char :=
  if (cs.head?.map isDigit).getD false then
    let (ds, rest) := takeDigits cs
    (ds.filter (· != '_'), rest)
  else ([], cs)

def takeSign : List Char → Bool × List Char
  | '-' :: cs => (true, cs)
  | '+' :: cs => (false, cs)
  | cs => (false, cs)

def exponent? : List Char → Option Int
  | [] => some 0
  | e :: cs =>
    if e == 'e' || e == 'E' then
      let (negative, cs) := takeSign cs
      let (ds, rest) := digitRun cs
      if ds.isEmpty || !rest.isEmpty then none
      else some (if negative then -(numeral ds : Int) else numeral ds)
    else none

def exponentLimit (digits : Nat) : Int := digits + 400

def unsigned? (negative : Bool) (cs : List Char) : Option Double :=
  let (whole, rest) := digitRun cs
  let (part, rest) := match rest with
    | '.' :: r => digitRun r
    | r => ([], r)
  if whole.isEmpty && part.isEmpty then none
  else match exponent? rest with
    | none => none
    | some e =>
      let limit := exponentLimit (whole.length + part.length)
      let e := max (-limit) (min limit e)
      some (.ofDecimal negative (numeral (whole ++ part)) (e - part.length))

def Double.ofText? (s : String) : Option Double :=
  let (negative, cs) := takeSign (trim s.toList)
  let name := String.ofList (cs.map Char.toLower)
  if name == "inf" || name == "infinity" then some (.infinite negative)
  else if name == "nan" then some .undefined
  else unsigned? negative cs

end CodeLint.Number
