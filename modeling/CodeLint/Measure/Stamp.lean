/-!
Small values that are known by their written form: days, times, spans, exact numbers, paths and
identifiers. The written form names the type and is normalised, so equal values read the same.
-/

namespace CodeLint.Measure

inductive Stamp
  | date (year month day : Int)
  | time (hour minute second : Int)
  | dateTime (year month day hour minute second : Int)
  | span (days seconds microseconds : Int)
  | decimal (text : String)
  | fraction (num den : Int)
  | path (text : String)
  | identifier (hex : String)
  deriving DecidableEq

def argumentsText (ns : List Int) : String := ", ".intercalate (ns.map toString)

def clockArguments (hour minute second : Int) : List Int :=
  if second = 0 then [hour, minute] else [hour, minute, second]

def spanText (days seconds microseconds : Int) : String :=
  let total := seconds + microseconds.fdiv 1000000
  let micro := microseconds.fmod 1000000
  let d := days + total.fdiv 86400
  let s := total.fmod 86400
  let parts := [("days", d), ("seconds", s), ("microseconds", micro)].filter (·.2 ≠ 0)
  let shown := parts.map fun (name, n) => name ++ "=" ++ toString n
  "datetime.timedelta(" ++ (if shown.isEmpty then "0" else ", ".intercalate shown) ++ ")"

def fractionText (num den : Int) : String :=
  let g : Int := Int.gcd num den
  let sign : Int := if den < 0 then -1 else 1
  "Fraction(" ++ argumentsText [sign * num / g, sign * den / g] ++ ")"

def pathText (text : String) : String :=
  let parts := (text.splitOn "/").filter fun p => p != "" && p != "."
  let root :=
    if text.startsWith "//" && !text.startsWith "///" then "//"
    else if text.startsWith "/" then "/"
    else ""
  let shown := root ++ "/".intercalate parts
  "PurePosixPath('" ++ (if shown.isEmpty then "." else shown) ++ "')"

def identifierText (hex : String) : String :=
  let ds := (hex.toList.filter Char.isAlphanum).map Char.toLower
  let group (start count : Nat) : String := String.ofList ((ds.drop start).take count)
  "UUID('" ++ "-".intercalate [group 0 8, group 8 4, group 12 4, group 16 4, group 20 12] ++ "')"

def Stamp.shown : Stamp → String
  | .date y m d => "datetime.date(" ++ argumentsText [y, m, d] ++ ")"
  | .time h m s => "datetime.time(" ++ argumentsText (clockArguments h m s) ++ ")"
  | .dateTime y mo d h m s =>
    "datetime.datetime(" ++ argumentsText ([y, mo, d] ++ clockArguments h m s) ++ ")"
  | .span d s u => spanText d s u
  | .decimal t => "Decimal('" ++ t ++ "')"
  | .fraction n d => fractionText n d
  | .path t => pathText t
  | .identifier h => identifierText h

def Stamp.typeName : Stamp → String
  | .date _ _ _ => "date"
  | .time _ _ _ => "time"
  | .dateTime _ _ _ _ _ _ => "datetime"
  | .span _ _ _ => "timedelta"
  | .decimal _ => "Decimal"
  | .fraction _ _ => "Fraction"
  | .path _ => "PurePosixPath"
  | .identifier _ => "UUID"

end CodeLint.Measure
