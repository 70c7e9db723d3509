import CodeLint.Json.Reader
import CodeLint.Measure.Coverage
import CodeLint.Number.Reading
import CodeLint.Text.Blank

/-!
What the measuring programs print. The last line of their output is in JSON. Output that cannot be
used is passed over with a note; a program that prints nothing has its complaints passed on.
-/

namespace CodeLint.Measure

open CodeLint.Number CodeLint.Text

inductive Outcome
  | finished (code : Int) (out : String) (complaints : String)
  | raised (f : Failure)

def isLineBreak (c : Char) : Bool :=
  c == '\n' || c == '\r' || c == '\x0b' || c == '\x0c' || c == '\x1c' || c == '\x1d' ||
    c == '\x1e' || c == '\u0085' || c == '\u2028' || c == '\u2029'

def withoutLineEnd (cs : List Char) : List Char :=
  match cs.reverse with
  | '\n' :: '\r' :: rest => rest.reverse
  | c :: rest => if isLineBreak c then rest.reverse else cs
  | [] => []

/-- The last line of an output. A blank output counts as an empty object. -/
def lastLine (out : String) : String :=
  if (trim out.toList).isEmpty then "\x7b\x7d"
  else String.ofList ((withoutLineEnd out.toList).reverse.takeWhile (!isLineBreak ·)).reverse

def readLine (line : String) : Except Failure Json :=
  match Json.read line with
  | .ok j => .ok j
  | .error f =>
    match f.reason with
    | .tooManyDigits _ => .error (.raised .value (f.message line))
    | _ => .error (.raised .json (f.message line))

def asNumber : Json → Except Failure Double
  | .int i =>
    match Double.ofInt i with
    | .infinite _ => .error (.raised .overflow "int too large to convert to float")
    | x => .ok x
  | .real x => .ok x
  | .bool b => .ok (.ofInt (if b then 1 else 0))
  | .text s =>
    match Double.ofText? s with
    | some x => .ok x
    | none => .error (.raised .value ("could not convert string to float: " ++ quoted s))
  | j => .error (.raised .type
      ("float() argument must be a string or a real number, not '" ++ jsonType j ++ "'"))

def isEmptyJson : Json → Bool
  | .null => true
  | .bool b => !b
  | .int i => i == 0
  | .real x => x.isZero
  | .text s => s.isEmpty
  | .list js => js.isEmpty
  | .object ms => ms.isEmpty

def memberIn (j : Json) (name : String) : Except Failure (Option Json) :=
  match j with
  | .object _ => .ok (j.member? name)
  | _ => .error (.raised .member (ReportFault.message (.noMethod (jsonType j) "get")))

/-- The same, where an empty one counts as missing. -/
def memberOf (j : Json) (name : String) : Except Failure (Option Json) :=
  (memberIn j name).map (·.filter (!isEmptyJson ·))

/-- The items of a value that should be an object, in order, the last of each name. -/
def itemsOf : Option Json → Except Failure (List (String × Json))
  | none => .ok []
  | some (.object ms) => .ok (ms.foldl (fun acc (k, v) => setMember k v acc) [])
  | some j => .error (.raised .member (ReportFault.message (.noMethod (jsonType j) "items")))

def itemsIn (j : Json) (name : String) : Except Failure (List (String × Json)) :=
  (memberOf j name).bind itemsOf

def numbersOf (j : Json) (name : String) : Except Failure (List (String × Double)) := do
  (← itemsIn j name).mapM fun (k, v) => return (k, ← asNumber v)

def runnerNote (runner : String) (f : Failure) : String :=
  "[" ++ runner ++ " runner: " ++ f.report ++ "]\n"

structure ShareReport where
  percents : List (String × Double) := []
  places : List (String × Json) := []

/-- The shares in a line. When the hot places cannot be read, the shares stay. -/
def readShares (line : String) : ShareReport × Option Failure :=
  match (readLine line).bind fun j => (numbersOf j "repo_time_pct").map (j, ·) with
  | .error f => ({}, some f)
  | .ok (j, percents) =>
    match itemsIn j "hot_ext" with
    | .error f => ({ percents }, some f)
    | .ok places => ({ percents, places }, none)

def complaintsOf (runner complaints : String) (f : Option Failure) : String :=
  complaints ++ f.elim "" (runnerNote runner)

def sharesFrom : Outcome → ShareReport × String
  | .raised f => ({}, runnerNote "repotime" f)
  | .finished _ out complaints =>
    let (r, f) := readShares (lastLine out)
    (r, complaintsOf "repotime" complaints f)

end CodeLint.Measure
