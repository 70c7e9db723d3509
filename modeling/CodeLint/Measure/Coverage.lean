import CodeLint.Json.Basic
import CodeLint.Measure.Frame
import CodeLint.Measure.Suite
import CodeLint.Number.Fixed

/-!
Coverage of a suite. Every bench is run once while coverage is recorded; the failures and the
number of benches are then added to the coverage report, and its totals are summed up in a line.
-/

namespace CodeLint.Measure

open CodeLint.Number

inductive ReportFault
  | missingKey (name : String)
  | noItems (type : String)
  | noMethod (type method : String)
  | notFormattable (type : String)
  | textAsNumber
  deriving DecidableEq

def ReportFault.message : ReportFault → String
  | missingKey name => Text.quoted name
  | noItems type => "'" ++ type ++ "' object does not support item assignment"
  | noMethod type method => "'" ++ type ++ "' object has no attribute '" ++ method ++ "'"
  | notFormattable type => "unsupported format string passed to " ++ type ++ ".__format__"
  | textAsNumber => "Unknown format code 'f' for object of type 'str'"

def jsonType : Json → String
  | .null => "NoneType"
  | .bool _ => "bool"
  | .int _ => "int"
  | .real _ => "float"
  | .text _ => "str"
  | .list _ => "list"
  | .object _ => "dict"

def failuresOf (bs : List Bench) : List (String × String) :=
  bs.filterMap fun b =>
    match b.call 0 [] with
    | .error f => some (b.name, f.report)
    | .ok _ => none

/-- The benches of a suite and their failures. A suite that cannot be loaded counts as one. -/
def Suite.failures (s : Suite) : List (String × String) :=
  match s with
  | .error f => [("<import>", f.report)]
  | .ok entries => failuresOf (benchesOf entries)

def Suite.benchCount (s : Suite) : Nat :=
  match s with
  | .error _ => 0
  | .ok entries => (benchesOf entries).length

def setMember (name : String) (v : Json) (ms : List (String × Json)) : List (String × Json) :=
  if ms.any (·.1 == name) then ms.map fun (k, w) => if k == name then (k, v) else (k, w)
  else ms ++ [(name, v)]

def failuresKey : String := "_pti_bench_errors"

mutual
def shownJson : Json → String
  | .null => "None"
  | .bool b => if b then "True" else "False"
  | .int i => toString i
  | .real x => x.text
  | .text s => Text.quoted s
  | .list js => "[" ++ ", ".intercalate (shownElements js) ++ "]"
  | .object ms => "\x7b" ++ ", ".intercalate (shownMembers ms) ++ "\x7d"
def shownElements : List Json → List String
  | [] => []
  | j :: js => shownJson j :: shownElements js
def shownMembers : List (String × Json) → List String
  | [] => []
  | (k, j) :: ms => (Text.quoted k ++ ": " ++ shownJson j) :: shownMembers ms
end

def plainText : Json → String
  | .text s => s
  | j => shownJson j

end CodeLint.Measure
