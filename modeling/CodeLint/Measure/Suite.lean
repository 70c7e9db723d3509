import CodeLint.Json.Basic
import CodeLint.Measure.Fingerprint

/-!
Suites of benches. A bench that is called with arguments makes a function to run, or gives a result
at once; either may fail. What a call does can depend on how often the bench was called before. The
benches of a suite are the callable entries of a certain name, in order of their names. A suite that
cannot be loaded has none.
-/

namespace CodeLint.Measure

inductive FailureKind
  | value
  | key
  | type
  | loading
  | runtime
  | exit
  | member
  | overflow
  | os
  | json
  deriving DecidableEq

def FailureKind.name : FailureKind → String
  | value => "ValueError"
  | key => "KeyError"
  | type => "TypeError"
  | loading => "ImportError"
  | runtime => "RuntimeError"
  | exit => "SystemExit"
  | member => "AttributeError"
  | overflow => "OverflowError"
  | os => "OSError"
  | json => "JSONDecodeError"

inductive Failure
  | raised (kind : FailureKind) (text : String)
  | timeout
  deriving DecidableEq

def Failure.mark : Failure → String
  | raised kind _ => "<" ++ kind.name ++ ">"
  | timeout => "<timeout>"

/-- The kind and the text of a failure. A missing key is shown in quotes. -/
def Failure.report : Failure → String
  | raised .key text => "KeyError: " ++ Text.quoted text
  | raised kind text => kind.name ++ ": " ++ text
  | timeout => "timeout: "

abbrev Arguments := List (String × Value)

inductive Made
  | function (run : Except Failure Value)
  | result (v : Value)

def Made.run : Made → Except Failure Value
  | function run => run
  | result v => .ok v

structure Bench where
  name : String
  make : Nat → Arguments → Except Failure Made
  parameters : List Arguments := []

inductive Entry
  | plain (name : String)
  | bench (b : Bench)

def Entry.name : Entry → String
  | .plain name => name
  | .bench b => b.name

def Entry.bench? : Entry → Option Bench
  | .plain _ => none
  | .bench b => some b

abbrev Suite := Except Failure (List Entry)

def benchMark : String := "bench_"

/-- A later entry takes the place of an earlier one of that name. -/
def latest : List Entry → List Entry
  | [] => []
  | e :: es => if es.any (·.name == e.name) then latest es else e :: latest es

def Entry.marked? (e : Entry) : Option Bench :=
  if e.name.startsWith benchMark then e.bench? else none

def benchesOf (entries : List Entry) : List Bench :=
  ((latest entries).filterMap Entry.marked?).mergeSort fun a b => !(b.name < a.name)

def Bench.call (b : Bench) (number : Nat) (arguments : Arguments) : Except Failure Value := do
  (← b.make number arguments).run

/-- A bench that makes no function is timed itself, and so called once more. -/
def Bench.timed (b : Bench) : Except Failure Unit := do
  match ← b.make 0 [] with
  | .function run => discard run
  | .result _ => discard (b.make 1 [])

def unloadedJson (f : Failure) : Json := .object [("_import_error", .text f.report)]

/-- What a program prints about the benches of a suite, or about why it could not be loaded. -/
def Suite.printed (s : Suite) (about : List Bench → Json) : Json :=
  match s with
  | .error f => unloadedJson f
  | .ok entries => about (benchesOf entries)

end CodeLint.Measure
