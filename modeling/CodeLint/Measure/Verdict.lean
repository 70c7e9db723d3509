import CodeLint.Measure.Runner

/-!
Verdicts on benches. The evidence on a bench is judged by a chain of tests, and the first that
applies gives the verdict. A repository with changed files makes every bench suspect.
-/

namespace CodeLint.Measure

open CodeLint.Number

inductive Verdict
  | ok
  | unparameterised
  | failed
  | returnsNone
  | unstable
  | returnsInput
  | lowShare
  | tooFast
  | parameterInvariant
  | repoModified
  deriving DecidableEq

def Verdict.text : Verdict → String
  | ok => "ok"
  | unparameterised => "ok-unparam"
  | failed => "error"
  | returnsNone => "returns-none"
  | unstable => "unstable"
  | returnsInput => "returns-input"
  | lowShare => "low-repo-time"
  | tooFast => "too-fast"
  | parameterInvariant => "param-invariant"
  | repoModified => "repo-modified"

def Verdict.passes (v : Verdict) : Bool := v == .ok || v == .unparameterised

structure Evidence where
  returnType : String := "?"
  stable : List String := []
  byParameter : List String := []
  inputs : List String := []
  shares : List Double := []
  millis : List Double := []

def half : Double := .ofRatio false ⟨1, 2⟩

def one : Double := .ofInt 1

def least : List Double → Double
  | [] => .zero
  | x :: xs => xs.foldl (fun a b => if b.lt a then b else a) x

def median (xs : List Double) : Double :=
  let sorted := xs.mergeSort fun a b => !b.lt a
  let n := sorted.length
  if n = 0 then .zero
  else if n % 2 = 1 then sorted.getD (n / 2) .zero
  else ((sorted.getD (n / 2 - 1) .zero).add (sorted.getD (n / 2) .zero)).div (.ofInt 2)

def agree : List String → Bool
  | [] => false
  | t :: ts => ts.all (· == t)

def Evidence.isFailed (e : Evidence) : Bool :=
  e.returnType == "?" || e.returnType.toList.head? == some '<'

def Evidence.returnsInput (e : Evidence) : Bool :=
  match e.stable with
  | [] => false
  | t :: _ => e.inputs.contains t

def judge (modified : Bool) (e : Evidence) : Verdict :=
  if modified then .repoModified
  else if e.isFailed then .failed
  else if e.returnType == "NoneType" then .returnsNone
  else if !agree e.stable then .unstable
  else if e.returnsInput then .returnsInput
  else if !e.shares.isEmpty && (least e.shares).lt half then .lowShare
  else if !e.millis.isEmpty && (median e.millis).lt one then .tooFast
  else if e.byParameter.length < 2 then .unparameterised
  else if agree e.byParameter then .parameterInvariant
  else .ok

/-! ### Reading evidence -/

def listOf (j : Json) (name : String) : Except Failure (List String) := do
  match ← memberOf j name with
  | some (.list js) => return js.map plainText
  | _ => return []

def returnTypeOf (j : Json) : Except Failure String :=
  (memberOf j "ret_type").map fun t => t.elim "?" plainText

def readEvidence (j : Json) : Except Failure Evidence := do
  let returnType ← returnTypeOf j
  let stable ← listOf j "fp_stable"
  let byParameter := (← itemsIn j "fp_by_param").map fun (_, v) => plainText v
  let inputs ← listOf j "param_fps"
  let shares := (← numbersOf j "repo_frac").map (·.2)
  let millis := (← numbersOf j "repo_tt_ms").map (·.2)
  return { returnType, stable, byParameter, inputs, shares, millis }

structure Judged where
  name : String
  evidence : Evidence
  verdict : Verdict

/-- Judges benches up to the first whose evidence cannot be read. What is not an object is passed
over. -/
def judgeEach (modified : Bool) : List (String × Json) → List Judged × Option Failure
  | [] => ([], none)
  | (name, j) :: rows =>
    match j with
    | .object _ =>
      match readEvidence j with
      | .error f => ([], some f)
      | .ok e =>
        let (js, f) := judgeEach modified rows
        (⟨name, e, judge modified e⟩ :: js, f)
    | _ => judgeEach modified rows

def judgeLine (modified : Bool) (line : String) : List Judged × Option Failure :=
  match (readLine line).bind (itemsIn · "semcheck") with
  | .error f => ([], some f)
  | .ok rows => judgeEach modified rows

def judgedFrom (modified : Bool) : Outcome → List Judged × String
  | .raised f => ([], runnerNote "semcheck" f)
  | .finished _ out complaints =>
    let (js, f) := judgeLine modified (lastLine out)
    (js, complaintsOf "semcheck" complaints f)

def linesOf : List Char → List (List Char)
  | [] => []
  | '\r' :: '\n' :: cs => [] :: linesOf cs
  | c :: cs =>
    if isLineBreak c then [] :: linesOf cs
    else match linesOf cs with
      | [] => [[c]]
      | line :: lines => (c :: line) :: lines

/-- The files that a listing of changes names, behind the three characters of their state. -/
def modifiedFiles : Outcome → List String
  | .raised _ => []
  | .finished _ out _ =>
    ((linesOf out.toList).filter fun line => !(Text.trim line).isEmpty).map fun line =>
      String.ofList (line.drop 3)

end CodeLint.Measure
