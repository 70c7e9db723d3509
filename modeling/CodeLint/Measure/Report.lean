import CodeLint.Measure.History
import CodeLint.Measure.TimeShare
import CodeLint.Measure.Verdict

/-!
The report of a round: a table of the covered files, the failures of benches, the time shares, the
verdicts, and a line that sums them up.
-/

namespace CodeLint.Measure

open CodeLint.Number

def padRight (width : Nat) (s : String) : String :=
  s ++ String.ofList (List.replicate (width - s.length) ' ')

def padLeft (width : Nat) (s : String) : String :=
  String.ofList (List.replicate (width - s.length) ' ') ++ s

/-- A row about a bench. A star in front asks for a change. -/
def benchRow (starred : Bool) (name rest : String) : String :=
  (if starred then "  * " else "    ") ++ (padRight 32 name ++ (" " ++ rest))

abbrev Line := Except Failure String

/-! ### Coverage -/

structure Totals where
  percent : Double
  covered : Int
  statements : Int

def wholeOfText? (s : String) : Option Int :=
  let (negative, cs) := takeSign (Text.trim s.toList)
  let (digits, rest) := digitRun cs
  if digits.isEmpty || !rest.isEmpty || digits.length > Source.maxDigits then none
  else
    let n : Int := Text.numeral digits
    some (if negative then -n else n)

def asWhole : Json → Except Failure Int
  | .int i => .ok i
  | .bool b => .ok (if b then 1 else 0)
  | .real (.finite s b) => .ok (if s then -(b.floor : Int) else b.floor)
  | .real (.infinite _) => .error (.raised .overflow "cannot convert float infinity to integer")
  | .real .undefined => .error (.raised .value "cannot convert float NaN to integer")
  | .text s =>
    match wholeOfText? s with
    | some i => .ok i
    | none => .error (.raised .value ("invalid literal for int() with base 10: " ++ Text.quoted s))
  | j => .error (.raised .type
      ("int() argument must be a string, a bytes-like object or a real number, not '" ++
        jsonType j ++ "'"))

def objectOf (j : Option Json) : Json := j.getD (.object [])

def totalsOf (report : Json) : Except Failure Totals := do
  let totals := objectOf (← memberOf report "totals")
  let percent ← asNumber ((← memberIn totals "percent_covered").getD (.int 0))
  let covered ← asWhole ((← memberIn totals "covered_lines").getD (.int 0))
  let statements ← asWhole ((← memberIn totals "num_statements").getD (.int 0))
  return { percent, covered, statements }

structure FileLine where
  name : String
  statements : Json
  missed : Json
  percent : Double
  weight : Double
  missing : List String

def nameLimit : Nat := 60

def missingLimit : Nat := 12

def fileLimit : Nat := 120

def fileName (file : String) : String :=
  let path := file.toList
  let name := if isAbsolute path then relativePath path else path
  String.ofList (name.take nameLimit)

def asOperand : Json → Except Failure Double
  | .int i => .ok (.ofInt i)
  | .bool b => .ok (.ofInt (if b then 1 else 0))
  | .real x => .ok x
  | j => .error (.raised .type ("bad operand type for unary -: '" ++ jsonType j ++ "'"))

def fileLine (file : String) (j : Json) : Except Failure FileLine := do
  let summary := objectOf (← memberOf j "summary")
  let statements := (← memberOf summary "num_statements").getD (.int 0)
  return {
    name := fileName file
    statements
    missed := (← memberOf summary "missing_lines").getD (.int 0)
    percent := ← asNumber ((← memberOf summary "percent_covered").getD (.int 0))
    weight := ← asOperand statements
    missing := (objectOf (← memberOf j "missing_lines")).elements.map plainText }

def missingText (lines : List String) : String :=
  ",".intercalate (lines.take missingLimit) ++ if lines.length > missingLimit then "…" else ""

def columns (width : Nat) (name statements missed : String) (percent : Double) : String :=
  padRight width name ++ "  " ++ padLeft 5 statements ++ "  " ++ padLeft 4 missed ++ "  " ++
    padLeft 4 (percent.fixedText 0) ++ "%"

def FileLine.text (width : Nat) (l : FileLine) : String :=
  columns width l.name (plainText l.statements) (plainText l.missed) l.percent ++ "  " ++
    missingText l.missing

def FileLine.before (a b : FileLine) : Bool :=
  a.percent.lt b.percent || (a.percent.same b.percent && !a.weight.lt b.weight)

def fileLines (report : Json) : Except Failure (List FileLine) := do
  let files ← itemsIn report "files"
  let lines ← files.mapM fun (file, j) => fileLine file j
  return (lines.mergeSort FileLine.before).take fileLimit

def coverageLines (t : Totals) (lines : List FileLine) : List String :=
  let width := lines.foldl (fun w l => max w l.name.length) 4
  let rule := String.ofList (List.replicate (width + 42) '-')
  [padRight width "Name" ++ "  Stmts  Miss  Cover  Missing", rule] ++ lines.map (·.text width) ++
    [rule, columns width "TOTAL" (toString t.statements) (toString (t.statements - t.covered))
      t.percent]

def coverageTable (report : Json) (t : Totals) : List Line :=
  match fileLines report with
  | .error f => [.error f]
  | .ok lines => (coverageLines t lines).map .ok

/-! ### Failures -/

def failureLimit : Nat := 8

def failuresIn (report : Json) : Except Failure (List (String × Json)) := do
  itemsIn (objectOf (← memberOf report "meta")) failuresKey

def failureTable (failures : List (String × Json)) : List String :=
  if failures.isEmpty then []
  else ["", toString failures.length ++ " bench error(s):"] ++
    (failures.take failureLimit).map fun (k, v) => "  " ++ k ++ ": " ++ plainText v

/-! ### Time shares -/

def shareFloor : Double := .ofInt 45

def isKnown (percent : Double) : Bool := Double.zero.le percent

def knownPercents (percents : List (String × Double)) : List (String × Double) :=
  percents.filter fun p => isKnown p.2

def belowCount (percents : List (String × Double)) : Nat :=
  (knownPercents percents).countP fun p => p.2.lt shareFloor

def unpack : Json → Except Failure (Json × Json)
  | .list js => ofTwo js
  | .text s => ofTwo (s.toList.map fun c => .text c.toString)
  | .object ms => ofTwo ((ms.map (·.1)).eraseDups.map .text)
  | j => .error (.raised .type ("cannot unpack non-iterable " ++ jsonType j ++ " object"))
where
  ofTwo : List Json → Except Failure (Json × Json)
    | [a, b] => .ok (a, b)
    | _ :: _ :: _ :: _ => .error (.raised .value "too many values to unpack (expected 2)")
    | js => .error (.raised .value
        ("not enough values to unpack (expected 2, got " ++ toString js.length ++ ")"))

def firstPlaces : Json → Except Failure (List Json)
  | .list js => .ok (js.take 2)
  | .text s => .ok ((s.toList.take 2).map fun c => .text c.toString)
  | .object _ => .error (.raised .type "unhashable type: 'slice'")
  | j => .error (.raised .type ("'" ++ jsonType j ++ "' object is not subscriptable"))

def wholePercent : Json → Except Failure String
  | .int i => (asNumber (.int i)).map (·.fixedText 0)
  | .bool b => .ok ((Double.ofInt (if b then 1 else 0)).fixedText 0)
  | .real x => .ok (x.fixedText 0)
  | .text _ => .error (.raised .value (ReportFault.message .textAsNumber))
  | j => .error (.raised .type (ReportFault.message (.notFormattable (jsonType j))))

def placeText (j : Json) : Line := do
  let (percent, name) ← unpack j
  return plainText name ++ " " ++ (← wholePercent percent) ++ "%"

def placesText (j : Option Json) : Line := do
  match j.filter (!isEmptyJson ·) with
  | none => return ""
  | some j => return " (hot: " ++ " ".intercalate (← (← firstPlaces j).mapM placeText) ++ ")"

def isBelow (percent : Double) : Bool := Double.zero.le percent && percent.lt shareFloor

def shareTail (places : List (String × Json)) (name : String) (percent : Double) : Line :=
  if percent.lt .zero then .ok "  <error>"
  else if isBelow percent then placesText (places.lookup name)
  else .ok ""

def shareLine (places : List (String × Json)) (name : String) (percent : Double) : Line :=
  (shareTail places name percent).map fun tail =>
    benchRow (isBelow percent) name
      (padLeft 5 ((if percent.lt .zero then .zero else percent).fixedText 1) ++ "%" ++ tail)

def sharesHead : List String := ["", "repo_time (target 50%; * = below 45%):"]

def shareRows (r : ShareReport) : List Line :=
  (r.percents.mergeSort fun a b => !b.2.lt a.2).map fun (name, percent) =>
    shareLine r.places name percent

def shareTable (r : ShareReport) : List Line :=
  if r.percents.isEmpty then [] else sharesHead.map .ok ++ shareRows r

/-! ### Verdicts -/

def modifiedLimit : Nat := 10

def modifiedTable (files : List String) : List String :=
  if files.isEmpty then []
  else ["", "** repo modified (" ++ toString files.length ++
      " file(s)) — revert these; only microbench.py is yours to edit:"] ++
    (files.take modifiedLimit).map ("   " ++ ·)

def advice : List String :=
  ["  returns-none: run() has no return — collect and return the call results",
   "  unstable: seed RNG in setup; avoid time/uuid/id in the return",
   "  returns-input: return repo output, not the parameter value",
   "  low-repo-time: <50% of run() time is in repo code — move glue to setup",
   "  param-invariant: return something derived from run()'s work, not setup",
   "  repo-modified: revert edits to repo files (git checkout -- <path>)"]

def Judged.text (j : Judged) : String :=
  let share := hundred.mul ((least j.evidence.shares).roundTo 2)
  benchRow (!j.verdict.passes) j.name
    (padRight 16 j.verdict.text ++ " (" ++ j.evidence.returnType ++ ", repo " ++
      share.fixedText 0 ++ "%) " ++ (median j.evidence.millis).fixedText 1 ++ "ms")

def verdictRows (js : List Judged) : List String :=
  (js.mergeSort fun a b => !(a.verdict.passes && !b.verdict.passes)).map Judged.text

def verdictTable (js : List Judged) : List String :=
  if js.isEmpty then []
  else ["", "self-check (* = fix needed):"] ++ advice ++ verdictRows js

def failingCount (js : List Judged) : Nat := js.countP fun j => !j.verdict.passes

/-! ### The round -/

def belowNote (percents : List (String × Double)) : String :=
  if percents.isEmpty then ""
  else ", " ++ toString (belowCount percents) ++ "/" ++ toString (knownPercents percents).length ++
    " below repo_time 45%"

def failingNote (js : List Judged) : String :=
  if js.isEmpty then ""
  else ", " ++ toString (failingCount js) ++ "/" ++ toString js.length ++ " not self-checking"

def roundLine (round benches : Nat) (t : Totals) (percents : List (String × Double))
    (js : List Judged) (seconds : Double) : String :=
  "[round " ++ toString round ++ ": " ++ toString benches ++ " benches, " ++
    t.percent.fixedText 1 ++ "% covered" ++ belowNote percents ++ failingNote js ++
    ", measured in " ++ seconds.fixedText 1 ++ "s]"

def coverageGoal : Double := .ofInt 60

def stopAfter (t : Totals) (earlier : List Int) (percents : List (String × Double)) :
    Option Stop :=
  if !(knownPercents percents).isEmpty && coverageGoal.le t.percent then
    stopFor earlier (belowCount percents)
  else none

def stopLines : Option Stop → List String
  | none => []
  | some s =>
    ["", ">>> STOP: repo_time converged (" ++ s.text ++ "). Finalize microbench.py now. <<<"]

end CodeLint.Measure
