import CodeLint.Json.Printer
import CodeLint.Measure.Report
import CodeLint.Text.Word

/-!
A round of measuring. The coverage is recorded first, and without it there is no round. The other
programs are run if they are there, and what they cannot say is left out. A line about the round
is then added to the file of the rounds, and the report is printed. A line of the report that cannot
be made ends the round there.
-/

namespace CodeLint.Measure

open CodeLint.Number CodeLint.Text

/-- What a round finds: the files by path, three readings of the clock, and how the programs that
it runs ended. -/
structure Setting where
  files : List (String × String) := []
  started : Double := .zero
  ended : Double := .zero
  now : Double := .zero
  coverage : Outcome
  report : Option Json := none
  shares : Outcome
  checks : Outcome
  git : Outcome

/-- What a round leaves: how it ended, what it printed, the line that it added to the file of the
rounds, and that file. -/
structure RoundResult where
  exit : Option Int := none
  raised : Option Failure := none
  printed : String := ""
  complaints : String := ""
  checkpoint : Option Json := none
  records : Option String := none

def inRoot (name : String) : String := root ++ "/" ++ name

def Setting.file? (s : Setting) (name : String) : Option String := s.files.lookup (inRoot name)

/-! ### Counting benches -/

def startsBench (cs : List Char) : Bool :=
  let mark := ("def " ++ benchMark).toList
  let rest := (cs.drop mark.length).dropWhile isWord
  mark.isPrefixOf cs && ((cs.drop mark.length).head?.map isWord).getD false &&
    (rest.dropWhile isBlank).head? == some '('

def lineStarts : List Char → List (List Char)
  | [] => []
  | c :: cs => if c == '\n' then cs :: lineStarts cs else lineStarts cs

def countBenches (text : String) : Nat :=
  (text.toList :: lineStarts text.toList).countP startsBench

/-! ### The line of a round -/

def percentsJson (percents : List (String × Double)) : Json :=
  .object (percents.map fun (k, x) => (k, .real x))

def verdictsJson (js : List Judged) : Json :=
  .object (js.map fun j => (j.name, .text j.verdict.text))

def checkpointOf (round benches failures : Nat) (s : Setting) (elapsed seconds : Double)
    (t : Totals) (percents : List (String × Double)) (js : List Judged) : Json :=
  .object
    [("round", .int round), ("ts", .real s.now), ("wall_since_prev_s", .real elapsed),
     ("coverage_pct", .real t.percent), ("covered_lines", .int t.covered),
     ("num_statements", .int t.statements), ("n_bench_fns", .int benches),
     ("n_bench_errors", .int failures), ("cov_measure_s", .real seconds),
     ("repo_time_pct", percentsJson percents),
     ("n_below_repo_time",
       if (knownPercents percents).isEmpty then .null else .int (belowCount percents)),
     ("semcheck", verdictsJson js), ("n_not_self_checking", .int (failingCount js))]

/-! ### Rounds -/

def runIfThere (s : Setting) (name : String) (o : Outcome) : Outcome :=
  if (s.file? name).isSome then o else .finished 0 "" ""

def printAll : List Line → String × Option Failure
  | [] => ("", none)
  | .error f :: _ => ("", some f)
  | .ok line :: lines =>
    let rest := printAll lines
    (line ++ "\n" ++ rest.1, rest.2)

def recordName : String := ".pti_checkpoint.jsonl"

def appendLine (text : Option String) (j : Json) : String :=
  text.getD "" ++ String.ofList (j.chars ++ ['\n'])

structure Findings where
  benches : Nat
  failures : List (String × Json)
  totals : Totals
  shares : ShareReport
  modified : List String
  judged : List Judged
  complaints : String

def Setting.found (s : Setting) (totals : Totals) (failures : List (String × Json)) : Findings :=
  let shares := sharesFrom (runIfThere s "_pti_repotime.py" s.shares)
  -- Changes are looked for only when the verdicts on benches are.
  let modified := modifiedFiles (runIfThere s "_pti_semcheck.py" s.git)
  let judged := judgedFrom (!modified.isEmpty) (runIfThere s "_pti_semcheck.py" s.checks)
  { benches := (s.file? "microbench.py").elim 0 countBenches
    failures
    totals
    shares := shares.1
    modified
    judged := judged.1
    complaints := shares.2 ++ judged.2 }

def Setting.findings (s : Setting) (report : Json) : Except Failure Findings := do
  let totals ← totalsOf report
  let failures ← failuresIn report
  return s.found totals failures

def Setting.seconds (s : Setting) : Double := s.ended.sub s.started

def Setting.checkpoint (s : Setting) (d : Findings) (round : Nat) (history : History) :
    Option Json :=
  (history.elapsed s.now).map fun elapsed =>
    checkpointOf round d.benches d.failures.length s elapsed (s.seconds.roundTo 3) d.totals
      d.shares.percents d.judged

def Setting.lines (s : Setting) (report : Json) (d : Findings) (round : Nat)
    (history : History) : List Line :=
  coverageTable report d.totals ++ (failureTable d.failures).map .ok ++ shareTable d.shares ++
    (modifiedTable d.modified ++ verdictTable d.judged ++
      ["", roundLine round d.benches d.totals d.shares.percents d.judged s.seconds] ++
      stopLines (stopAfter d.totals history.counts d.shares.percents)).map .ok

def Setting.round (s : Setting) (report : Json) : RoundResult :=
  let text := s.file? recordName
  match s.findings report with
  | .error f => { raised := some f, records := text }
  | .ok d =>
    let lines := recordLines text
    let round := lines.length + 1
    let read := History.read {} lines
    let checkpoint := if read.2 then s.checkpoint d round read.1 else none
    let report := printAll (s.lines report d round read.1)
    { raised := report.2, printed := report.1, complaints := d.complaints, checkpoint
      records := checkpoint.elim text fun j => some (appendLine text j) }

def Setting.report? (s : Setting) : Option Json :=
  match s.report with
  | some j => some j
  | none => (s.file? "_pti_coverage.json").bind Json.read?

end CodeLint.Measure
