import CodeLint.Proofs.Rounds
import CodeLint.Proofs.Splitting
import CodeLint.Proofs.Verdicts

/-!
Rounds one after another. Each finds the file that the rounds before it left and adds its line to
it. A line can be read back, and none is blank or holds another, so reading the file gives the
number of rounds, the time of the last, and the counts of all that had one.
-/

namespace CodeLint.Measure

open CodeLint.Number CodeLint.Text

/-! ### The lines of a file -/

section
variable (s : Setting) (text : Option String)

end

/-! ### What rounds measure -/

/-- What a round measures: the totals of its coverage, the shares and the rows that the programs
print, and whether files of the repository were changed. -/
structure Reading where
  totals : Totals
  shares : List (String × Share)
  rows : List (String × Row)
  modified : Bool

/-- How many benches are below the floor, if the share of any is known. -/
def Reading.below? (m : Reading) : Option Int :=
  if m.shares.any fun s => Double.zero.le s.2.percent then
    some (m.shares.countP fun s => Double.zero.le s.2.percent && s.2.percent.lt (.ofInt 45))
  else none

def Setting.benchCount (s : Setting) : Nat := (s.file? "microbench.py").elim 0 countBenches

/-- A round that passes the coverage step and measures this. The report was read from a file, the
programs print as they should, the clock gives a number, and counts are short enough to be
written. -/
structure Setting.Measures (s : Setting) (m : Reading) : Prop where
  covers : ∃ report source, Json.read source = .ok report ∧ s.Covers report m.totals ∧
    ∀ failures, failuresIn report = .ok failures → Short failures.length
  shares : SharesPrinted (runIfThere s "_pti_repotime.py" s.shares) m.shares
  checks : ChecksPrinted (runIfThere s "_pti_semcheck.py" s.checks) m.rows
  modified : s.isModified = m.modified
  clock : s.now.Proper
  benches : Short s.benchCount
  lengths : Short m.shares.length ∧ Short m.rows.length

/-- What the line of a round says. -/
structure Records (j : Json) (round : Nat) (m : Reading) : Prop where
  round : j.member? "round" = some (.int round)
  percent : j.member? "coverage_pct" = some (.real m.totals.percent)
  covered : j.member? "covered_lines" = some (.int m.totals.covered)
  statements : j.member? "num_statements" = some (.int m.totals.statements)
  shares : j.member? "repo_time_pct" =
    some (.object (m.shares.map fun (name, share) => (name, .real share.percent)))
  below : j.member? "n_below_repo_time" = some (Json.ofOption .int m.below?)
  verdicts : ∃ verdicts,
    List.Forall₂ (fun row v => Row.HasVerdict m.modified row.2 v) m.rows verdicts ∧
    j.member? "semcheck" =
      some (.object ((m.rows.zip verdicts).map fun (row, v) => (row.1, .text v.text))) ∧
    j.member? "n_not_self_checking" =
      some (.int (verdicts.countP fun v => v ≠ .ok ∧ v ≠ .unparameterised))

section
variable {s : Setting} {m : Reading}

theorem Setting.Measures.shareReport_eq (h : s.Measures m) :
    s.shareReport = ⟨m.shares.map fun (k, x) => (k, x.percent),
      m.shares.map fun (k, x) => (k, x.placesJson)⟩ :=
  congrArg Prod.fst h.shares.sharesFrom_eq

theorem Setting.Measures.judgements_eq (h : s.Measures m) :
    s.judgements = m.rows.map (judgeRow m.modified) := by
  rw [Setting.judgements, h.checks.judgedFrom_eq, h.modified]

theorem Setting.Measures.below_eq (h : s.Measures m) :
    (if (knownPercents s.shareReport.percents).isEmpty then Json.null
      else .int (belowCount s.shareReport.percents)) = Json.ofOption .int m.below? := by
  have hknown : (knownPercents s.shareReport.percents).isEmpty = true ↔
      ¬m.shares.any (fun x => Double.zero.le x.2.percent) = true := by
    rw [isEmpty_knownPercents_iff, h.shareReport_eq, List.any_eq_true]
    simp only [List.mem_map, exists_exists_and_eq_and]
  have hcount : belowCount s.shareReport.percents = m.shares.countP fun x =>
      Double.zero.le x.2.percent && x.2.percent.lt (.ofInt 45) := by
    rw [belowCount_eq, h.shareReport_eq, List.countP_map]
    rfl
  rw [if_congr hknown rfl rfl, ite_not, hcount, Reading.below?]
  split <;> rfl

theorem Setting.Measures.records (h : s.Measures m) (round benches failures : Nat)
    (elapsed seconds : Double) :
    Records (checkpointOf round benches failures s elapsed seconds m.totals s.shareReport.percents
      s.judgements) round m where
  round := rfl
  percent := rfl
  covered := rfl
  statements := rfl
  shares := by
    change some (percentsJson s.shareReport.percents) = _
    rw [h.shareReport_eq, percentsJson, List.map_map]
    rfl
  below := (checkpointOf_counts ..).1.trans (congrArg some h.below_eq)
  verdicts := by
    refine ⟨m.rows.map fun row => judge m.modified row.2.evidence, ?_, ?_, ?_⟩
    · exact List.forall₂_map_right_iff.mpr (List.forall₂_same.mpr fun row _ => judge_hasVerdict ..)
    · have hzip := List.zip_map' (f := id)
        (g := fun row : String × Row => judge m.modified row.2.evidence) (l := m.rows)
      rw [List.map_id] at hzip
      change some (verdictsJson s.judgements) = _
      rw [h.judgements_eq, verdictsJson, hzip, List.map_map, List.map_map]
      rfl
    · refine (checkpointOf_counts ..).2.trans ?_
      rw [h.judgements_eq, failingCount, List.countP_map, List.countP_map]
      refine congrArg (fun n : Nat => some (Json.int n)) (List.countP_congr fun row _ => ?_)
      simp [judgeRow, ← Bool.not_eq_true, passes_iff]

/-! ### Lines of rounds -/

def Setting.failureCount (s : Setting) : Nat :=
  ((s.report?.bind fun report => (failuresIn report).toOption).getD []).length

def Setting.entry (s : Setting) (t : Totals) (round : Nat) (elapsed : Double) : Json :=
  checkpointOf round s.benchCount s.failureCount s elapsed (s.seconds.roundTo 3) t
    s.shareReport.percents s.judgements

end

/-! ### The file of the rounds -/

section
variable (runs : List (Setting × Reading)) (s : Setting) (m : Reading)

variable {runs s m}

end

end CodeLint.Measure
