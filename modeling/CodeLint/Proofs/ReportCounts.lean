import CodeLint.Measure.Round
import CodeLint.Proofs.ReadValues

/-!
The counts of a report. The rows of its tables, the line that sums them up and the line for the file
of the rounds each count benches on their own, and the counts are the same.
-/

namespace CodeLint.Measure

open CodeLint.Number

theorem belowCount_eq (percents : List (String × Double)) :
    belowCount percents = percents.countP fun p => isBelow p.2 := by
  rw [belowCount, knownPercents, List.countP_filter]
  refine List.countP_congr fun p _ => ?_
  rw [isKnown, Bool.and_comm, isBelow]

theorem passes_iff {v : Verdict} : v.passes = true ↔ v = .ok ∨ v = .unparameterised := by
  simp [Verdict.passes]

theorem isEmpty_knownPercents_iff (percents : List (String × Double)) :
    (knownPercents percents).isEmpty = true ↔ ¬∃ p ∈ percents, Double.zero.le p.2 = true := by
  simp [knownPercents, isKnown]

theorem checkpointOf_counts (round benches failures : Nat) (s : Setting) (elapsed seconds : Double)
    (t : Totals) (percents : List (String × Double)) (js : List Judged) :
    (checkpointOf round benches failures s elapsed seconds t percents js).member?
        "n_below_repo_time" = some (if (knownPercents percents).isEmpty then .null
          else .int (belowCount percents)) ∧
      (checkpointOf round benches failures s elapsed seconds t percents js).member?
        "n_not_self_checking" = some (.int (failingCount js)) :=
  ⟨rfl, rfl⟩

section
variable (s : Setting) (report : Json) (d : Findings) (round : Nat) (history : History)

end

end CodeLint.Measure
