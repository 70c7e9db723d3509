import CodeLint.Measure.Report
import Mathlib.Data.List.Basic
import Mathlib.Data.List.Induction

/-!
When rounds stop. The scan over the counts keeps the best so far and how many counts came since it
was first reached. So it ends with the minimum and the number of counts behind the first place of
the minimum, and the last three counts bring nothing new just when an earlier one is as good as
each.
-/

namespace CodeLint.Measure

open CodeLint.Number

variable {ns : List Int} {n best : Int}

theorem progress_concat (ns : List Int) (n : Int) :
    progress (ns ++ [n]) = some (Progress.step (progress ns) n) := by
  rw [progress, List.foldl_append]
  rfl

/-- The scan ends with the minimum and with what came behind its first place. -/
theorem progress_eq (hne : ns ≠ []) :
    ∃ best, ns.min? = some best ∧
      progress ns = some ⟨best, ns.length - 1 - ns.idxOf best⟩ := by
  induction ns using List.reverseRecOn with
  | nil => exact absurd rfl hne
  | append_singleton ns n ih =>
    by_cases hns : ns = []
    · subst hns
      exact ⟨n, rfl, by simp [progress, Progress.step]⟩
    · obtain ⟨best, hmin, hprogress⟩ := ih hns
      obtain ⟨hmem, hle⟩ := List.min?_eq_some_iff.mp hmin
      rw [progress_concat, hprogress, Progress.step]
      by_cases hn : n < best
      · -- A new minimum cannot have come before.
        have hnew : n ∉ ns := fun h => absurd (hle n h) (Int.not_le.mpr hn)
        refine ⟨n, List.min?_eq_some_iff.mpr ⟨by simp, fun m hm => ?_⟩, ?_⟩
        · rcases List.mem_append.mp hm with hm | hm
          · exact Int.le_of_lt (Int.lt_of_lt_of_le hn (hle m hm))
          · exact Int.le_of_eq (List.mem_singleton.mp hm).symm
        · rw [if_pos hn, List.idxOf_append_of_notMem hnew]
          simp
      · refine ⟨best, List.min?_eq_some_iff.mpr ⟨List.mem_append_left _ hmem, fun m hm => ?_⟩, ?_⟩
        · rcases List.mem_append.mp hm with hm | hm
          · exact hle m hm
          · rw [List.mem_singleton.mp hm]
            exact Int.not_lt.mp hn
        · have hplace := List.idxOf_lt_length_of_mem hmem
          have hsince : ns.length - 1 - ns.idxOf best + 1 = ns.length + 1 - 1 - ns.idxOf best := by
            omega
          rw [if_neg hn, List.idxOf_append_of_mem hmem, List.length_append, List.length_singleton,
            ← hsince]

/-- None of the last three counts is better than the best before them. -/
def Stale (ns : List Int) : Prop :=
  4 ≤ ns.length ∧ ∀ x ∈ ns.drop (ns.length - 3), ∀ m ∈ (ns.take (ns.length - 3)).min?, m ≤ x

instance (ns : List Int) : Decidable (Stale ns) := inferInstanceAs (Decidable (_ ∧ _))

theorem since_iff_stale (hmin : ns.min? = some best) :
    patience ≤ ns.length - 1 - ns.idxOf best ↔ Stale ns := by
  obtain ⟨hmem, hle⟩ := List.min?_eq_some_iff.mp hmin
  have hfront : best ∈ ns.take (ns.length - 3) ↔ ns.idxOf best < ns.length - 3 :=
    List.mem_take_iff_idxOf_lt hmem
  constructor
  · intro hsince
    have hplace : ns.idxOf best < ns.length - 3 := by
      unfold patience at hsince
      omega
    refine ⟨by omega, fun x hx m hm => ?_⟩
    exact Int.le_trans ((List.min?_eq_some_iff.mp hm).2 best (hfront.mpr hplace))
      (hle x (List.mem_of_mem_drop hx))
  · rintro ⟨hlength, hlast⟩
    have hbefore : best ∈ ns.take (ns.length - 3) := by
      rw [← List.take_append_drop (ns.length - 3) ns] at hmem
      rcases List.mem_append.mp hmem with h | h
      · exact h
      · -- The best of the others is no better than the minimum, and so it is the minimum.
        have hne : ns.take (ns.length - 3) ≠ [] := by
          rw [← List.length_pos_iff, List.length_take]
          omega
        obtain ⟨m, hm⟩ := Option.isSome_iff_exists.mp (List.isSome_min?_of_ne_nil hne)
        obtain ⟨hmfront, -⟩ := List.min?_eq_some_iff.mp hm
        have hsame : m = best :=
          Int.le_antisymm (hlast best h m hm) (hle m (List.mem_of_mem_take hmfront))
        exact hsame ▸ hmfront
    have hplace := hfront.mp hbefore
    unfold patience
    omega

theorem stopFor_eq (hmin : (ns ++ [n]).min? = some best) (hn : n ≠ 0) :
    stopFor ns n =
      if Stale (ns ++ [n]) then
        some (.noImprovement ((ns ++ [n]).length - 1 - (ns ++ [n]).idxOf best) best)
      else none := by
  have hne : ns ++ [n] ≠ [] := by simp
  obtain ⟨best', hmin', hprogress⟩ := progress_eq hne
  rw [hmin] at hmin'
  cases hmin'
  rw [stopFor, if_neg hn, hprogress]
  by_cases hstale : Stale (ns ++ [n])
  · simp only [if_pos hstale, if_pos ((since_iff_stale hmin).mpr hstale)]
  · simp only [if_neg hstale, if_neg (mt (since_iff_stale hmin).mp hstale)]

/-- The scan finds the minimum and what came behind its first place. With the share of some bench
known and enough covered, the rounds end when no bench is below the floor, or when the last three
counts bring nothing better than there was before them, and there is no other end. -/
theorem rounds_stop (earlier : List Int) (t : Totals) (percents : List (String × Double)) :
    (∀ n, ∃ best, (earlier ++ [n]).min? = some best ∧ progress (earlier ++ [n]) =
      some ⟨best, (earlier ++ [n]).length - 1 - (earlier ++ [n]).idxOf best⟩) ∧
    let counts := earlier ++ [(belowCount percents : Int)]
    let printed := stopLines (stopAfter t earlier percents)
    let goal := (∃ p ∈ percents, Double.zero.le p.2 = true) ∧ coverageGoal.le t.percent = true
    (goal → belowCount percents = 0 → printed =
      ["", ">>> STOP: repo_time converged (0 below). Finalize microbench.py now. <<<"]) ∧
    (goal → belowCount percents ≠ 0 → Stale counts → ∃ best, counts.min? = some best ∧ printed =
      ["", ">>> STOP: repo_time converged (" ++ ("no improvement in " ++
        toString (counts.length - 1 - counts.idxOf best) ++ " rounds; best " ++ toString best ++
        " below") ++ "). Finalize microbench.py now. <<<"]) ∧
    (goal → belowCount percents ≠ 0 → ¬ Stale counts → printed = []) ∧
    (¬ goal → printed = []) := by
  have hknown : (!(knownPercents percents).isEmpty) = true ↔
      ∃ p ∈ percents, Double.zero.le p.2 = true := by
    simp [knownPercents, isKnown]
  have hstop (hsome : ∃ p ∈ percents, Double.zero.le p.2 = true)
      (hgoal : coverageGoal.le t.percent = true) :
      stopAfter t earlier percents = stopFor earlier (belowCount percents) := by
    rw [stopAfter, if_pos (Bool.and_eq_true_iff.mpr ⟨hknown.mpr hsome, hgoal⟩)]
  have hne (n : Int) : earlier ++ [n] ≠ [] := by simp
  obtain ⟨best, hmin, -⟩ := progress_eq (hne (belowCount percents))
  refine ⟨fun n => progress_eq (hne n), ?_⟩
  refine ⟨fun h h0 => ?_, fun h h0 hstale => ⟨best, hmin, ?_⟩, fun h h0 hstale => ?_, fun h => ?_⟩
  · rw [hstop h.1 h.2, h0]
    rfl
  · rw [hstop h.1 h.2, stopFor_eq hmin (by exact_mod_cast h0), if_pos hstale]
    rfl
  · rw [hstop h.1 h.2, stopFor_eq hmin (by exact_mod_cast h0), if_neg hstale]
    rfl
  · have hfalse : (!(knownPercents percents).isEmpty && coverageGoal.le t.percent) = false := by
      rw [Bool.eq_false_iff]
      intro hboth
      obtain ⟨hsome, hgoal⟩ := Bool.and_eq_true_iff.mp hboth
      exact h ⟨hknown.mp hsome, hgoal⟩
    rw [stopAfter, hfalse]
    rfl

end CodeLint.Measure
