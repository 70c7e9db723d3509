import CodeLint.Proofs.Visibility

/-!
Undefined names. A traversal keeps track of the names that are visible, so that it reports a use of
a name exactly where nothing before it in the tree provides the name.
-/

namespace CodeLint.Lint

open CodeLint.Tree

variable {n : Node} {seen later : List Occurrence} {o u : Occurrence} {a b : Analysis}

/-- What is written is written to the scope around or to the scope that the node has opened. -/
theorem scope_of_mem_writes {v : Write} (hv : v ∈ o.writes) :
    v.2 = some o.position ∨ v.2 = o.scope := by
  unfold Occurrence.writes at hv
  split at hv
  · obtain ⟨x, -, rfl⟩ := List.mem_map.mp hv
    exact .inl rfl
  · obtain ⟨m, -, rfl⟩ := List.mem_map.mp hv
    exact .inl rfl
  · obtain ⟨m, -, rfl⟩ := List.mem_map.mp hv
    exact .inr rfl
  · split at hv
    · rw [List.mem_singleton.mp hv]
      exact .inr rfl
    · cases hv
  · cases hv

theorem precedes_of_mem_openScopes {q : List Nat} (ho : o ∈ n.occurrences)
    (hq : q ∈ openScopes o.above) : Precedes q o.position := by
  obtain ⟨s, hs, rfl⟩ := List.mem_map.mp hq
  exact above_precedes ho s (List.mem_filter.mp hs).1

theorem ne_position_of_mem_writes (h : n.occurrences = seen ++ o :: later) {v : Write}
    (hv : v ∈ seen.flatMap Occurrence.writes) : v.2 ≠ some o.position := by
  obtain ⟨u, hu, hv⟩ := List.mem_flatMap.mp hv
  obtain ⟨hmem, hprecedes⟩ := (mem_seen_iff h).mp hu
  intro hposition
  -- Only the node itself and the nodes below it write to its scope, and neither comes before it.
  rcases scope_of_mem_writes hv with hown | hscope
  · rw [hown] at hposition
    rw [Option.some.inj hposition] at hprecedes
    exact not_precedes_self _ hprecedes
  · have hopen : o.position ∈ openScopes u.above :=
      List.mem_of_head? (hscope.symm.trans hposition)
    exact not_precedes_self _ ((precedes_of_mem_openScopes hmem hopen).trans hprecedes)

def undefinedIssue (u : Occurrence) : Issue := ⟨.undefinedVariable u.node.ident, u.node.line?⟩

/-- The analysis knows the names bound so far, and has reported the undefined ones among the uses
so far. -/
def UndefinedSoFar (n : Node) : Invariant := fun seen spots a =>
  Tracks (seen.flatMap Occurrence.writes) (seen.flatMap (·.node.lastingNames))
      (openScopes spots) a ∧
    a.withCode "E0602" = (seen.filter fun u => u.Undefined n).map undefinedIssue

theorem isDefined_iff_provides (h : n.occurrences = seen ++ o :: later)
    (ht : Tracks (seen.flatMap Occurrence.writes) (seen.flatMap (·.node.lastingNames))
      (openScopes o.above) a) {x : String} :
    a.isDefined x = true ↔ isBuiltIn x = true ∨
      ∃ u ∈ n.occurrences, Precedes u.position o.position ∧ u.Provides o x := by
  rw [ht.isDefined_iff]
  simp only [List.mem_flatMap]
  constructor
  · rintro (hx | ⟨u, hu, hx⟩ | ⟨u, hu, hx⟩ | ⟨q, hq, u, hu, hx⟩)
    · exact .inl hx
    · obtain ⟨hmem, hprecedes⟩ := (mem_seen_iff h).mp hu
      exact .inr ⟨u, hmem, hprecedes, .inl hx⟩
    · obtain ⟨hmem, hprecedes⟩ := (mem_seen_iff h).mp hu
      exact .inr ⟨u, hmem, hprecedes, .inr (.inl hx)⟩
    · obtain ⟨hmem, hprecedes⟩ := (mem_seen_iff h).mp hu
      exact .inr ⟨u, hmem, hprecedes, .inr (.inr ⟨q, hq, hx⟩)⟩
  · rintro (hx | ⟨u, hmem, hprecedes, hx⟩)
    · exact .inl hx
    · have hu : u ∈ seen := (mem_seen_iff h).mpr ⟨hmem, hprecedes⟩
      rcases hx with hx | hx | ⟨q, hq, hx⟩
      · exact .inr (.inl ⟨u, hu, hx⟩)
      · exact .inr (.inr (.inl ⟨u, hu, hx⟩))
      · exact .inr (.inr (.inr ⟨q, hq, u, hu, hx⟩))

theorem undefined_iff (h : n.occurrences = seen ++ o :: later)
    (ht : Tracks (seen.flatMap Occurrence.writes) (seen.flatMap (·.node.lastingNames))
      (openScopes o.above) a) :
    o.Undefined n ↔ o.node.isLoad = true ∧ a.isDefined o.node.ident = false := by
  rw [← Bool.not_eq_true (a.isDefined _), isDefined_iff_provides h ht, Occurrence.Undefined,
    not_or, Bool.not_eq_true]
  simp only [not_exists, not_and]

theorem aboutUse_of_undefined {f : Finding} (hf : f.code = "E0602") : f.aboutUse = true := by
  cases f with
  | undefinedVariable | note => rfl
  | _ => simp [Finding.code] at hf

theorem withCode_principal (a : Analysis) (n : Node) :
    (a.after (principal n)).withCode "E0602" = a.withCode "E0602" ++
      if n.isLoad = true ∧ a.isDefined n.ident = false then
        [⟨.undefinedVariable n.ident, n.line?⟩] else [] := by
  rw [Analysis.withCode, issues_principal, List.filter_append, Analysis.withCode]
  congr 1
  split <;> rfl

theorem withCode_principalLeave (a : Analysis) (n : Node) (previous : ScopeRef) :
    (a.after (principalLeave n previous)).withCode "E0602" = a.withCode "E0602" := by
  have himports : a.unusedImports.filter (·.finding.code == "E0602") = [] := by
    refine List.filter_eq_nil_iff.mpr fun i hi => ?_
    obtain ⟨e, -, rfl⟩ := List.mem_map.mp hi
    simp [Finding.code]
  rw [Analysis.withCode, issues_principalLeave, List.filter_append, Analysis.withCode]
  refine List.append_right_eq_self.mpr ?_
  split
  · exact himports
  · rfl

theorem undefinedSoFar_keeps
    (hmodule : ∀ o ∈ n.occurrences, o.node.kind = .program → o.above = []) :
    Keeps n.occurrences (UndefinedSoFar n) where
  enter := by
    intro seen o later a h hI
    obtain ⟨ht, hissues⟩ := hI
    have ho : o ∈ n.occurrences := by simp [h]
    have hagrees := entering_agrees a (o.above.map Spot.link) o.node
    have hscope : o.position ∉ openScopes o.above :=
      fun hq => not_precedes_self _ (precedes_of_mem_openScopes ho hq)
    have hentered := ht.principal (hmodule o ho) hscope fun v hv => ne_position_of_mem_writes h hv
    refine ⟨?_, ?_⟩
    · simp only [List.flatMap_append, List.flatMap_singleton]
      exact hentered.of_agrees hagrees
    · rw [← hagrees.withCode fun f => aboutUse_of_undefined, withCode_principal, hissues,
        List.filter_append, List.map_append]
      congr 1
      by_cases hu : o.Undefined n
      · rw [if_pos ((undefined_iff h ht).mp hu), List.filter_cons_of_pos (by simp [hu])]
        rfl
      · rw [if_neg fun hload => hu ((undefined_iff h ht).mpr hload),
          List.filter_cons_of_neg (by simp [hu])]
        rfl
  leave := by
    intro first seen o a c _ hfirst hI
    obtain ⟨ht, hissues⟩ := hI
    have hagrees := leaving_agrees c o.node a.current
    refine ⟨(ht.principalLeave hfirst.1.current).of_agrees hagrees, ?_⟩
    rw [← hagrees.withCode fun f => aboutUse_of_undefined, withCode_principalLeave, hissues]

/-- In a tree with no module below its root, the undefined names are reported in the order of the
traversal, one issue for each use of a name that no binding before it makes visible. -/
theorem undefined_names_reported {n : Node} {a : Analysis}
    (hmodule : ∀ o ∈ n.occurrences, o.node.kind = .program → o.above = [])
    (h : Runs (visit [] n) {} () a) :
    a.withCode "E0602" = (n.occurrences.filter fun u => u.Undefined n).map undefinedIssue :=
  (invariant_of_visit (undefinedSoFar_keeps hmodule) h ⟨Tracks.fresh, rfl⟩).2

def usedAfterLoop : Node := treeOf "def f(a):\n    for i in a:\n        x = i\n    return x\n"

theorem undefined_names_reported_usedAfterLoop :
    ((visit [] usedAfterLoop).apply {}).1.isOk = true ∧
    (∀ o ∈ usedAfterLoop.occurrences, o.node.kind = .program → o.above = []) ∧
    ((visit [] usedAfterLoop).apply {}).2.withCode "E0602" =
      [⟨.undefinedVariable "x", some 4⟩] := by
  have hevaluated : ((visit [] usedAfterLoop).apply {}).1.isOk = true ∧
      (∀ o ∈ usedAfterLoop.occurrences, o.node.kind = .program → o.above = []) ∧
      (usedAfterLoop.occurrences.filter fun u => u.Undefined usedAfterLoop).map undefinedIssue =
        [⟨.undefinedVariable "x", some 4⟩] := by
    decide +kernel
  obtain ⟨hok, hmodule, hissues⟩ := hevaluated
  refine ⟨hok, hmodule, ?_⟩
  rw [undefined_names_reported hmodule (runs_of_isOk hok), hissues]

end CodeLint.Lint
