import CodeLint.Proofs.OpenedFiles

/-!
Endless loops and the breaks that leave them. A break leaves the innermost loop in whose body it
stands, unless the body of a function or class comes first. A loop whose condition is the constant
`True` goes on for ever when no break leaves it. The check asks only whether a break stands anywhere
in the loop: it reports no loop that a break leaves, and passes over the loops in which every break
is one of another loop.
-/

namespace CodeLint.Lint

open CodeLint.Tree

def isLoop : Kind → Bool
  | .forLoop | .asyncFor | .whileLoop => true
  | _ => false

def isDefinition : Kind → Bool
  | .functionDef | .asyncFunctionDef | .classDef => true
  | _ => false

/-- The loop that a way up leaves by its body, before it leaves the body of a definition. -/
def loopLeft : List Spot → Option Spot
  | part :: whole :: above =>
    if part.standsIn .body whole && isLoop whole.node.kind then some whole
    else if part.standsIn .body whole && isDefinition whole.node.kind then none
    else loopLeft (whole :: above)
  | _ => none

def leftByBreak (n : Node) : Bool :=
  n.occurrences.any fun o =>
    o.node.kind == .breakStmt && (loopLeft (o.toSpot :: o.above)).any (·.position.isEmpty)

def loopsOnTrue (n : Node) : Bool :=
  n.kind == .whileLoop && constantIs isTrueValue ((Value.node n).part .test)

def endlessWhere (p : Node → Bool) (ns : List Node) : List Issue :=
  (ns.filter fun n => loopsOnTrue n && p n).map fun n => ⟨.endlessLoop, n.line?⟩

/-! ### The reports on loops -/

def Finding.isEndless (f : Finding) : Bool := f.code == "W0104"

theorem outright_isEndless : Outright Finding.isEndless :=
  ⟨fun _ => rfl, fun _ => rfl, fun _ => rfl, fun _ => rfl, fun _ => rfl, rfl⟩

def loopIssues (n : Node) : List Issue :=
  if loopsOnTrue n && !n.contains .breakStmt then [⟨.endlessLoop, n.line?⟩] else []

theorem endlessRecord_fills : (choiceRecord outright_isEndless).Fills loopIssues where
  on_enter above n := by
    have hbefore : Without Finding.isEndless (beforeReports n) := without_beforeReports n
    have hafter : Without Finding.isEndless (afterReports above n) :=
      without_afterReports (fun _ => rfl) (fun _ => rfl) fun _ => without_callEffects rfl above n
    change (entering above n).filterMap (Effect.issueIf Finding.isEndless) = loopIssues n
    rw [entering_eq, List.filterMap_append, List.filterMap_append, filterMap_without hbefore,
      filterMap_without hafter, List.nil_append, List.append_nil]
    by_cases hk : n.kind = .whileLoop
    · have hloop : loopsOnTrue n = constantIs isTrueValue ((Value.node n).part .test) := by
        simp [loopsOnTrue, hk]
      rw [localReports, hk, loopIssues, hloop]
      cases constantIs isTrueValue ((Value.node n).part .test) && !n.contains .breakStmt <;> rfl
    · have hlocal : Without Finding.isEndless (localReports n) :=
        without_localReports (fun f _ hf => hf) fun hloop => absurd hloop hk
      rw [filterMap_without hlocal]
      simp [loopIssues, loopsOnTrue, hk]
  on_leave n previous := filterMap_without (without_leaving n previous)

theorem flatMap_loopIssues (ns : List Node) :
    ns.flatMap loopIssues = endlessWhere (fun m => !m.contains .breakStmt) ns := by
  induction ns with
  | nil => rfl
  | cons n ns ih =>
    rw [List.flatMap_cons, ih, loopIssues, endlessWhere, endlessWhere, List.filter_cons]
    split <;> rfl

theorem contains_of_leftByBreak {n : Node} (h : leftByBreak n = true) :
    n.contains .breakStmt = true := by
  obtain ⟨o, ho, hleft⟩ := List.any_eq_true.mp h
  obtain ⟨hbreak, -⟩ := Bool.and_eq_true_iff.mp hleft
  exact List.any_eq_true.mpr ⟨o.node, mem_preorder_of_visited ho, hbreak⟩

/-- A loop on `True` is reported when it has no break in it. All reports are of loops that no break
leaves, and none of these is missing exactly when each loop on `True` with a break in it has one
that leaves it. -/
theorem endless_loops_reported {n : Node} (h : n.WellFormed) :
    (∃ a, analysis n = .ok a ∧
      a.withCode "W0104" = endlessWhere (fun m => !m.contains .breakStmt) n.preorder ∧
      (a.withCode "W0104").Sublist (endlessWhere (fun m => !leftByBreak m) n.preorder) ∧
      (a.withCode "W0104" = endlessWhere (fun m => !leftByBreak m) n.preorder ↔
        ∀ m ∈ n.preorder, loopsOnTrue m = true → m.contains .breakStmt = true →
          leftByBreak m = true)) ∧
    ∀ above m a b, Runs (enter above m) a () b →
      b.withCode "W0104" = a.withCode "W0104" ++
        if loopsOnTrue m && !m.contains .breakStmt then [⟨.endlessLoop, m.line?⟩] else [] := by
  have hnever : ∀ m : Node, (loopsOnTrue m && !m.contains .breakStmt) = true →
      (loopsOnTrue m && !leftByBreak m) = true := by
    intro m hm
    cases hleft : leftByBreak m with
    | false => simpa using (Bool.and_eq_true_iff.mp hm).1
    | true => simp [contains_of_leftByBreak hleft] at hm
  constructor
  · obtain ⟨b, hb, ha⟩ := analysis_eq h
    have hview := endlessRecord_fills.view_visit h.2.plain hb
    rw [foldl_concat, flatMap_loopIssues] at hview
    have hreported : b.reportUnused.withCode "W0104" =
        endlessWhere (fun m => !m.contains .breakStmt) n.preorder :=
      (chosen_reportUnused outright_isEndless b).trans hview
    refine ⟨_, ha, hreported, ?_, ?_⟩
    · rw [hreported]
      refine List.Sublist.map _ ?_
      rw [← filter_filter_of_imp fun m _ => hnever m]
      exact List.filter_sublist
    · rw [hreported, eq_comm, endlessWhere, endlessWhere, map_filter_eq_iff _ fun m _ => hnever m]
      refine forall₂_congr fun m _ => ?_
      cases loopsOnTrue m <;> cases leftByBreak m <;> simp
  · intro above m a b hrun
    have hview := endlessRecord_fills.view_enter hrun
    rw [foldl_concat] at hview
    exact hview

/-- A loop left by a break in the else-branch of a loop inside it, and one that goes on for ever. -/
def leftFromElse : Node :=
  treeOf "while True:\n for x in y:\n  z\n else:\n  break\nwhile True:\n if x:\n  y\n"

theorem endless_loops_reported_leftFromElse :
    leftFromElse.WellFormed ∧ ∃ a, analysis leftFromElse = .ok a ∧
      a.withCode "W0104" = [⟨.endlessLoop, some 6⟩] ∧
      a.withCode "W0104" = endlessWhere (fun m => !leftByBreak m) leftFromElse.preorder := by
  have hevaluated : leftFromElse.WellFormed ∧
      endlessWhere (fun m => !m.contains .breakStmt) leftFromElse.preorder =
        [⟨.endlessLoop, some 6⟩] ∧
      ∀ m ∈ leftFromElse.preorder, loopsOnTrue m = true → m.contains .breakStmt = true →
        leftByBreak m = true := by
    decide +kernel
  obtain ⟨hformed, hissues, hleft⟩ := hevaluated
  obtain ⟨a, ha, hreported, -, hiff⟩ := (endless_loops_reported hformed).1
  exact ⟨hformed, a, ha, hreported.trans hissues, hiff.mpr hleft⟩

def leftInside : Node :=
  treeOf "while True:\n    for x in y:\n        break\n"

theorem endless_loop_passed_over :
    leftInside.WellFormed ∧
      endlessWhere (fun m => !leftByBreak m) leftInside.preorder = [⟨.endlessLoop, some 1⟩] ∧
      ∃ a, analysis leftInside = .ok a ∧ a.withCode "W0104" = [] := by
  have hevaluated : leftInside.WellFormed ∧
      endlessWhere (fun m => !leftByBreak m) leftInside.preorder = [⟨.endlessLoop, some 1⟩] ∧
      ((analysis leftInside).map fun a => a.withCode "W0104") = .ok [] := by
    decide +kernel
  obtain ⟨hformed, hendless, hissues⟩ := hevaluated
  cases ha : analysis leftInside with
  | error e =>
    rw [ha] at hissues
    cases hissues
  | ok a =>
    rw [ha] at hissues
    exact ⟨hformed, hendless, a, rfl, Except.ok.inj hissues⟩

end CodeLint.Lint
