import CodeLint.Proofs.LocalChecks

/-!
Files opened by a call. A file is managed when the call that opens it stands in the context of an
item of a `with` statement. Above such a call comes the item before the statement, and the check
compares the items' contexts with what stands directly below the statement. So it takes no call for
managed, and every call that opens a file is reported, in the order of the calls.
-/

namespace CodeLint.Lint

open CodeLint.Tree

def opensFile (n : Node) : Bool :=
  n.kind == .call && ((Value.node n).part .callee).isKind .name &&
    ((Value.node n).part .callee).textAt .ident == "open"

def fileIssue (n : Node) : Issue := ⟨.unmanagedFile, n.line?⟩

def childLabels (n : Node) : List Label :=
  n.fields.flatMap fun f => f.value.nodes.map fun _ => f.label

def Spot.standsIn (s : Spot) (l : Label) (parent : Spot) : Bool :=
  (childLabels parent.node)[s.position.getLastD 0]? == some l

/-- Whether a way up leads out of the context of an item of a `with` statement. -/
def leavesContext : List Spot → Bool
  | context :: item :: statement :: above =>
    (statement.node.kind == .withStmt && item.standsIn .items statement &&
      context.standsIn .contextExpr item) || leavesContext (item :: statement :: above)
  | _ => false

def Occurrence.managed (o : Occurrence) : Bool := leavesContext (o.toSpot :: o.above)

/-! ### The reports on calls -/

def Finding.isFile (f : Finding) : Bool := f.code == "W6001"

theorem outright_isFile : Outright Finding.isFile :=
  ⟨fun _ => rfl, fun _ => rfl, fun _ => rfl, fun _ => rfl, fun _ => rfl, rfl⟩

/-- A traversal reaches a node by its parents alone, which lead down by no item. -/
theorem not_managed_links (spots : List Spot) : managed (spots.map Spot.link) = false := by
  induction spots with
  | nil => rfl
  | cons s spots ih =>
    rw [managed] at ih ⊢
    rw [List.map_cons, List.any_cons, ih, Spot.link]
    simp

theorem callEffects_file {n : Node} (hcall : n.kind = .call) (spots : List Spot) :
    (callEffects (spots.map Spot.link) n).filterMap (Effect.issueIf Finding.isFile) =
      if opensFile n then [fileIssue n] else [] := by
  simp only [callEffects, opensFile, hcall, not_managed_links, BEq.rfl, Bool.true_and,
    Bool.not_false, Bool.and_true]
  cases hname : ((Value.node n).part .callee).isKind .name with
  | true =>
    cases hopen : ((Value.node n).part .callee).textAt .ident == "open" with
    | true => rfl
    | false => rfl
  | false =>
    simp only [Bool.false_eq_true, if_false, Bool.false_and]
    split <;> rfl

theorem entering_file (spots : List Spot) (n : Node) :
    (entering (spots.map Spot.link) n).filterMap (Effect.issueIf Finding.isFile) =
      if opensFile n then [fileIssue n] else [] := by
  have hbefore : Without Finding.isFile (beforeReports n) := without_beforeReports n
  have hlocal : Without Finding.isFile (localReports n) :=
    without_localReports (fun f hf _ => code_of_isLocal hf rfl) fun _ => rfl
  rw [entering_eq, List.filterMap_append, List.filterMap_append, filterMap_without hbefore,
    filterMap_without hlocal, List.nil_append, List.nil_append]
  by_cases hcall : n.kind = .call
  · rw [show afterReports (spots.map Spot.link) n = callEffects (spots.map Spot.link) n by
      simp only [afterReports, hcall]]
    exact callEffects_file hcall spots
  · have hafter : Without Finding.isFile (afterReports (spots.map Spot.link) n) :=
      without_afterReports (fun _ => rfl) (fun _ => rfl) fun h => (hcall h).elim
    rw [filterMap_without hafter, opensFile, beq_eq_false_iff_ne.mpr hcall]
    rfl

/-! ### The reports of an analysis -/

def openedWhere (p : Occurrence → Bool) (os : List Occurrence) : List Issue :=
  (os.filter fun o => opensFile o.node && p o).map fun o => fileIssue o.node

theorem fileIssues_keeps (all : List Occurrence) :
    Keeps all fun seen _ a => a.chosen Finding.isFile = openedWhere (fun _ => true) seen where
  enter seen o later a _ ha := by
    rw [chosen_after outright_isFile, ha, entering_file, openedWhere, openedWhere,
      List.filter_append, List.map_append]
    cases hopens : opensFile o.node with
    | true => simp [hopens]
    | false => simp [hopens]
  leave first seen o a c _ _ hc := by
    rw [chosen_after outright_isFile, filterMap_without (without_leaving o.node a.current), hc,
      List.append_nil]

section Choices

variable {α β : Type} {p q : α → Bool} {xs : List α}

theorem filter_filter_of_imp (h : ∀ x ∈ xs, p x = true → q x = true) :
    (xs.filter q).filter p = xs.filter p := by
  rw [List.filter_filter]
  refine List.filter_congr fun x hx => ?_
  cases hp : p x with
  | true => rw [h x hx hp, Bool.and_true]
  | false => rfl

theorem map_filter_eq_iff (f : α → β) (h : ∀ x ∈ xs, p x = true → q x = true) :
    (xs.filter q).map f = (xs.filter p).map f ↔ ∀ x ∈ xs, q x = true → p x = true := by
  rw [← filter_filter_of_imp h]
  constructor
  · intro heq x hx hqx
    have hlength := congrArg List.length heq
    rw [List.length_map, List.length_map] at hlength
    exact List.length_filter_eq_length_iff.mp hlength.symm x (List.mem_filter.mpr ⟨hx, hqx⟩)
  · intro hall
    have hself : (xs.filter q).filter p = xs.filter q := by
      refine List.filter_eq_self.mpr fun x hx => ?_
      obtain ⟨hmem, hqx⟩ := List.mem_filter.mp hx
      exact hall x hmem hqx
    rw [hself]

end Choices

theorem openedWhere_eq_iff (p : Occurrence → Bool) (os : List Occurrence) :
    openedWhere (fun _ => true) os = openedWhere p os ↔
      ∀ o ∈ os, opensFile o.node = true → p o = true := by
  rw [openedWhere, openedWhere, map_filter_eq_iff _ fun o _ ho => by simp_all]
  simp +contextual

/-- Every call that opens a file is reported, at its line and in order. The reports are those of the
calls that are not managed exactly when no managed call opens a file. -/
theorem opened_files_reported {n : Node} (h : n.WellFormed) :
    ∃ a, analysis n = .ok a ∧ a.withCode "W6001" = openedWhere (fun _ => true) n.occurrences ∧
      (a.withCode "W6001" = openedWhere (fun o => !o.managed) n.occurrences ↔
        ∀ o ∈ n.occurrences, opensFile o.node = true → o.managed = false) := by
  obtain ⟨b, hb, ha⟩ := analysis_eq h
  have hvisit := invariant_of_visit (fileIssues_keeps n.occurrences) hb rfl
  have hreported : b.reportUnused.withCode "W6001" = openedWhere (fun _ => true) n.occurrences :=
    (chosen_reportUnused outright_isFile b).trans hvisit
  refine ⟨_, ha, hreported, ?_⟩
  rw [hreported, openedWhere_eq_iff]
  simp only [Bool.not_eq_true']

def openedBelow : Node :=
  treeOf "with lock:\n if open(a):\n  g(open(b))\n"

theorem opened_files_reported_openedBelow :
    openedBelow.WellFormed ∧ ∃ a, analysis openedBelow = .ok a ∧
      a.withCode "W6001" = [⟨.unmanagedFile, some 2⟩, ⟨.unmanagedFile, some 3⟩] ∧
      a.withCode "W6001" = openedWhere (fun o => !o.managed) openedBelow.occurrences := by
  have hevaluated : openedBelow.WellFormed ∧
      openedWhere (fun _ => true) openedBelow.occurrences =
        [⟨.unmanagedFile, some 2⟩, ⟨.unmanagedFile, some 3⟩] ∧
      ∀ o ∈ openedBelow.occurrences, opensFile o.node = true → o.managed = false := by
    decide +kernel
  obtain ⟨hformed, hissues, hfree⟩ := hevaluated
  obtain ⟨a, ha, hreported, hiff⟩ := opened_files_reported hformed
  exact ⟨hformed, a, ha, hreported.trans hissues, hiff.mpr hfree⟩

def openedInContext : Node :=
  treeOf "with open('f') as g:\n    g.read()\n"

theorem managed_file_reported :
    openedInContext.WellFormed ∧
      openedWhere (fun o => !o.managed) openedInContext.occurrences = [] ∧
      ∃ a, analysis openedInContext = .ok a ∧
        a.withCode "W6001" = [⟨.unmanagedFile, some 1⟩] := by
  have hevaluated : openedInContext.WellFormed ∧
      openedWhere (fun o => !o.managed) openedInContext.occurrences = [] ∧
      ((analysis openedInContext).map fun a => a.withCode "W6001") =
        .ok [⟨.unmanagedFile, some 1⟩] := by
    decide +kernel
  obtain ⟨hformed, hfree, hissues⟩ := hevaluated
  cases ha : analysis openedInContext with
  | error e =>
    rw [ha] at hissues
    cases hissues
  | ok a =>
    rw [ha] at hissues
    exact ⟨hformed, hfree, a, rfl, Except.ok.inj hissues⟩

end CodeLint.Lint
