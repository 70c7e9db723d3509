import CodeLint.Proofs.LocalChecks
import CodeLint.Proofs.UnusedImports

/-!
Unused variables. The names bound by assignments and loops are recorded as they come, so the record
has them in the order of their first leaves, each with the line of its last leaf. After the traversal
those are reported that are nowhere read or imported and are not built in.
-/

namespace CodeLint.Tree.Node

open CodeLint.Lint

def boundLeaves (n : Node) : List Node :=
  match n.kind with
  | .assign => n.assignedLeaves
  | .forLoop => n.loopLeaves
  | _ => []

def variableLeaves (n : Node) : List Node := n.preorder.flatMap boundLeaves

def variableNames (n : Node) : List String := (n.variableLeaves.map ident).eraseDups

def lastLine (n : Node) (x : String) : Line :=
  (n.variableLeaves.filter (·.ident == x)).getLast?.bind line?

def isUnused (n : Node) (x : String) : Bool :=
  !n.preorder.any (·.uses x) && !n.preorder.any (·.imports x) && !isBuiltIn x

end CodeLint.Tree.Node

namespace CodeLint.Lint

open CodeLint.Tree

variable {a b : Analysis} {n : Node} {x : String}

/-! ### The records of assignments and uses -/

def Effect.isNote : Effect → Bool
  | noteAssignment _ _ | noteUsage _ _ => true
  | _ => false

def Effect.assignment? : Effect → Option (String × Line)
  | noteAssignment x line => some (x, line)
  | _ => none

def Effect.usage? : Effect → Option (String × Line)
  | noteUsage x line => some (x, line)
  | _ => none

theorem notes_bind (a : Analysis) (x : String) (k : Binding) :
    (a.bind x k).assignments = a.assignments ∧ (a.bind x k).usages = a.usages := by
  unfold Analysis.bind
  cases a.current <;> exact ⟨rfl, rfl⟩

theorem notes_apply (a : Analysis) (e : Effect) :
    (e.apply a).assignments = e.assignment?.elim a.assignments (fun p => a.assignments.put p.1 p.2) ∧
      (e.apply a).usages = e.usage?.elim a.usages fun p => a.usages.put p.1 p.2 := by
  cases e with
  | bind x k => exact notes_bind a x k
  | addReturn hasValue =>
    simp only [Effect.apply, Analysis.addReturn]
    split
    · exact ⟨rfl, rfl⟩
    · split
      · exact ⟨rfl, rfl⟩
      · split <;> exact ⟨rfl, rfl⟩
  | checkReturns f line =>
    simp only [Effect.apply]
    split
    · exact ⟨rfl, rfl⟩
    · split <;> exact ⟨rfl, rfl⟩
  | checkVariable x line | checkDefined x line | checkDepth line =>
    simp only [Effect.apply]
    split <;> exact ⟨rfl, rfl⟩
  | markUsed x =>
    simp only [Effect.apply, Analysis.markUsed]
    split <;> exact ⟨rfl, rfl⟩
  | store x =>
    simp only [Effect.apply]
    split
    · exact ⟨rfl, rfl⟩
    · exact notes_bind a x .assigned
  | _ => exact ⟨rfl, rfl⟩

def assignmentRecord : Record (Ordered Line) (String × Line) where
  view := Analysis.assignments
  add m e := m.put e.1 e.2
  entryOf := Effect.assignment?
  view_apply a e := (notes_apply a e).1

def usageRecord : Record (Ordered Line) (String × Line) where
  view := Analysis.usages
  add m e := m.put e.1 e.2
  entryOf := Effect.usage?
  view_apply a e := (notes_apply a e).2

theorem Effect.assignment?_of_not_note {e : Effect} (he : e.isNote = false) :
    e.assignment? = none := by
  cases e with
  | noteAssignment => cases he
  | _ => rfl

theorem Effect.usage?_of_not_note {e : Effect} (he : e.isNote = false) : e.usage? = none := by
  cases e with
  | noteUsage => cases he
  | _ => rfl

theorem filterMap_filter_note {β : Type} {f : Effect → Option β}
    (hf : ∀ e, e.isNote = false → f e = none) (es : List Effect) :
    (es.filter Effect.isNote).filterMap f = es.filterMap f := by
  have hentry : (fun e => if Effect.isNote e = true then f e else none) = f := by
    funext e
    cases he : e.isNote with
    | true => rfl
    | false => exact (hf e he).symm
  rw [List.filterMap_filter, hentry]

def notes (n : Node) : List Effect :=
  n.boundLeaves.map (fun m => .noteAssignment m.ident m.line?) ++
    if n.isLoad then [.noteUsage n.ident n.line?] else []

theorem filter_note_of_isReport {es : List Effect} (h : ∀ e ∈ es, e.isReport = true) :
    es.filter Effect.isNote = [] := by
  refine List.filter_eq_nil_iff.mpr fun e he => ?_
  have hreport := h e he
  cases e with
  | report => simp [Effect.isNote]
  | _ => cases hreport

theorem filter_note_leafEffects (atModule : Bool) (n : Node) :
    (leafEffects atModule n).filter Effect.isNote = [.noteAssignment n.ident n.line?] := by
  have hbuiltIn := filter_note_of_isReport
    (isReport_of_mem_atLine (isBuiltIn n.ident) (.builtInRedefined n.ident) (.node n))
  have hvariable : (variableEffects atModule n.ident (.node n)).filter Effect.isNote = [] := by
    unfold variableEffects
    split
    · exact filter_note_of_isReport (isReport_of_mem_atLine _ _ _)
    · split <;> rfl
  have hmodule : (if atModule then [Effect.noteConstant n.ident n.line?] else []).filter
      Effect.isNote = [] := by
    split <;> rfl
  simp only [leafEffects, List.filter_append, hbuiltIn, hvariable, hmodule]
  rfl

theorem filter_note_leaves (atModule : Bool) (ms : List Node) :
    (ms.flatMap (leafEffects atModule)).filter Effect.isNote =
      ms.map fun m => .noteAssignment m.ident m.line? := by
  simp only [List.filter_flatMap, filter_note_leafEffects, List.map_eq_flatMap]

theorem filter_note_statementEffects (v : Value) :
    (statementEffects v).filter Effect.isNote = [] := by
  have hconstant : ∀ t, (constantEffects t).filter Effect.isNote = [] := by
    intro t
    unfold constantEffects
    split
    · rw [List.filter_cons_of_neg (by simp [Effect.isNote])]
      exact filter_note_of_isReport (isReport_of_mem_atLine _ _ _)
    · rfl
  unfold statementEffects
  split
  · simp only [List.filter_flatMap, hconstant, List.flatMap_eq_nil_iff, implies_true]
  · rfl

theorem filter_note_afterReports (above : List Link) (n : Node) :
    (afterReports above n).filter Effect.isNote = notes n := by
  have hmap : ∀ (f : String → Effect) (xs : List String), (∀ x, (f x).isNote = false) →
      (xs.map f).filter Effect.isNote = [] := by
    intro f xs hf
    refine List.filter_eq_nil_iff.mpr (List.forall_mem_map.mpr fun x _ => ?_)
    simp [hf]
  unfold afterReports notes Node.boundLeaves Node.isLoad
  cases hk : n.kind with
  | program =>
    simp only [moduleEffects, List.filter_cons, List.filter_flatMap, filter_note_statementEffects]
    simp [Effect.isNote]
  | importStmt | importFrom => simp [importEffects, itemEffects, List.filter_flatMap, Effect.isNote]
  | functionDef =>
    rw [List.filter_append, hmap _ _ fun _ => rfl]
    rfl
  | assign => rw [filter_note_leaves]; exact (List.append_nil _).symm
  | name =>
    unfold nameEffects
    cases ((Value.node n).part .context).isKind .load with
    | true => rfl
    | false =>
      cases ((Value.node n).part .context).isKind .store <;> rfl
  | globalStmt | nonlocalStmt => exact hmap _ _ fun _ => rfl
  | forLoop =>
    simp only [forEffects, List.filter_append, List.filter_cons, filter_note_leaves]
    simp [loopEffects, Effect.isNote]
  | call =>
    simp only [callEffects]
    split
    · rw [List.filter_append, filter_note_of_isReport (isReport_of_mem_atLine _ _ _)]
      rfl
    · split <;> rfl
  | _ => rfl

theorem filter_note_entering (above : List Link) (n : Node) :
    (entering above n).filter Effect.isNote = notes n := by
  have hbefore : (beforeReports n).filter Effect.isNote = [] := by
    unfold beforeReports
    cases n.kind <;> rfl
  rw [entering_eq, List.filter_append, List.filter_append, hbefore, filter_note_afterReports,
    filter_note_of_isReport (isReport_of_mem_localReports n), List.append_nil, List.nil_append]

theorem filterMap_entering {β : Type} {f : Effect → Option β}
    (hf : ∀ e, e.isNote = false → f e = none) (above : List Link) (n : Node) :
    (entering above n).filterMap f = (notes n).filterMap f := by
  rw [← filter_note_entering above n, filterMap_filter_note hf]

theorem assignmentRecord_fills :
    assignmentRecord.Fills fun n => n.boundLeaves.map fun m => (m.ident, m.line?) where
  on_enter above n := by
    change (entering above n).filterMap Effect.assignment? = _
    rw [filterMap_entering fun _ => Effect.assignment?_of_not_note, notes, List.filterMap_append,
      List.filterMap_map]
    cases n.isLoad <;> simp [Effect.assignment?, Function.comp_def]
  on_leave n previous := by
    unfold leaving
    cases n.kind <;> rfl

theorem usageRecord_fills :
    usageRecord.Fills fun n => if n.isLoad then [(n.ident, n.line?)] else [] where
  on_enter above n := by
    change (entering above n).filterMap Effect.usage? = _
    rw [filterMap_entering fun _ => Effect.usage?_of_not_note, notes, List.filterMap_append,
      List.filterMap_map]
    cases n.isLoad <;> simp [Effect.usage?, Function.comp_def]
  on_leave n previous := by
    unfold leaving
    cases n.kind <;> rfl

theorem assignments_visit (hplain : n.Plain) (h : Runs (visit [] n) {} () b) :
    b.assignments = Ordered.tabulate n.lastLine n.variableNames := by
  have hview := assignmentRecord_fills.view_visit hplain h
  have hentries : (n.preorder.flatMap fun m => m.boundLeaves.map fun l => (l.ident, l.line?)) =
      n.variableLeaves.map fun l => (l.ident, l.line?) := List.map_flatMap.symm
  rw [hentries] at hview
  refine (hview.trans (Ordered.putAll_empty _ none)).trans ?_
  rw [List.map_map]
  refine Ordered.tabulate_congr fun x _ => ?_
  rw [Ordered.lastValue?_map, Node.lastLine]
  cases (n.variableLeaves.filter (·.ident == x)).getLast? <;> rfl

theorem has_usageEntries (ms : List Node) (x : String) :
    (Ordered.putAll (ms.flatMap fun m => if m.isLoad then [(m.ident, m.line?)] else []) []).has x =
      ms.any (·.uses x) := by
  have hempty : Ordered.has x ([] : Ordered Line) = false := rfl
  rw [Bool.eq_iff_iff, Ordered.has_putAll, hempty, List.any_eq_true]
  simp only [Bool.false_eq_true, or_false, List.mem_flatMap]
  constructor
  · rintro ⟨e, ⟨m, hm, he⟩, rfl⟩
    cases hload : m.isLoad with
    | false => simp [hload] at he
    | true =>
      rw [hload, if_pos rfl, List.mem_singleton] at he
      subst he
      exact ⟨m, hm, by simp [Node.uses, hload]⟩
  · rintro ⟨m, hm, huse⟩
    obtain ⟨hload, hident⟩ := Bool.and_eq_true_iff.mp huse
    exact ⟨(m.ident, m.line?), ⟨m, hm, by simp [hload]⟩, eq_of_beq hident⟩

theorem usages_visit (hplain : n.Plain) (h : Runs (visit [] n) {} () b) :
    b.usages.has x = n.preorder.any (·.uses x) := by
  have hview := usageRecord_fills.view_visit hplain h
  have hputs : b.usages = Ordered.putAll
      (n.preorder.flatMap fun m => if m.isLoad then [(m.ident, m.line?)] else []) [] := hview
  rw [hputs, has_usageEntries]

/-! ### Where the issues about names come from -/

/-- A finding about the use of a name is there because of a node that was entered: one that reads the
name, or one that imports it. -/
def Finding.HasOrigin (seen : List Occurrence) : Finding → Prop
  | undefinedVariable x => ∃ o ∈ seen, o.node.uses x = true
  | unusedImport x => ∃ o ∈ seen, o.node.imports x = true
  | unusedVariable _ | note _ _ => False
  | _ => True

theorem hasOrigin_of_not_aboutUse {f : Finding} (hf : f.aboutUse = false)
    (seen : List Occurrence) : f.HasOrigin seen := by
  cases f with
  | undefinedVariable | unusedImport | unusedVariable | note => cases hf
  | _ => trivial

namespace Finding.HasOrigin

variable {f : Finding} {seen : List Occurrence}

theorem append (h : f.HasOrigin seen) (later : List Occurrence) : f.HasOrigin (seen ++ later) := by
  cases f with
  | undefinedVariable x | unusedImport x =>
    obtain ⟨o, ho, hx⟩ := h
    exact ⟨o, List.mem_append_left _ ho, hx⟩
  | _ => exact h

theorem code_ne (h : f.HasOrigin seen) : f.code ≠ "W0612" := by
  cases f with
  | unusedVariable | note => exact h.elim
  | _ => simp only [Finding.code]; decide

end Finding.HasOrigin

structure UsesTracked (seen : List Occurrence) (a : Analysis) : Prop where
  imports : ImportsTracked seen a
  origin : ∀ i ∈ a.issues, i.finding.HasOrigin seen

namespace UsesTracked

variable {seen later : List Occurrence} {o : Occurrence}

theorem fresh : UsesTracked [] {} := ⟨.fresh, by simp⟩

theorem of_agrees (h : UsesTracked seen a) (hab : Agrees a b) : UsesTracked seen b where
  imports := h.imports.of_agrees hab
  origin i hi := by
    cases huse : i.aboutUse with
    | false => exact hasOrigin_of_not_aboutUse huse seen
    | true =>
      have hfilter : i ∈ a.issues.filter Issue.aboutUse := by
        rw [hab.issues]
        exact List.mem_filter.mpr ⟨hi, huse⟩
      exact h.origin i (List.mem_filter.mp hfilter).1

theorem principal (h : UsesTracked seen a) (hall : n.occurrences = seen ++ o :: later) :
    UsesTracked (seen ++ [o]) (a.after (Lint.principal o.node)) where
  imports := h.imports.principal hall
  origin i hi := by
    rw [issues_principal] at hi
    rcases List.mem_append.mp hi with hi | hi
    · exact (h.origin i hi).append _
    · by_cases hload : o.node.isLoad = true ∧ a.isDefined o.node.ident = false
      · rw [if_pos hload] at hi
        rw [List.mem_singleton.mp hi]
        exact ⟨o, by simp, by simp [Node.uses, hload.1]⟩
      · rw [if_neg hload] at hi
        cases hi

theorem principalLeave (h : UsesTracked seen a) (n : Node) (previous : ScopeRef) :
    UsesTracked seen (a.after (Lint.principalLeave n previous)) where
  imports := h.imports.principalLeave n previous
  origin i hi := by
    rw [issues_principalLeave] at hi
    rcases List.mem_append.mp hi with hi | hi
    · exact h.origin i hi
    · by_cases hk : n.kind = .program
      · rw [if_pos hk] at hi
        obtain ⟨e, he, rfl⟩ := List.mem_map.mp hi
        obtain ⟨u, hu, himport, -⟩ := (h.imports.imports e.1 e.2).mp (List.mem_filter.mp he).1
        exact ⟨u, hu, himport⟩
      · rw [if_neg hk] at hi
        cases hi

end UsesTracked

theorem usesTracked_keeps (n : Node) : Keeps n.occurrences fun seen _ a => UsesTracked seen a where
  enter _ o _ a hall h := (h.principal hall).of_agrees (entering_agrees a _ o.node)
  leave _ _ o a c _ _ h := (h.principalLeave o.node a.current).of_agrees (leaving_agrees c o.node _)

/-! ### The report -/

theorem any_occurrences (hplain : n.Plain) (p : Node → Bool) :
    (∃ o ∈ n.occurrences, p o.node = true) ↔ n.preorder.any p = true := by
  rw [← occurrences_nodes hplain, List.any_map, List.any_eq_true]
  rfl

theorem reportUnused_issues (hplain : n.Plain) (h : Runs (visit [] n) {} () b) :
    b.reportUnused.issues = b.issues ++
      (n.variableNames.filter n.isUnused).map fun x => ⟨.unusedVariable x, n.lastLine x⟩ := by
  have htracked := invariant_of_visit (usesTracked_keeps n) h .fresh
  have himported : ∀ x, b.isImported x = n.preorder.any (·.imports x) := by
    intro x
    rw [Bool.eq_iff_iff, htracked.imports.isImported_iff, any_occurrences hplain (·.imports x)]
  have hunused : ∀ x, (!b.usages.has x && !b.isImported x && !isBuiltIn x) = n.isUnused x := by
    intro x
    rw [usages_visit hplain h, himported, Node.isUnused]
  rw [Analysis.reportUnused, assignments_visit hplain h]
  simp only [Ordered.tabulate, List.filter_map, List.map_map, Function.comp_def, hunused]

def Analysis.findings (a : Analysis) : List Finding := a.issues.map Issue.finding

theorem code_ne_of_visit (h : Runs (visit [] n) {} () b) :
    ∀ i ∈ b.issues, i.finding.code ≠ "W0612" := by
  have htracked := invariant_of_visit (usesTracked_keeps n) h .fresh
  exact fun i hi => (htracked.origin i hi).code_ne

theorem isUnused_of_reported (hplain : n.Plain) (h : Runs (visit [] n) {} () b)
    (hx : .undefinedVariable x ∈ b.findings ∨ .unusedImport x ∈ b.findings) :
    n.isUnused x = false := by
  have htracked := invariant_of_visit (usesTracked_keeps n) h .fresh
  have hsome : n.preorder.any (·.uses x) = true ∨ n.preorder.any (·.imports x) = true := by
    rw [← any_occurrences hplain (·.uses x), ← any_occurrences hplain (·.imports x)]
    rcases hx with hx | hx
    · obtain ⟨i, hi, hfinding⟩ := List.mem_map.mp hx
      have horigin := htracked.origin i hi
      rw [hfinding] at horigin
      exact .inl horigin
    · obtain ⟨i, hi, hfinding⟩ := List.mem_map.mp hx
      have horigin := htracked.origin i hi
      rw [hfinding] at horigin
      exact .inr horigin
  rcases hsome with hsome | hsome <;> simp [Node.isUnused, hsome]

theorem withCode_reportUnused (hplain : n.Plain) (h : Runs (visit [] n) {} () b) :
    b.reportUnused.withCode "W0612" =
      (n.variableNames.filter n.isUnused).map fun x => ⟨.unusedVariable x, n.lastLine x⟩ := by
  have hfirst : b.issues.filter (·.finding.code == "W0612") = [] :=
    List.filter_eq_nil_iff.mpr fun i hi => by simpa using code_ne_of_visit h i hi
  rw [Analysis.withCode, reportUnused_issues hplain h, List.filter_append, hfirst, List.nil_append]
  exact List.filter_eq_self.mpr (List.forall_mem_map.mpr fun x _ => rfl)

theorem findings_reportUnused (hplain : n.Plain) (h : Runs (visit [] n) {} () b) :
    b.reportUnused.findings =
      b.findings ++ (n.variableNames.filter n.isUnused).map .unusedVariable := by
  rw [Analysis.findings, reportUnused_issues hplain h, List.map_append, List.map_map]
  rfl

theorem count_unusedVariable (hplain : n.Plain) (h : Runs (visit [] n) {} () b) (x : String) :
    b.reportUnused.findings.count (.unusedVariable x) =
      if x ∈ n.variableLeaves.map Node.ident ∧ n.isUnused x = true then 1 else 0 := by
  have hfirst : .unusedVariable x ∉ b.findings := by
    intro hx
    obtain ⟨i, hi, hfinding⟩ := List.mem_map.mp hx
    exact code_ne_of_visit h i hi (by rw [hfinding]; rfl)
  have hnodup : ((n.variableNames.filter n.isUnused).map Finding.unusedVariable).Nodup := by
    refine List.Pairwise.map _ (fun y z hne heq => hne ?_) ((nodup_eraseDups _).filter _)
    injection heq
  rw [findings_reportUnused hplain h, List.count_append, List.count_eq_zero.mpr hfirst,
    hnodup.count, Nat.zero_add]
  simp only [List.mem_map, Finding.unusedVariable.injEq, exists_eq_right, List.mem_filter,
    Node.variableNames, List.mem_eraseDups]

/-- The unused variables are reported in the order of their first leaves, each once and with the line
of its last leaf. No name is reported both as an unused variable and as an undefined one or an
unused import. -/
theorem unused_variables_reported {n : Node} (h : n.WellFormed) :
    ∃ a, analysis n = .ok a ∧
      a.withCode "W0612" =
        (n.variableNames.filter n.isUnused).map (fun x => ⟨.unusedVariable x, n.lastLine x⟩) ∧
      (∀ x, a.findings.count (.unusedVariable x) =
        if x ∈ n.variableLeaves.map Node.ident ∧ n.isUnused x = true then 1 else 0) ∧
      ∀ x, .unusedVariable x ∈ a.findings →
        .undefinedVariable x ∉ a.findings ∧ .unusedImport x ∉ a.findings := by
  obtain ⟨b, hb, ha⟩ := analysis_eq h
  have hplain := h.2.plain
  refine ⟨_, ha, withCode_reportUnused hplain hb, count_unusedVariable hplain hb, fun x hx => ?_⟩
  have hunused : n.isUnused x = true := by
    have hpos := List.count_pos_iff.mpr hx
    rw [count_unusedVariable hplain hb] at hpos
    by_contra hnot
    rw [if_neg fun hboth => hnot hboth.2] at hpos
    exact absurd hpos (Nat.lt_irrefl 0)
  rw [findings_reportUnused hplain hb]
  constructor
  · intro hmem
    rcases List.mem_append.mp hmem with hmem | hmem
    · rw [isUnused_of_reported hplain hb (.inl hmem)] at hunused
      cases hunused
    · simp at hmem
  · intro hmem
    rcases List.mem_append.mp hmem with hmem | hmem
    · rw [isUnused_of_reported hplain hb (.inr hmem)] at hunused
      cases hunused
    · simp at hmem

def assignedAgain : Node :=
  treeOf "import m\nq = w = m = 0\nfor u in v:\n  [q, *s], list = u\n"

theorem unused_variables_reported_assignedAgain :
    assignedAgain.WellFormed ∧ ∃ a, analysis assignedAgain = .ok a ∧
      a.withCode "W0612" = [⟨.unusedVariable "q", some 4⟩, ⟨.unusedVariable "w", some 2⟩] ∧
      a.findings.count (.unusedVariable "u") = 0 ∧ .unusedImport "q" ∉ a.findings := by
  have hevaluated : assignedAgain.WellFormed ∧
      (assignedAgain.variableNames.filter assignedAgain.isUnused).map
        (fun x => (⟨.unusedVariable x, assignedAgain.lastLine x⟩ : Issue)) =
        [⟨.unusedVariable "q", some 4⟩, ⟨.unusedVariable "w", some 2⟩] ∧
      assignedAgain.isUnused "u" = false ∧
      "q" ∈ assignedAgain.variableLeaves.map Node.ident ∧ assignedAgain.isUnused "q" = true := by
    decide +kernel
  obtain ⟨hformed, hlist, hread, hq, hunused⟩ := hevaluated
  obtain ⟨a, ha, hissues, hcount, hother⟩ := unused_variables_reported hformed
  have honce : a.findings.count (.unusedVariable "q") = 1 := by rw [hcount, if_pos ⟨hq, hunused⟩]
  refine ⟨hformed, a, ha, hissues.trans hlist, ?_, (hother "q" ?_).2⟩
  · rw [hcount, if_neg fun hboth => ?_]
    rw [hread] at hboth
    exact Bool.false_ne_true hboth.2
  · exact List.count_pos_iff.mp (by rw [honce]; exact Nat.one_pos)

end CodeLint.Lint
