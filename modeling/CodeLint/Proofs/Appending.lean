import CodeLint.Proofs.BuiltNodes
import CodeLint.Proofs.UnusedVariables

/-!
Appending statements to a module. An analysis has four stages: it checks the constants at the top of
the module, walks through the statements, and reports unused imports and unused variables. The stages
of a longer module begin like those of a shorter one, and what it reports as unused of the first
statements was unused in the shorter module.

Only the issues and the constants noted beforehand differ between the two walks through the common
statements. No decision of the walk looks at these.
-/

namespace CodeLint.Tree.Node

def ofStatements (ps : List Node) : Node :=
  .mk .program {} [.mk .body (.list (ps.map .node)), .mk .ignoredTypes (.list [])]

theorem children_ofStatements (ps : List Node) : (ofStatements ps).children = ps := by
  have hnodes : ((ps.map Value.node).filterMap Value.node?) = ps := by
    rw [List.filterMap_map]
    exact List.filterMap_some
  change ((ps.map Value.node).filterMap Value.node?) ++ ([] ++ []) = ps
  rw [hnodes, List.append_nil, List.append_nil]

theorem branches_ofStatements (ps : List Node) : (ofStatements ps).branches = ps :=
  children_ofStatements ps

end CodeLint.Tree.Node

namespace CodeLint.Lint

open CodeLint.Tree

variable {a b c : Analysis} {n : Node}

/-! ### The stages of an analysis -/

def afterConstants (n : Node) : Analysis := ((enter [] n).apply {}).2

def afterWalk (n : Node) : Analysis :=
  ((visitFields [⟨n, none⟩] n.fields).apply (afterConstants n)).2

def afterImports (n : Node) : Analysis := ((leave n .global).apply (afterWalk n)).2

structure Stages where
  constants : List Issue
  walk : List Issue
  unusedImports : List Issue
  unusedVariables : List Issue

def Stages.all (s : Stages) : List Issue :=
  s.constants ++ s.walk ++ s.unusedImports ++ s.unusedVariables

def Analysis.issuesSince (a b : Analysis) : List Issue := a.issues.drop b.issues.length

def stagesOf (ps : List Node) : Stages :=
  let n := Node.ofStatements ps
  { constants := (afterConstants n).issues
    walk := (afterWalk n).issuesSince (afterConstants n)
    unusedImports := (afterImports n).issuesSince (afterWalk n)
    unusedVariables := (afterImports n).reportUnused.issuesSince (afterImports n) }

/-! ### What a walk looks at -/

def Analysis.bare (a : Analysis) : Analysis := { a with issues := [], moduleLevel := [] }

theorem bare_bind (a : Analysis) (x : String) (k : Binding) :
    (a.bind x k).bare = (a.bare.bind x k).bare ∧
      (a.bind x k).issues = a.issues ++ (a.bare.bind x k).issues := by
  unfold Analysis.bind
  cases hcurrent : a.current with
  | global => simp [Analysis.bare, hcurrent]
  | level i => simp [Analysis.bare, hcurrent]

theorem bare_apply (a : Analysis) (e : Effect) :
    (e.apply a).bare = (e.apply a.bare).bare ∧
      (e.apply a).issues = a.issues ++ (e.apply a.bare).issues := by
  have hsilent : a.issues = a.issues ++ [] := (List.append_nil _).symm
  cases e with
  | bind x k => exact bare_bind a x k
  | addReturn hasValue =>
    simp only [Effect.apply, Analysis.addReturn, Analysis.bare]
    split
    · exact ⟨rfl, hsilent⟩
    · split
      · exact ⟨rfl, hsilent⟩
      · split <;> exact ⟨rfl, hsilent⟩
  | checkReturns f line =>
    have hsame : a.bare.definition? f = a.definition? f := rfl
    simp only [Effect.apply, hsame]
    split
    · exact ⟨rfl, hsilent⟩
    · split
      · exact ⟨rfl, rfl⟩
      · exact ⟨rfl, hsilent⟩
  | checkVariable x line =>
    have hsame : a.bare.classNames = a.classNames := rfl
    simp only [Effect.apply, hsame]
    split
    · exact ⟨rfl, hsilent⟩
    · exact ⟨rfl, rfl⟩
  | checkDefined x line =>
    have hsame : a.bare.isDefined x = a.isDefined x := rfl
    simp only [Effect.apply, hsame]
    split
    · exact ⟨rfl, hsilent⟩
    · exact ⟨rfl, rfl⟩
  | checkDepth line =>
    have hsame : a.bare.loopDepth = a.loopDepth := rfl
    simp only [Effect.apply, hsame]
    split
    · exact ⟨rfl, rfl⟩
    · exact ⟨rfl, hsilent⟩
  | markUsed x =>
    have hsame : a.bare.isImported x = a.isImported x := rfl
    simp only [Effect.apply, Analysis.markUsed, hsame]
    split <;> exact ⟨rfl, hsilent⟩
  | store x =>
    have hsame : a.bare.currentScope = a.currentScope := rfl
    simp only [Effect.apply, hsame]
    split
    · exact ⟨rfl, hsilent⟩
    · exact bare_bind a x .assigned
  | report f line => exact ⟨rfl, rfl⟩
  | reportUnusedImports => exact ⟨rfl, rfl⟩
  | _ => exact ⟨rfl, hsilent⟩

theorem bare_after (a : Analysis) (es : List Effect) :
    (a.after es).bare = (a.bare.after es).bare ∧
      (a.after es).issues = a.issues ++ (a.bare.after es).issues := by
  induction es generalizing a with
  | nil => exact ⟨rfl, (List.append_nil _).symm⟩
  | cons e es ih =>
    obtain ⟨hbare, hissues⟩ := bare_apply a e
    obtain ⟨hrest, hadded⟩ := ih (e.apply a)
    obtain ⟨hrest', hadded'⟩ := ih (e.apply a.bare)
    constructor
    · rw [Analysis.after_cons, Analysis.after_cons, hrest, hrest', hbare]
    · rw [Analysis.after_cons, Analysis.after_cons, hadded, hadded', hissues, hbare,
        List.append_assoc]

/-- Two analyses with the same bare part, which have the same issues beyond those they began with. -/
structure Alike (first second : List Issue) (a b : Analysis) : Prop where
  bare : a.bare = b.bare
  added : ∃ is, a.issues = first ++ is ∧ b.issues = second ++ is

theorem Alike.after {first second : List Issue} (h : Alike first second a b) (es : List Effect) :
    Alike first second (a.after es) (b.after es) := by
  obtain ⟨hbare, is, ha, hb⟩ := h
  obtain ⟨hafter, hissues⟩ := bare_after a es
  obtain ⟨hafter', hissues'⟩ := bare_after b es
  refine ⟨by rw [hafter, hafter', hbare], is ++ (a.bare.after es).issues, ?_, ?_⟩
  · rw [hissues, ha, List.append_assoc]
  · rw [hissues', hb, hbare, List.append_assoc]

/-- What entering a node asks of the links above it is the same for both lists. -/
def SameAbove (above above' : List Link) : Prop :=
  topLevel above = topLevel above' ∧ managed above = managed above'

theorem SameAbove.entering {above above' : List Link} (h : SameAbove above above') (n : Node) :
    entering above n = entering above' n := by
  obtain ⟨htop, hmanaged⟩ := h
  simp only [Lint.entering, assignEffects, forEffects, callEffects, htop, hmanaged]

theorem alike_mirrors (first second : List Issue) :
    Mirrors id SameAbove (Alike first second) where
  branches n := (List.map_id _).symm
  below above above' n h := ⟨rfl, by simpa [managed] using h.2⟩
  enter above above' n a a' hlinks h := by
    rw [id, hlinks.entering n]
    exact h.after _
  leave n a a' m m' h hm := by
    have hcurrent : a.bare.current = a'.bare.current := by rw [h.bare]
    rw [id, show a.current = a'.current from hcurrent]
    exact hm.after _

/-! ### From an analysis to its stages -/

theorem runs_of_analysis (h : analysis n = .ok a) :
    ∃ b, Runs (visit [] n) {} () b ∧ a = b.reportUnused := by
  unfold analysis at h
  cases hrun : (inspect n).apply {} with
  | mk r c =>
    rw [hrun] at h
    cases r with
    | error f => cases h
    | ok x =>
      cases h
      obtain ⟨b, hb, hreport⟩ := runs_seq.mp hrun
      exact ⟨b, hb, runs_modify.mp hreport⟩

structure Staged (ps : List Node) (m d : Analysis) : Prop where
  enters : Runs (enterModule (.ofStatements ps)) {} () m
  visits : VisitsAll [⟨.ofStatements ps, none⟩] ps m d
  walk : afterWalk (.ofStatements ps) = d
  imports : afterImports (.ofStatements ps) = d.reportUnusedImports

theorem afterConstants_eq {ps : List Node} (h : Runs (enterModule (.ofStatements ps)) {} () b) :
    afterConstants (.ofStatements ps) = b := by
  change ((enterModule (.ofStatements ps)).apply {}).2 = b
  rw [h]

theorem staged_of_visit {ps : List Node} (h : Runs (visit [] (.ofStatements ps)) {} () b) :
    ∃ m d, Staged ps m d ∧ b = d.reportUnusedImports := by
  obtain ⟨m, d, he, hd, hl⟩ := (runs_visit (Node.ofStatements ps)).mp h
  have hwalk : Runs (visitFields [⟨.ofStatements ps, none⟩] (Node.ofStatements ps).fields) m () d :=
    (runs_visitFields _).mpr hd
  have hafter : afterWalk (.ofStatements ps) = d := by rw [afterWalk, afterConstants_eq he, hwalk]
  rw [Node.branches_ofStatements] at hd
  refine ⟨m, d, ⟨he, hd, hafter, ?_⟩, runs_modify.mp hl⟩
  rw [afterImports, hafter]
  rfl

theorem visitsAll_relates {R : Analysis → Analysis → Prop} (refl : ∀ a, R a a)
    (trans : ∀ a b c, R a b → R b c → R a c) (step : ∀ a es, R a (a.after es))
    {above : List Link} {cs : List Node} (h : VisitsAll above cs a b) : R a b := by
  have hvisits : Chain (fun _ => R) cs a b := h.mono fun _ _ _ _ hc =>
    visit_relates refl trans (fun a _ _ => step a _) (fun a _ _ => step a _) hc
  exact hvisits.relates refl trans

theorem visitsAll_issues {above : List Link} {cs : List Node} (h : VisitsAll above cs a b) :
    a.issues <+: b.issues := by
  refine visitsAll_relates (R := fun a b => a.issues <+: b.issues) (fun _ => List.prefix_rfl)
    (fun _ _ _ hab hbc => hab.trans hbc) (fun a es => ?_) h
  rw [(bare_after a es).2]
  exact List.prefix_append _ _

def Analysis.unusedVariables (a : Analysis) : List Issue :=
  (a.assignments.filter fun e => !a.usages.has e.1 && !a.isImported e.1 && !isBuiltIn e.1).map
    fun e => ⟨.unusedVariable e.1, e.2⟩

theorem Staged.constants_eq {ps : List Node} {m d : Analysis} (h : Staged ps m d) :
    (stagesOf ps).constants = m.issues := by
  simp only [stagesOf, afterConstants_eq h.enters]

theorem Staged.walk_eq {ps : List Node} {m d : Analysis} (h : Staged ps m d) :
    m.issues ++ (stagesOf ps).walk = d.issues := by
  simp only [stagesOf, afterConstants_eq h.enters, h.walk, Analysis.issuesSince]
  exact List.prefix_iff_eq_append.mp (visitsAll_issues h.visits)

theorem Staged.unusedImports_eq {ps : List Node} {m d : Analysis} (h : Staged ps m d) :
    (stagesOf ps).unusedImports = d.unusedImports := by
  simp only [stagesOf, h.walk, h.imports, Analysis.issuesSince]
  exact List.drop_left

theorem Staged.unusedVariables_eq {ps : List Node} {m d : Analysis} (h : Staged ps m d) :
    (stagesOf ps).unusedVariables = d.unusedVariables := by
  simp only [stagesOf, h.imports, Analysis.issuesSince]
  exact List.drop_left

theorem Staged.all_eq {ps : List Node} {m d : Analysis} (h : Staged ps m d) :
    (stagesOf ps).all = d.reportUnusedImports.reportUnused.issues := by
  rw [Stages.all, h.constants_eq, h.walk_eq, h.unusedImports_eq, h.unusedVariables_eq]
  rfl

/-! ### The constants at the top -/

theorem runs_of_mem_forM {f : Value → Check Unit} {vs : List Value} (h : Runs (vs.forM f) a () b)
    {v : Value} (hv : v ∈ vs) : ∃ c d, Runs (f v) c () d := by
  induction vs generalizing a with
  | nil => cases hv
  | cons u us ih =>
    obtain ⟨m, hu, hus⟩ := runs_seq.mp h
    rcases List.mem_cons.mp hv with rfl | hv
    · exact ⟨a, m, hu⟩
    · exact ih hus hv

theorem bare_constantEffects (a : Analysis) (v : Value) :
    (a.after (constantEffects v)).bare = a.bare := by
  unfold constantEffects
  split
  · rw [Analysis.after_cons, after_atLine]
    split <;> rfl
  · rfl

theorem bare_statements (a : Analysis) (vs : List Value) :
    (a.after (vs.flatMap statementEffects)).bare = a.bare := by
  have htargets : ∀ (a : Analysis) (ts : List Value),
      (a.after (ts.flatMap constantEffects)).bare = a.bare := by
    intro a ts
    induction ts generalizing a with
    | nil => rfl
    | cons t ts ih => rw [List.flatMap_cons, Analysis.after_append, ih, bare_constantEffects]
  induction vs generalizing a with
  | nil => rfl
  | cons v vs ih =>
    rw [List.flatMap_cons, Analysis.after_append, ih, statementEffects]
    split
    · exact htargets a _
    · rfl

theorem Staged.entered {ps : List Node} {m d : Analysis} (h : Staged ps m d) :
    m = ({} : Analysis).after ((ps.map .node).flatMap statementEffects) :=
  (enterModule_performs _).run h.enters

theorem issues_statements_append (p q : List Node) :
    (({} : Analysis).after (((p ++ q).map Value.node).flatMap statementEffects)).issues =
      (({} : Analysis).after ((p.map Value.node).flatMap statementEffects)).issues ++
        (({} : Analysis).after ((q.map Value.node).flatMap statementEffects)).issues := by
  rw [List.map_append, List.flatMap_append, Analysis.after_append, (bare_after _ _).2,
    bare_statements]
  rfl

theorem checkStatement_safe_of_runs {v : Value} (h : Runs (checkStatement v) a () b) :
    Safe (checkStatement v) := by
  refine safe_when fun hk => ?_
  rw [checkStatement, if_pos hk] at h
  obtain ⟨ts, m, hts, hall⟩ := runs_bind.mp h
  obtain ⟨hpart, rfl, rfl⟩ := runs_membersAttr.mp hts
  have hmembers : Safe (membersAttr v .targets) :=
    fun a => ⟨_, a, runs_membersAttr.mpr ⟨hpart, rfl, rfl⟩⟩
  refine hmembers.bind (reads_membersAttr v .targets)
    (safe_forM fun t ht => safe_when fun hname => ?_)
  obtain ⟨c, d, ht⟩ := runs_of_mem_forM hall ht
  rw [checkConstant, if_pos hname] at ht
  obtain ⟨x, m, hx, hrest⟩ := runs_bind.mp ht
  obtain ⟨line, m', hline, -⟩ := runs_bind.mp hrest
  have htext := (runs_textAttr.mp hx).1
  have hsome := (runs_lineOf.mp hline).1
  have hident : Safe (textAttr t .ident) := fun a => ⟨_, a, runs_textAttr.mpr ⟨htext, rfl, rfl⟩⟩
  refine hident.bind (reads_textAttr t .ident) ((safe_lineOf hsome).bind (reads_lineOf t) ?_)
  exact (safe_modify _).seq (safe_reportIf _ _ hsome)

theorem checkStatements_safe {ps : List Node} (h : Runs (enterModule (.ofStatements ps)) a () b) :
    ∀ v ∈ ps.map Value.node, Safe (checkStatement v) := by
  intro v hv
  obtain ⟨m, -, hbody⟩ := runs_seq.mp h
  obtain ⟨vs, m', hvs, hall⟩ := runs_bind.mp hbody
  obtain ⟨-, rfl, -⟩ := runs_membersAttr.mp hvs
  obtain ⟨c, d, hrun⟩ := runs_of_mem_forM hall hv
  exact checkStatement_safe_of_runs hrun

theorem constants_ofStatements {ps : List Node}
    (h : ∀ v ∈ ps.map Value.node, Safe (checkStatement v)) :
    (stagesOf ps).constants =
      (({} : Analysis).after ((ps.map Value.node).flatMap statementEffects)).issues := by
  have hmembers : Safe (membersAttr (.node (.ofStatements ps)) .body) :=
    fun a => ⟨_, a, runs_membersAttr.mpr ⟨⟨rfl, rfl⟩, rfl, rfl⟩⟩
  have hsafe : Safe (enterModule (.ofStatements ps)) :=
    (safe_modify _).seq (hmembers.bind (reads_membersAttr _ _) (safe_forM h))
  obtain ⟨_, m, hm⟩ := hsafe {}
  rw [stagesOf, afterConstants_eq hm, (enterModule_performs _).run hm]
  rfl

/-! ### Names in a list of statements -/

def walked (ps : List Node) : List Node := ps.flatMap (·.occurrences.map (·.node))

def ImportedIn (ps : List Node) (x : String) (line : Line) : Prop :=
  ∃ m ∈ walked ps, m.imports x = true ∧ m.line? = line

def AssignedIn (ps : List Node) (x : String) : Prop :=
  ∃ m ∈ walked ps, x ∈ m.boundLeaves.map Node.ident

instance (ps : List Node) (x : String) (line : Line) : Decidable (ImportedIn ps x line) :=
  inferInstanceAs (Decidable (∃ m ∈ walked ps, _))

instance (ps : List Node) (x : String) : Decidable (AssignedIn ps x) :=
  inferInstanceAs (Decidable (∃ m ∈ walked ps, _))

theorem walked_append (p q : List Node) : walked (p ++ q) = walked p ++ walked q :=
  List.flatMap_append

theorem occurrences_ofStatements (ps : List Node) :
    (Node.ofStatements ps).occurrences.map (·.node) = .ofStatements ps :: walked ps := by
  rw [Node.occurrences, visited_eq, List.map_cons, Node.branches_ofStatements,
    visitedIn_nodes fun c _ above p => visited_nodes above p c, walked]

theorem flatMap_occurrences {β : Type} {f : Node → List β} (ps : List Node)
    (hf : f (.ofStatements ps) = []) :
    ((Node.ofStatements ps).occurrences.flatMap fun o => f o.node) = (walked ps).flatMap f := by
  have hnodes := congrArg (List.flatMap f) (occurrences_ofStatements ps)
  rw [List.flatMap_map, List.flatMap_cons, hf, List.nil_append] at hnodes
  exact hnodes

theorem exists_occurrence_iff {ps : List Node} {p : Node → Prop} (hp : ¬ p (.ofStatements ps)) :
    (∃ o ∈ (Node.ofStatements ps).occurrences, p o.node) ↔ ∃ m ∈ walked ps, p m := by
  have hnodes := occurrences_ofStatements ps
  constructor
  · rintro ⟨o, ho, hpo⟩
    have hmem := List.mem_map_of_mem (f := fun o : Occurrence => o.node) ho
    rw [hnodes] at hmem
    rcases List.mem_cons.mp hmem with heq | hmem
    · exact (hp (heq ▸ hpo)).elim
    · exact ⟨_, hmem, hpo⟩
  · rintro ⟨m, hm, hpm⟩
    have hmem : m ∈ (Node.ofStatements ps).occurrences.map (·.node) := by
      rw [hnodes]
      exact List.mem_cons_of_mem _ hm
    obtain ⟨o, ho, rfl⟩ := List.mem_map.mp hmem
    exact ⟨o, ho, hpm⟩

structure Recorded (ps : List Node) (d : Analysis) : Prop where
  imports : ∀ x line, (x, line) ∈ d.imports ↔ ImportedIn ps x line
  assignments : d.assignments =
    Ordered.putAll ((walked ps).flatMap fun m => m.boundLeaves.map fun l => (l.ident, l.line?)) []
  usages : d.usages = Ordered.putAll
    ((walked ps).flatMap fun m => if m.isLoad then [(m.ident, m.line?)] else []) []

theorem recorded_of_visit {ps : List Node} {d : Analysis}
    (h : Runs (visit [] (.ofStatements ps)) {} () d.reportUnusedImports) : Recorded ps d where
  imports x line := by
    have htracked := invariant_of_visit (importsTracked_keeps _) h .fresh
    have hmem : (x, line) ∈ d.imports ↔ _ := htracked.imports x line
    rw [hmem, ImportedIn, exists_occurrence_iff (p := fun m => m.imports x = true ∧ m.line? = line)]
    rintro ⟨himports, -⟩
    cases himports
  assignments := by
    have hview := invariant_of_visit (assignmentRecord_fills.keeps _) h rfl
    rw [flatMap_occurrences (f := fun m => m.boundLeaves.map fun l => (l.ident, l.line?)) ps rfl]
      at hview
    exact hview
  usages := by
    have hview := invariant_of_visit (usageRecord_fills.keeps _) h rfl
    rw [flatMap_occurrences (f := fun m => if m.isLoad then [(m.ident, m.line?)] else []) ps rfl]
      at hview
    exact hview

theorem Recorded.isImported_iff {ps : List Node} {d : Analysis} (h : Recorded ps d) {x : String} :
    d.isImported x = true ↔ ∃ line, ImportedIn ps x line := by
  rw [Lint.isImported_iff]
  exact exists_congr fun line => h.imports x line

theorem Recorded.isRead {ps : List Node} {d : Analysis} (h : Recorded ps d) (x : String) :
    d.usages.has x = (walked ps).any (·.uses x) := by
  rw [h.usages, has_usageEntries]

theorem Recorded.mem_assignments {p q : List Node} {d e : Analysis} (hp : Recorded p d)
    (hpq : Recorded (p ++ q) e) {x : String} {line : Line} (hq : ¬ AssignedIn q x)
    (h : (x, line) ∈ e.assignments) : (x, line) ∈ d.assignments := by
  rw [hpq.assignments, walked_append, List.flatMap_append, Ordered.putAll_append,
    ← hp.assignments] at h
  rcases Ordered.mem_putAll h with hmem | hmem
  · obtain ⟨m, hm, hentry⟩ := List.mem_flatMap.mp hmem
    obtain ⟨l, hl, heq⟩ := List.mem_map.mp hentry
    cases heq
    exact (hq ⟨m, hm, List.mem_map_of_mem hl⟩).elim
  · exact hmem

/-! ### Appending statements -/

theorem visitsAll_usedImports {above : List Link} {cs : List Node} (h : VisitsAll above cs a b) :
    a.usedImports ⊆ b.usedImports := by
  refine visitsAll_relates (R := fun a b => a.usedImports ⊆ b.usedImports)
    (fun _ => List.Subset.refl _) (fun _ _ _ hab hbc _ hx => hbc (hab hx)) (fun a es => ?_) h
  induction es generalizing a with
  | nil => exact List.Subset.refl _
  | cons e es ih => exact fun x hx => ih (e.apply a) ((mem_usedImports_apply a e).mpr (.inl hx))

/-- The walk through a longer module passes an analysis that is like the one at the end of the walk
through the shorter module. -/
theorem Staged.append {p q : List Node} {m d m' d' : Analysis} (hp : Staged p m d)
    (hpq : Staged (p ++ q) m' d') :
    ∃ e, Alike m.issues m'.issues d e ∧
      VisitsAll [⟨.ofStatements (p ++ q), none⟩] q e d' := by
  obtain ⟨e, he, hrest⟩ := chain_append.mp hpq.visits
  have hstart : Alike m.issues m'.issues m m' := by
    refine ⟨?_, [], by simp, by simp⟩
    rw [hp.entered, hpq.entered, bare_statements, bare_statements]
  have habove : SameAbove [⟨.ofStatements p, none⟩] [⟨.ofStatements (p ++ q), none⟩] := ⟨rfl, rfl⟩
  have hmapped : VisitsAll [⟨.ofStatements (p ++ q), none⟩] (p.map id) m' e := by
    rw [List.map_id]
    exact he
  exact ⟨e, (alike_mirrors _ _).visitsAll habove hp.visits hmapped hstart, hrest⟩

theorem mem_unusedImports_iff {i : Issue} :
    i ∈ a.unusedImports ↔
      ∃ x line, i = ⟨.unusedImport x, line⟩ ∧ (x, line) ∈ a.imports ∧ x ∉ a.usedImports := by
  simp only [Analysis.unusedImports, List.mem_map, List.mem_filter, Bool.not_eq_true',
    List.contains_eq_mem, decide_eq_false_iff_not]
  constructor
  · rintro ⟨⟨x, line⟩, hmem, rfl⟩
    exact ⟨x, line, rfl, hmem⟩
  · rintro ⟨x, line, rfl, hmem⟩
    exact ⟨(x, line), hmem, rfl⟩

theorem mem_unusedVariables_iff {i : Issue} :
    i ∈ a.unusedVariables ↔ ∃ x line, i = ⟨.unusedVariable x, line⟩ ∧ (x, line) ∈ a.assignments ∧
      a.usages.has x = false ∧ a.isImported x = false ∧ isBuiltIn x = false := by
  simp only [Analysis.unusedVariables, List.mem_map, List.mem_filter, Bool.and_eq_true,
    Bool.not_eq_true']
  constructor
  · rintro ⟨⟨x, line⟩, ⟨hmem, ⟨hread, himported⟩, hbuiltIn⟩, rfl⟩
    exact ⟨x, line, rfl, hmem, hread, himported, hbuiltIn⟩
  · rintro ⟨x, line, rfl, hmem, hread, himported, hbuiltIn⟩
    exact ⟨(x, line), ⟨hmem, ⟨hread, himported⟩, hbuiltIn⟩, rfl⟩

theorem wellFormed_ofStatements {ps : List Node}
    (h : ∀ s ∈ ps, s.kind.category = .statement ∧ s.Sound) : (Node.ofStatements ps).WellFormed := by
  refine ⟨rfl, fun m hm => ?_⟩
  rw [preorder_eq] at hm
  rcases List.mem_cons.mp hm with rfl | hm
  · refine conforms_mk rfl nofun nofun (List.forall_mem_cons.mpr ⟨?_, List.forall_mem_singleton.mpr ?_⟩)
    · refine ⟨(.body, .many), by decide, rfl, List.all_eq_true.mpr fun v hv => ?_⟩
      obtain ⟨s, hs, rfl⟩ := List.mem_map.mp hv
      exact beq_iff_eq.mpr (h s hs).1
    · exact ⟨(.ignoredTypes, .many), by decide, rfl, rfl⟩
  · obtain ⟨s, hs, hm⟩ := List.mem_flatMap.mp hm
    rw [Node.children_ofStatements] at hs
    exact (h s hs).2 m hm

theorem Staged.constants_append {p q : List Node} {m d m' d' : Analysis} (hp : Staged p m d)
    (hpq : Staged (p ++ q) m' d') :
    (stagesOf (p ++ q)).constants = (stagesOf p).constants ++ (stagesOf q).constants := by
  -- the second list need not be analysed to its end on its own, but its constants can be read
  have hq : ∀ v ∈ q.map Value.node, Safe (checkStatement v) := by
    intro v hv
    refine checkStatements_safe hpq.enters v ?_
    rw [List.map_append]
    exact List.mem_append_right _ hv
  rw [hp.constants_eq, hpq.constants_eq, hp.entered, hpq.entered, issues_statements_append,
    constants_ofStatements hq]

theorem Staged.walk_append {p q : List Node} {m d m' d' : Analysis} (hp : Staged p m d)
    (hpq : Staged (p ++ q) m' d') : (stagesOf p).walk <+: (stagesOf (p ++ q)).walk := by
  obtain ⟨e, halike, hrest⟩ := hp.append hpq
  obtain ⟨added, hadded, hadded'⟩ := halike.added
  have hwalk : (stagesOf p).walk = added := List.append_cancel_left (hp.walk_eq.trans hadded)
  obtain ⟨more, hmore⟩ := visitsAll_issues hrest
  have hwalked : m'.issues ++ ((stagesOf p).walk ++ more) =
      m'.issues ++ (stagesOf (p ++ q)).walk := by
    rw [hpq.walk_eq, ← hmore, hadded', hwalk, List.append_assoc]
  exact ⟨more, List.append_cancel_left hwalked⟩

theorem Staged.unusedImport_of_append {p q : List Node} {m d m' d' : Analysis} (hp : Staged p m d)
    (hpq : Staged (p ++ q) m' d') {x : String} {line : Line} (himported : (x, line) ∈ d.imports)
    (h : ⟨.unusedImport x, line⟩ ∈ (stagesOf (p ++ q)).unusedImports) :
    ⟨.unusedImport x, line⟩ ∈ (stagesOf p).unusedImports := by
  obtain ⟨e, halike, hrest⟩ := hp.append hpq
  rw [hpq.unusedImports_eq, mem_unusedImports_iff] at h
  obtain ⟨_, _, heq, -, hnot⟩ := h
  cases heq
  rw [hp.unusedImports_eq, mem_unusedImports_iff]
  refine ⟨x, line, rfl, himported, fun hused => hnot ?_⟩
  -- what the shorter walk has marked as used, the longer one has marked when it gets that far
  have hsame : d.bare.usedImports = e.bare.usedImports := by rw [halike.bare]
  rw [show d.usedImports = e.usedImports from hsame] at hused
  exact visitsAll_usedImports hrest hused

theorem Recorded.unusedVariable_of_append {p q : List Node} {d e : Analysis} (hp : Recorded p d)
    (hpq : Recorded (p ++ q) e) {x : String} {line : Line} (hq : ¬ AssignedIn q x)
    (h : ⟨.unusedVariable x, line⟩ ∈ e.unusedVariables) :
    ⟨.unusedVariable x, line⟩ ∈ d.unusedVariables := by
  rw [mem_unusedVariables_iff] at h ⊢
  obtain ⟨_, _, heq, hmem, hread, himported, hbuiltIn⟩ := h
  cases heq
  refine ⟨x, line, rfl, hp.mem_assignments hpq hq hmem, ?_, ?_, hbuiltIn⟩
  · rw [hpq.isRead, walked_append, List.any_append, Bool.or_eq_false_iff] at hread
    rw [hp.isRead]
    exact hread.1
  · refine Bool.eq_false_iff.mpr fun hfirst => Bool.eq_false_iff.mp himported ?_
    obtain ⟨l, o, ho, hx⟩ := hp.isImported_iff.mp hfirst
    refine hpq.isImported_iff.mpr ⟨l, o, ?_, hx⟩
    rw [walked_append]
    exact List.mem_append_left _ ho

/-- Appending statements to a module leaves the findings about the first ones as they are. The
constants of the two lists are reported one after the other, the issues of the walk through the first
list come first, an unused import of the first list is unused there alone, and so is a variable to
which the second list does not assign, with the same line. Statements as a parser builds them are
always analysed to the end. -/
theorem appending_keeps_findings (p q : List Node) :
    ((∀ s ∈ p ++ q, s.kind.category = .statement ∧ s.Sound) →
      ∃ a b, analysis (.ofStatements p) = .ok a ∧ analysis (.ofStatements (p ++ q)) = .ok b) ∧
    ∀ a b, analysis (.ofStatements p) = .ok a → analysis (.ofStatements (p ++ q)) = .ok b →
      a.issues = (stagesOf p).all ∧ b.issues = (stagesOf (p ++ q)).all ∧
      (stagesOf (p ++ q)).constants = (stagesOf p).constants ++ (stagesOf q).constants ∧
      (stagesOf p).walk <+: (stagesOf (p ++ q)).walk ∧
      (∀ x line, ImportedIn p x line →
        ⟨.unusedImport x, line⟩ ∈ (stagesOf (p ++ q)).unusedImports →
        ⟨.unusedImport x, line⟩ ∈ (stagesOf p).unusedImports) ∧
      ∀ x line, ¬ AssignedIn q x →
        ⟨.unusedVariable x, line⟩ ∈ (stagesOf (p ++ q)).unusedVariables →
        ⟨.unusedVariable x, line⟩ ∈ (stagesOf p).unusedVariables := by
  refine ⟨fun hsound => ?_, fun a b ha hb => ?_⟩
  · obtain ⟨c, -, hc⟩ := analysis_eq (wellFormed_ofStatements fun s hs =>
      hsound s (List.mem_append_left q hs))
    obtain ⟨d, -, hd⟩ := analysis_eq (wellFormed_ofStatements hsound)
    exact ⟨_, _, hc, hd⟩
  obtain ⟨c, hvisit, rfl⟩ := runs_of_analysis ha
  obtain ⟨c', hvisit', rfl⟩ := runs_of_analysis hb
  obtain ⟨m, d, hp, rfl⟩ := staged_of_visit hvisit
  obtain ⟨m', d', hpq, rfl⟩ := staged_of_visit hvisit'
  have hrecorded := recorded_of_visit hvisit
  refine ⟨hp.all_eq.symm, hpq.all_eq.symm, hp.constants_append hpq, hp.walk_append hpq,
    fun x line himported hunused => ?_, fun x line hq hunused => ?_⟩
  · exact hp.unusedImport_of_append hpq ((hrecorded.imports x line).mpr himported) hunused
  · rw [hpq.unusedVariables_eq] at hunused
    rw [hp.unusedVariables_eq]
    exact hrecorded.unusedVariable_of_append (recorded_of_visit hvisit') hq hunused

def fourStatements : List Node := (treeOf "import os, re\nÄ = b = 1\nos\nÖ = b = 2\n").children

def firstStatements : List Node := fourStatements.take 2

def furtherStatements : List Node := fourStatements.drop 2

theorem appending_keeps_findings_importUsedLater :
    (stagesOf (firstStatements ++ furtherStatements)).constants =
        (stagesOf firstStatements).constants ++ (stagesOf furtherStatements).constants ∧
      (stagesOf firstStatements).walk <+:
        (stagesOf (firstStatements ++ furtherStatements)).walk ∧
      ⟨.unusedImport "re", some 1⟩ ∈ (stagesOf firstStatements).unusedImports ∧
      ⟨.unusedVariable "Ä", some 2⟩ ∈ (stagesOf firstStatements).unusedVariables := by
  have hevaluated : (∀ s ∈ firstStatements ++ furtherStatements,
        s.kind.category = .statement ∧ s.Sound) ∧
      ImportedIn firstStatements "re" (some 1) ∧ ¬ AssignedIn furtherStatements "Ä" ∧
      (stagesOf (firstStatements ++ furtherStatements)).unusedImports =
        [⟨.unusedImport "re", some 1⟩] ∧
      ⟨.unusedVariable "Ä", some 2⟩ ∈
        (stagesOf (firstStatements ++ furtherStatements)).unusedVariables := by
    decide +kernel
  obtain ⟨hsound, himported, hassigned, hre, hvariable⟩ := hevaluated
  obtain ⟨hreturns, hkeeps⟩ := appending_keeps_findings firstStatements furtherStatements
  obtain ⟨a, b, ha, hb⟩ := hreturns hsound
  obtain ⟨-, -, hconstants, hwalk, himports, hvariables⟩ := hkeeps a b ha hb
  refine ⟨hconstants, hwalk, himports "re" (some 1) himported ?_, hvariables _ _ hassigned hvariable⟩
  rw [hre]
  exact List.mem_singleton_self _

end CodeLint.Lint
