import CodeLint.Proofs.UnusedVariables
import Mathlib.Data.List.Flatten
import Mathlib.Data.List.Perm.Basic

/-!
The names of constants. A module looks through the targets of its own assignments before it visits
them, and each assignment looks at its targets again. Both ask the same of a name, so what is wrong
with a name that stands as a target by itself is reported twice. A name inside a tuple or a list and
the name of a loop are seen only the second time.
-/

namespace CodeLint.Tree.Node

def statements (n : Node) : List Node := ((Value.node n).membersAt .body).filterMap Value.node?

def directTargets (n : Node) : List Node :=
  if n.kind = .assign then
    (((Value.node n).membersAt .targets).filter (·.isKind .name)).filterMap Value.node?
  else []

def innerTargets (n : Node) : List Node :=
  if n.kind = .assign then
    (((Value.node n).membersAt .targets).filter (!·.isKind .name)).flatMap Value.leaves
  else []

def loopTargets (n : Node) : List Node := if n.kind = .forLoop then n.loopLeaves else []

theorem leaves_of_name {n : Node} (hk : n.kind = .name) : n.leaves = [n] := by
  cases n with
  | mk kind place fields =>
    rw [leaves]
    exact if_pos hk

theorem flatMap_leaves_of_names {vs : List Value} (h : ∀ v ∈ vs, v.isKind .name = true) :
    vs.flatMap Value.leaves = vs.filterMap Value.node? := by
  induction vs with
  | nil => rfl
  | cons v vs ih =>
    obtain ⟨hv, hvs⟩ := List.forall_mem_cons.mp h
    obtain ⟨m, rfl, hm⟩ := Value.isKind_iff.mp hv
    rw [List.flatMap_cons, ih hvs, Value.leaves, leaves_of_name hm]
    rfl

theorem boundLeaves_perm (n : Node) :
    n.boundLeaves.Perm (n.directTargets ++ (n.innerTargets ++ n.loopTargets)) := by
  cases hk : n.kind with
  | assign =>
    have hsplit := (List.filter_append_perm (Value.isKind .name)
      ((Value.node n).membersAt .targets)).flatMap_right Value.leaves
    have hnames : ∀ v ∈ ((Value.node n).membersAt .targets).filter (Value.isKind .name),
        v.isKind .name = true := fun v hv => (List.mem_filter.mp hv).2
    rw [List.flatMap_append, flatMap_leaves_of_names hnames] at hsplit
    simp only [boundLeaves, directTargets, innerTargets, loopTargets, hk, if_pos, if_neg,
      reduceCtorEq, not_false_eq_true, List.append_nil]
    exact hsplit.symm
  | _ => simp [boundLeaves, directTargets, innerTargets, loopTargets, hk]

end CodeLint.Tree.Node

namespace CodeLint.Lint

open CodeLint.Tree CodeLint.Text

variable {a b : Analysis} {n : Node} {above : List Link}

def Finding.isConstant : Finding → Bool
  | constantName _ => true
  | _ => false

def Analysis.constantIssues (a : Analysis) : List Issue := a.chosen Finding.isConstant

def isMisspelt (n : Node) : Bool := isUpper n.ident && !constantCase.accepts n.ident

def misspelt (ms : List Node) : List Issue :=
  (ms.filter isMisspelt).map fun m => ⟨.constantName m.ident, m.line?⟩

theorem misspelt_append (ms ks : List Node) : misspelt (ms ++ ks) = misspelt ms ++ misspelt ks := by
  rw [misspelt, List.filter_append, List.map_append, misspelt, misspelt]

theorem misspelt_flatMap {α : Type} (xs : List α) (f : α → List Node) :
    misspelt (xs.flatMap f) = xs.flatMap fun x => misspelt (f x) := by
  simp only [misspelt, List.filter_flatMap, List.map_flatMap]

/-! ### What a name is reported for -/

-- The two checks ask differently: one also that the name be not in small letters.
theorem isLower_of_isUpper {x : String} (h : isUpper x = true) : isLower x = false := by
  obtain ⟨hupper, -⟩ := Bool.and_eq_true_iff.mp h
  obtain ⟨c, hc, hcapital⟩ := List.any_eq_true.mp hupper
  have hother : (x.toList.any fun c => isUpperChar c || isTitleChar c) = true :=
    List.any_eq_true.mpr ⟨c, hc, by rw [hcapital, Bool.true_or]⟩
  rw [isLower, hother, Bool.not_true, Bool.and_false]

theorem outright_isConstant : Outright Finding.isConstant :=
  ⟨fun _ => rfl, fun _ => rfl, fun _ => rfl, fun _ => rfl, fun _ => rfl, rfl⟩

theorem issues_atLine {p : Finding → Bool} (found : Bool) {f : Finding} (n : Node)
    (hf : p f = true) : (atLine found f (.node n)).filterMap (Effect.issueIf p) =
      if found then [⟨f, n.line?⟩] else [] := by
  cases found with
  | true => simp [atLine, Effect.issueIf, hf, Value.line]
  | false => rfl

theorem misspelt_singleton (n : Node) :
    misspelt [n] = if isMisspelt n then [⟨.constantName n.ident, n.line?⟩] else [] := by
  cases h : isMisspelt n <;> simp [misspelt, h]

theorem constants_target (v : Value) :
    (constantEffects v).filterMap (Effect.issueIf Finding.isConstant) =
      if v.isKind .name then misspelt v.nodes else [] := by
  unfold constantEffects
  cases hv : v.isKind .name with
  | false => rfl
  | true =>
    obtain ⟨m, rfl, -⟩ := Value.isKind_iff.mp hv
    rw [if_pos rfl, if_pos rfl, List.filterMap_cons_none rfl, issues_atLine _ _ rfl, Bool.and_comm]
    exact (misspelt_singleton m).symm

theorem constants_leaf (atModule : Bool) (m : Node) :
    (leafEffects atModule m).filterMap (Effect.issueIf Finding.isConstant) =
      if atModule then misspelt [m] else [] := by
  have hbuiltIn : (atLine (isBuiltIn m.ident) (.builtInRedefined m.ident) (.node m)).filterMap
      (Effect.issueIf Finding.isConstant) = [] :=
    filterMap_without (forall_mem_atLine _ _ fun _ => rfl)
  have hnotes : (if atModule then [Effect.noteConstant m.ident m.line?] else []).filterMap
      (Effect.issueIf Finding.isConstant) = [] := by
    cases atModule <;> rfl
  have hvariable : (variableEffects atModule m.ident (.node m)).filterMap
      (Effect.issueIf Finding.isConstant) = if atModule then misspelt [m] else [] := by
    unfold variableEffects
    cases hupper : atModule && isUpper m.ident with
    | true =>
      obtain ⟨rfl, hname⟩ := Bool.and_eq_true_iff.mp hupper
      rw [isLower_of_isUpper hname, misspelt_singleton, isMisspelt, hname, Bool.true_and]
      exact issues_atLine _ _ rfl
    | false =>
      have hnone : (if atModule then misspelt [m] else []) = [] := by
        cases atModule with
        | false => rfl
        | true =>
          rw [Bool.true_and] at hupper
          rw [if_pos rfl, misspelt_singleton, isMisspelt, hupper]
          rfl
      rw [hnone, Bool.false_and, if_neg Bool.false_ne_true]
      split <;> rfl
  simp only [leafEffects, List.filterMap_append, hbuiltIn, hvariable, hnotes, List.nil_append,
    List.append_nil]
  exact List.append_nil _

theorem constants_leaves (atModule : Bool) (ms : List Node) :
    (ms.flatMap (leafEffects atModule)).filterMap (Effect.issueIf Finding.isConstant) =
      if atModule then misspelt ms else [] := by
  simp only [List.filterMap_flatMap, constants_leaf]
  cases atModule with
  | true =>
    simp only [if_true]
    rw [← misspelt_flatMap, List.flatMap_singleton']
  | false => exact List.flatMap_eq_nil_iff.mpr fun _ _ => rfl

/-! ### What entering a node reports -/

theorem constants_statement (s : Node) :
    (statementEffects (.node s)).filterMap (Effect.issueIf Finding.isConstant) =
      misspelt s.directTargets := by
  have htargets : ∀ ts : List Value,
      (ts.flatMap fun t => if t.isKind .name then misspelt t.nodes else []) =
        misspelt ((ts.filter (·.isKind .name)).filterMap Value.node?) := by
    intro ts
    induction ts with
    | nil => rfl
    | cons t ts ih =>
      rw [List.flatMap_cons, ih, List.filter_cons]
      cases ht : t.isKind .name with
      | false => rfl
      | true =>
        obtain ⟨m, rfl, -⟩ := Value.isKind_iff.mp ht
        rw [if_pos rfl, if_pos rfl, ← misspelt_append]
        rfl
  unfold statementEffects Node.directTargets
  by_cases hk : s.kind = .assign
  · rw [if_pos hk, if_pos (by simp [Value.isKind, hk]), List.filterMap_flatMap, ← htargets]
    simp only [constants_target]
  · rw [if_neg hk, if_neg (by simp [Value.isKind, hk])]
    rfl

theorem constants_body (vs : List Value) :
    (vs.flatMap statementEffects).filterMap (Effect.issueIf Finding.isConstant) =
      misspelt ((vs.filterMap Value.node?).flatMap Node.directTargets) := by
  induction vs with
  | nil => rfl
  | cons v vs ih =>
    rw [List.flatMap_cons, List.filterMap_append, ih]
    cases v with
    | node s => rw [constants_statement, ← misspelt_append]; rfl
    | atom c => rfl
    | list us => rfl

theorem not_isConstant_of_isLocal {f : Finding} (h : f.isLocal = true) : f.isConstant = false := by
  cases f with
  | constantName => cases h
  | _ => rfl

/-- What entering a node reports about constants: the first look of a module at its statements, or
the second look of a statement that stands directly in a module. -/
def constantsOf (above : List Link) (n : Node) : List Issue :=
  if n.kind = .program then misspelt (n.statements.flatMap Node.directTargets)
  else if topLevel above then misspelt n.boundLeaves
  else []

theorem constants_afterReports (above : List Link) (n : Node) :
    (afterReports above n).filterMap (Effect.issueIf Finding.isConstant) = constantsOf above n := by
  have hother : ¬(n.kind = .program ∨ n.kind = .assign ∨ n.kind = .forLoop) →
      (afterReports above n).filterMap (Effect.issueIf Finding.isConstant) = [] := by
    intro hk
    refine filterMap_without (forall_mem_afterReports issueIf_of_isQuiet (fun h => (hk h).elim)
      (fun _ => ⟨rfl, rfl⟩) (fun _ => without_callEffects rfl above n) (fun _ => ⟨rfl, rfl⟩)
      fun _ _ => rfl)
  unfold constantsOf
  cases hk : n.kind with
  | program =>
    rw [if_pos rfl, afterReports, hk]
    exact (List.filterMap_cons_none rfl).trans (constants_body _)
  | assign =>
    rw [if_neg nofun, afterReports, hk, Node.boundLeaves, hk]
    exact constants_leaves _ _
  | forLoop =>
    rw [if_neg nofun, afterReports, hk, Node.boundLeaves, hk]
    exact constants_leaves _ _
  | _ =>
    rw [if_neg nofun, Node.boundLeaves, hk, hother (by rw [hk]; simp)]
    exact (ite_self _).symm

theorem constants_after_entering (a : Analysis) (above : List Link) (n : Node) :
    (a.after (entering above n)).constantIssues = a.constantIssues ++ constantsOf above n := by
  have hlocal : Without Finding.isConstant (localReports n) :=
    without_localReports (fun _ hf _ => not_isConstant_of_isLocal hf) fun _ => rfl
  rw [Analysis.constantIssues, chosen_after outright_isConstant, entering_eq, List.filterMap_append,
    List.filterMap_append, filterMap_without (without_beforeReports n), filterMap_without hlocal,
    constants_afterReports]
  rfl

theorem constants_enter (h : Runs (enter above n) a () b) :
    b.constantIssues = a.constantIssues ++ constantsOf above n := by
  rw [(enter_performs above n).run h]
  exact constants_after_entering a above n

theorem constants_after_leaving (a : Analysis) (n : Node) (previous : ScopeRef) :
    (a.after (leaving n previous)).constantIssues = a.constantIssues := by
  rw [Analysis.constantIssues, chosen_after outright_isConstant,
    filterMap_without (without_leaving n previous), List.append_nil, Analysis.constantIssues]

/-! ### What a visit reports -/

/-- Below a statement nothing more is reported, so a visit reports what entering does. -/
theorem constants_visit (h : Runs (visit above n) a () b) (hn : ¬ n.Reaches .program) :
    b.constantIssues = a.constantIssues ++ constantsOf above n := by
  revert hn
  refine visit_induction (P := fun above n a b => ¬ n.Reaches .program →
    b.constantIssues = a.constantIssues ++ constantsOf above n) ?_ h
  intro above n a m hbranches hn
  rw [reaches_iff, not_or, not_exists] at hn
  obtain ⟨hk, hbelow⟩ := hn
  have hhere : topLevel (⟨n, none⟩ :: above) = false := by simpa [topLevel] using hk
  have hbranch : ∀ c ∈ n.branches, constantsOf (⟨n, none⟩ :: above) c = [] := by
    intro c hc
    have hkind : c.kind ≠ .program := fun hkind => hbelow c ⟨hc, reaches_iff.mpr (.inl hkind)⟩
    rw [constantsOf, if_neg hkind, hhere]
    rfl
  have hsame : m.constantIssues = (a.after (entering above n)).constantIssues := by
    refine (hbranches.mono fun c hc a b hvisit => ?_).relates
      (R := fun a b => b.constantIssues = a.constantIssues) (fun _ => rfl)
      fun _ _ _ hab hbc => hbc.trans hab
    rw [hvisit fun hr => hbelow c ⟨hc, hr⟩, hbranch c hc, List.append_nil]
  rw [constants_after_leaving, hsame, constants_after_entering]

theorem constants_visitsAll {cs : List Node} (h : VisitsAll above cs a b)
    (htop : topLevel above = true) (hcs : ∀ c ∈ cs, ¬ c.Reaches .program) :
    b.constantIssues = a.constantIssues ++ misspelt (cs.flatMap Node.boundLeaves) := by
  induction cs generalizing a with
  | nil =>
    rw [show b = a from h]
    exact (List.append_nil _).symm
  | cons c cs ih =>
    obtain ⟨m, hc, hrest⟩ := h
    obtain ⟨hfirst, hlater⟩ := List.forall_mem_cons.mp hcs
    have hkind : c.kind ≠ .program := fun hkind => hfirst (reaches_iff.mpr (.inl hkind))
    rw [ih hrest hlater, constants_visit hc hfirst, constantsOf, if_neg hkind, if_pos htop,
      List.flatMap_cons, misspelt_append, List.append_assoc]

/-! ### The statements of a module -/

-- Each field stands once, so what only one field has is found in the first with its label.
theorem flatMap_fields {β : Type} {fs : List Field} {l : Label} {f : Field → List β}
    (hfields : (fs.map Field.label).Nodup) (hf : ∀ e ∈ fs, e.label ≠ l → f e = []) :
    fs.flatMap f = ((fs.find? (·.label == l)).map f).getD [] := by
  induction fs with
  | nil => rfl
  | cons e fs ih =>
    rw [List.map_cons, List.nodup_cons] at hfields
    obtain ⟨hfirst, hlater⟩ := List.forall_mem_cons.mp hf
    rw [List.flatMap_cons, List.find?_cons]
    by_cases he : e.label = l
    · have hnone : fs.flatMap f = [] := by
        refine List.flatMap_eq_nil_iff.mpr fun d hd => hlater d hd fun hl => ?_
        exact hfields.1 (by rw [he, ← hl]; exact List.mem_map_of_mem hd)
      rw [hnone, beq_iff_eq.mpr he]
      exact List.append_nil _
    · rw [hfirst he, ih hfields.2 hlater, beq_eq_false_iff_ne.mpr he]
      rfl

theorem flatMap_nodes_body (hbody : ∃ vs, (Value.node n).part .body = .list vs) {β : Type}
    (f : Node → List β) :
    ((n.fields.find? (·.label == .body)).map (·.value.nodes.flatMap f)).getD [] =
      n.statements.flatMap f := by
  obtain ⟨vs, hvs⟩ := hbody
  rw [Node.statements, Value.membersAt, hvs]
  simp only [Value.part, Value.part?, Node.get?] at hvs
  cases hfind : n.fields.find? (·.label == .body) with
  | some e =>
    rw [hfind] at hvs
    rw [Option.map_some, Option.getD_some, show e.value = .list vs from hvs]
    rfl
  | none =>
    rw [hfind] at hvs
    cases hoptional : n.kind.isOptional .body <;> simp [hoptional] at hvs

theorem boundLeaves_children (h : n.WellFormed) (hfields : (n.fields.map Field.label).Nodup) :
    n.children.flatMap Node.boundLeaves = n.statements.flatMap Node.boundLeaves := by
  obtain ⟨hk, hsound⟩ := h
  obtain ⟨vs, hvs, -⟩ := hsound.many hk (l := .body) (by decide)
  -- The other field of a module holds no statements.
  have hother : ∀ f ∈ n.fields, f.label ≠ .body → f.value.nodes.flatMap Node.boundLeaves = [] := by
    intro f hf hl
    obtain ⟨e, he, hlabel, haccepts⟩ := hsound.conforms.fields f hf
    have hignored : f.label = .ignoredTypes := by
      have hlayout : Kind.layout .program = [(.body, .many), (.ignoredTypes, .many)] := rfl
      rw [hk, hlayout, List.mem_cons, List.mem_singleton] at he
      rcases he with rfl | rfl
      · exact (hl hlabel.symm).elim
      · exact hlabel.symm
    refine List.flatMap_eq_nil_iff.mpr fun m hm => ?_
    have hcontent := Presence.accepts_node haccepts hm
    rw [hignored] at hcontent
    have hcategory : m.kind.category = .typeIgnore := eq_of_beq hcontent
    cases hm : m.kind with
    | assign | forLoop =>
      rw [hm] at hcategory
      cases hcategory
    | _ => rw [Node.boundLeaves, hm]
  rw [Node.children, List.flatMap_assoc, flatMap_fields hfields hother]
  exact flatMap_nodes_body ⟨vs, hvs⟩ _

theorem constants_module (h : n.WellFormed) (hfields : (n.fields.map Field.label).Nodup)
    (hrun : Runs (visit [] n) {} () b) :
    b.constantIssues = misspelt (n.statements.flatMap Node.directTargets) ++
      misspelt (n.statements.flatMap Node.boundLeaves) := by
  obtain ⟨m, m', henter, hbranches, hleave⟩ := (runs_visit n).mp hrun
  have htop : topLevel [⟨n, none⟩] = true := by simp [topLevel, h.1]
  have hsecond := constants_visitsAll hbranches htop fun c hc => h.2.not_reaches_below hc
  rw [branches_of_plain h.2.plain, boundLeaves_children h hfields] at hsecond
  rw [(leave_performs n _).run hleave, constants_after_leaving, hsecond, constants_enter henter,
    constantsOf, if_pos h.1]
  rfl

theorem boundLeaves_statements_perm (ss : List Node) :
    (ss.flatMap Node.boundLeaves).Perm (ss.flatMap Node.directTargets ++
      (ss.flatMap Node.innerTargets ++ ss.flatMap Node.loopTargets)) := by
  have hinner := List.flatMap_append_perm ss Node.innerTargets Node.loopTargets
  have hdirect := List.flatMap_append_perm ss Node.directTargets
    fun s => s.innerTargets ++ s.loopTargets
  refine (List.Perm.flatMap_left ss fun s _ => s.boundLeaves_perm).trans (hdirect.symm.trans ?_)
  exact hinner.symm.append_left _

theorem directTargets_sublist (n : Node) : n.directTargets.Sublist n.boundLeaves := by
  unfold Node.directTargets Node.boundLeaves
  by_cases hk : n.kind = .assign
  · rw [if_pos hk, hk]
    rw [← Node.flatMap_leaves_of_names fun v hv => (List.mem_filter.mp hv).2]
    exact List.filter_sublist.flatMap Value.leaves
  · rw [if_neg hk]
    exact List.nil_sublist _

theorem count_misspelt (ss : List Node) (i : Issue) :
    (misspelt (ss.flatMap Node.boundLeaves)).count i =
      (misspelt (ss.flatMap Node.directTargets)).count i +
        ((misspelt (ss.flatMap Node.innerTargets)).count i +
          (misspelt (ss.flatMap Node.loopTargets)).count i) := by
  have hperm := ((boundLeaves_statements_perm ss).filter isMisspelt).map
    fun m => (⟨.constantName m.ident, m.line?⟩ : Issue)
  rw [misspelt, hperm.count_eq]
  simp only [misspelt, List.filter_append, List.map_append, List.count_append]

theorem count_constant (a : Analysis) (x : String) (line : Line) :
    a.issues.count ⟨.constantName x, line⟩ = a.constantIssues.count ⟨.constantName x, line⟩ :=
  (List.count_filter rfl).symm

/-! ### The second look by itself -/

theorem kind_of_mem_directTargets {s m : Node} (hm : m ∈ s.directTargets) :
    m.kind = .name ∧ m ∈ s.children := by
  unfold Node.directTargets at hm
  split at hm
  · obtain ⟨v, hv, hnode⟩ := List.mem_filterMap.mp hm
    obtain ⟨hmem, hname⟩ := List.mem_filter.mp hv
    cases v with
    | node c =>
      cases hnode
      exact ⟨eq_of_beq hname, mem_children_of_mem_membersAt hmem⟩
    | atom c => cases hnode
    | list vs => cases hnode
  · cases hm

theorem mem_children_of_statement {s : Node} (hs : s ∈ n.statements) : s ∈ n.children := by
  obtain ⟨v, hv, hnode⟩ := List.mem_filterMap.mp hs
  cases v with
  | node c =>
    cases hnode
    exact mem_children_of_mem_membersAt hv
  | atom c => cases hnode
  | list vs => cases hnode

theorem constants_assign {ms : List Node} (hms : ∀ m ∈ ms, m.kind = .name ∧ m.Sound)
    (a : Analysis) :
    ∃ b, Runs (ms.forM (assignNode true)) a () b ∧
      b.constantIssues = a.constantIssues ++ misspelt ms := by
  induction ms generalizing a with
  | nil => exact ⟨a, runs_pure.mpr ⟨rfl, rfl⟩, (List.append_nil _).symm⟩
  | cons m ms ih =>
    obtain ⟨⟨hk, hsound⟩, hrest⟩ := List.forall_mem_cons.mp hms
    obtain ⟨_, c, hc⟩ := assignNode_safe true m hsound a
    obtain ⟨b, hb, hissues⟩ := ih hrest c
    refine ⟨b, runs_seq.mpr ⟨c, hc, hb⟩, ?_⟩
    have hfirst : c.constantIssues = a.constantIssues ++ misspelt [m] := by
      rw [(assignNode_performs true m).run hc, Node.leaves_of_name hk, Analysis.constantIssues,
        chosen_after outright_isConstant, constants_leaves]
      rfl
    rw [hissues, hfirst, List.append_assoc, ← misspelt_append]
    rfl

/-- The first look of a module at its direct targets reports what assigning to them reports later,
in the same order and at the same lines. In the result each such issue stands twice, one about a
name inside a target or about the name of a loop once, and there are no others. -/
theorem constants_reported_twice {n : Node} (h : n.WellFormed)
    (hfields : (n.fields.map Field.label).Nodup) :
    (∀ b, ∃ c, Runs (enter [] n) b () c ∧
      c.constantIssues = b.constantIssues ++ misspelt (n.statements.flatMap Node.directTargets)) ∧
    (∀ b, ∃ c, Runs ((n.statements.flatMap Node.directTargets).forM (assignNode true)) b () c ∧
      c.constantIssues = b.constantIssues ++ misspelt (n.statements.flatMap Node.directTargets)) ∧
    ∃ a, analysis n = .ok a ∧
      a.constantIssues = misspelt (n.statements.flatMap Node.directTargets) ++
        misspelt (n.statements.flatMap Node.boundLeaves) ∧
      (n.statements.flatMap Node.directTargets).Sublist (n.statements.flatMap Node.boundLeaves) ∧
      ∀ x line, a.issues.count ⟨.constantName x, line⟩ =
        2 * (misspelt (n.statements.flatMap Node.directTargets)).count ⟨.constantName x, line⟩ +
          (misspelt (n.statements.flatMap Node.innerTargets)).count ⟨.constantName x, line⟩ +
          (misspelt (n.statements.flatMap Node.loopTargets)).count ⟨.constantName x, line⟩ := by
  refine ⟨fun b => ?_, ?_, ?_⟩
  · obtain ⟨_, c, hc⟩ := enter_safe h.2 (by rw [h.1]; nofun) (List.forall_mem_nil _) (.inl h.1) b
    refine ⟨c, hc, ?_⟩
    rw [constants_enter hc, constantsOf, if_pos h.1]
  · refine constants_assign fun m hm => ?_
    obtain ⟨s, hs, hm⟩ := List.mem_flatMap.mp hm
    obtain ⟨hk, hchild⟩ := kind_of_mem_directTargets hm
    exact ⟨hk, (h.2.child (mem_children_of_statement hs)).child hchild⟩
  · obtain ⟨b, hb, ha⟩ := analysis_eq h
    have hissues : b.reportUnused.constantIssues = _ :=
      (chosen_reportUnused outright_isConstant b).trans (constants_module h hfields hb)
    refine ⟨_, ha, hissues, ?_, fun x line => ?_⟩
    · exact List.Sublist.flatMap_right _ fun s _ => directTargets_sublist s
    · rw [count_constant, hissues, List.count_append, count_misspelt]
      omega

/-- Capitals that are no letters of the pattern, as targets, in a list, as the name of a loop and in
a loop. -/
def foreignCapitals : Node := treeOf "Ä = [Ö, B] = Ä = 1\nfor Ü in Ä:\n  Ö = 2\n"

theorem constants_reported_twice_foreignCapitals :
    foreignCapitals.WellFormed ∧ (foreignCapitals.fields.map Field.label).Nodup ∧
      ∃ a, analysis foreignCapitals = .ok a ∧
        a.constantIssues = [⟨.constantName "Ä", some 1⟩, ⟨.constantName "Ä", some 1⟩,
          ⟨.constantName "Ä", some 1⟩, ⟨.constantName "Ö", some 1⟩, ⟨.constantName "Ä", some 1⟩,
          ⟨.constantName "Ü", some 2⟩] ∧
        a.issues.count ⟨.constantName "Ä", some 1⟩ = 4 ∧
        a.issues.count ⟨.constantName "Ö", some 1⟩ = 1 := by
  have hevaluated : foreignCapitals.WellFormed ∧ (foreignCapitals.fields.map Field.label).Nodup ∧
      misspelt (foreignCapitals.statements.flatMap Node.directTargets) =
        [⟨.constantName "Ä", some 1⟩, ⟨.constantName "Ä", some 1⟩] ∧
      misspelt (foreignCapitals.statements.flatMap Node.boundLeaves) =
        [⟨.constantName "Ä", some 1⟩, ⟨.constantName "Ö", some 1⟩, ⟨.constantName "Ä", some 1⟩,
          ⟨.constantName "Ü", some 2⟩] ∧
      misspelt (foreignCapitals.statements.flatMap Node.innerTargets) =
        [⟨.constantName "Ö", some 1⟩] ∧
      misspelt (foreignCapitals.statements.flatMap Node.loopTargets) =
        [⟨.constantName "Ü", some 2⟩] := by
    decide +kernel
  obtain ⟨hformed, hfields, hdirect, hbound, hinner, hloop⟩ := hevaluated
  obtain ⟨-, -, a, ha, hissues, -, hcount⟩ := constants_reported_twice hformed hfields
  rw [hdirect, hbound] at hissues
  rw [hdirect, hinner, hloop] at hcount
  exact ⟨hformed, hfields, a, ha, hissues, hcount "Ä" (some 1), hcount "Ö" (some 1)⟩

end CodeLint.Lint
