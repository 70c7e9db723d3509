import CodeLint.Proofs.Records
import CodeLint.Proofs.Totality

/-!
Checks that need to see one node only. Their reports stand together among the effects of entering
the node, and no other effect reports a finding of this sort. So the findings of this sort are,
in order, those of each node of the tree, whatever encloses it.
-/

namespace CodeLint.Lint

open CodeLint.Tree

def localCodes : List String :=
  ["E401", "C0111", "W0102", "E731", "W0104", "E711", "E712", "E721", "E0001", "W0702", "E722",
    "W0703", "C0103"]

/-- Findings that depend on one node. How a variable or a constant should be spelled depends on
where it stands and on the classes met so far. -/
def Finding.isLocal : Finding → Bool
  | constantName _ | variableName _ => false
  | f => localCodes.contains f.code

def Issue.isLocal (i : Issue) : Bool := i.finding.isLocal

def Analysis.localIssues (a : Analysis) : List Issue := a.issues.filter Issue.isLocal

def Effect.localIssue? : Effect → Option Issue
  | report f line => if f.isLocal then some ⟨f, line⟩ else none
  | _ => none

def localReports (n : Node) : List Effect :=
  match n.kind with
  | .importStmt => severalEffects n
  | .classDef => atLine (!capWords.accepts n.title) (.className n.title) (.node n)
  | .functionDef =>
    atLine (!isDunder n.title && !snakeCase.accepts n.title) (.functionName n.title) (.node n) ++
      atLine (!documented n) (.missingDocstring n.title) (.node n) ++
      signatureEffects n n.title ((Value.node n).part .positional)
  | .assign => lambdaEffects n
  | .whileLoop =>
    atLine (constantIs isTrueValue ((Value.node n).part .test) && !n.contains .breakStmt)
      .endlessLoop (.node n)
  | .compare => chainEffects n 0 ((Value.node n).membersAt .operators)
  | .binOp => binaryEffects n
  | .tryStmt => ((Value.node n).membersAt .handlers).flatMap handlerEffects
  | _ => []

def nodeIssues (n : Node) : List Issue := (localReports n).filterMap Effect.localIssue?

/-! ### The effects around the reports of a node -/

def beforeReports (n : Node) : List Effect :=
  match n.kind with
  | .classDef => [.bind n.title .classDef, .addClass n.title]
  | .whileLoop => loopEffects n
  | _ => []

def afterReports (above : List Link) (n : Node) : List Effect :=
  match n.kind with
  | .program => moduleEffects n
  | .importStmt | .importFrom => importEffects n
  | .classDef | .whileLoop => [.openScope]
  | .functionDef =>
    [Effect.setFunction (some n.title), .define n.title n.line?, .openScope] ++
      n.parameterNames.map (.bind · .param)
  | .returnStmt => [.addReturn (!((Value.node n).part .value).isNone)]
  | .assign => n.assignedLeaves.flatMap (leafEffects (topLevel above))
  | .name => nameEffects n
  | .globalStmt => n.declaredNames.map .declareGlobal
  | .nonlocalStmt => n.declaredNames.map .declareNonlocal
  | .forLoop => forEffects above n
  | .call => callEffects above n
  | _ => []

theorem entering_eq (above : List Link) (n : Node) :
    entering above n = beforeReports n ++ localReports n ++ afterReports above n := by
  unfold entering beforeReports localReports afterReports
  cases n.kind with
  | functionDef => simp only [functionEffects, List.append_assoc, List.nil_append]
  | compare | binOp | tryStmt => simp only [List.append_nil, List.nil_append]
  | _ => rfl

def Effect.isReport : Effect → Bool
  | report _ _ => true
  | _ => false

theorem forall_mem_atLine {Q : Effect → Prop} (found : Bool) {f : Finding} (v : Value)
    (hf : ∀ line, Q (.report f line)) : ∀ e ∈ atLine found f v, Q e := by
  cases found <;> simp [atLine, hf]

theorem isReport_of_mem_atLine (found : Bool) (f : Finding) (v : Value) :
    ∀ e ∈ atLine found f v, e.isReport = true :=
  forall_mem_atLine found v fun _ => rfl

theorem code_of_isLocal {f : Finding} {code : String} (h : f.isLocal = true)
    (hcode : localCodes.contains code = false) : (f.code == code) = false := by
  rw [beq_eq_false_iff_ne]
  rintro rfl
  unfold Finding.isLocal at h
  split at h
  · cases h
  · cases h
  · rw [hcode] at h
    cases h

def OnlyReports (q : Finding → Prop) (es : List Effect) : Prop :=
  ∀ e ∈ es, ∃ f line, e = .report f line ∧ q f

section OnlyReports

variable {q : Finding → Prop}

theorem onlyReports_atLine (found : Bool) {f : Finding} (v : Value) (hf : q f) :
    OnlyReports q (atLine found f v) :=
  forall_mem_atLine found v fun line => ⟨f, line, rfl, hf⟩

theorem onlyReports_singleton {f : Finding} (line : Line) (hf : q f) :
    OnlyReports q [.report f line] :=
  List.forall_mem_singleton.mpr ⟨f, line, rfl, hf⟩

-- Endless loops and missing documentation apart, since a choice can be of one of them alone.
variable (hq : ∀ f, f.isLocal = true → (f.code == "W0104") = false →
  (f.code == "C0111") = false → q f)
include hq

theorem onlyReports_signature (n : Node) (f : String) (params : Value) :
    OnlyReports q (signatureEffects n f params) := by
  simp only [OnlyReports, signatureEffects, List.forall_mem_append, List.forall_mem_flatMap]
  refine ⟨⟨⟨⟨?_, ?_⟩, ?_⟩, ?_⟩, ?_⟩
  all_goals exact fun _ _ => onlyReports_atLine _ _ (hq _ rfl rfl rfl)

theorem onlyReports_chain (n : Node) (i : Nat) (operators : List Value) :
    OnlyReports q (chainEffects n i operators) := by
  induction operators generalizing i with
  | nil => exact List.forall_mem_nil _
  | cons operator rest ih =>
    simp only [OnlyReports, chainEffects, comparisonEffects, List.forall_mem_append]
    refine ⟨⟨?_, ?_⟩, ih (i + 1)⟩
    · split
      · exact List.forall_mem_append.mpr
          ⟨onlyReports_atLine _ _ (hq _ rfl rfl rfl), onlyReports_atLine _ _ (hq _ rfl rfl rfl)⟩
      · exact List.forall_mem_nil _
    · split
      · exact onlyReports_atLine _ _ (hq _ rfl rfl rfl)
      · exact List.forall_mem_nil _

theorem onlyReports_of_nodes {n : Node} (hendless : n.kind = .whileLoop → q .endlessLoop)
    (hmissing : n.kind = .functionDef → q (.missingDocstring n.title)) :
    OnlyReports q (localReports n) := by
  unfold localReports
  cases hk : n.kind with
  | importStmt | classDef | binOp => exact onlyReports_atLine _ _ (hq _ rfl rfl rfl)
  | whileLoop => exact onlyReports_atLine _ _ (hendless hk)
  | functionDef =>
    simp only [OnlyReports, List.forall_mem_append]
    exact ⟨⟨onlyReports_atLine _ _ (hq _ rfl rfl rfl), onlyReports_atLine _ _ (hmissing hk)⟩,
      onlyReports_signature hq n _ _⟩
  | assign =>
    simp only [lambdaEffects]
    split
    · split
      · split
        · exact onlyReports_singleton _ (hq _ rfl rfl rfl)
        · exact List.forall_mem_nil _
      · exact List.forall_mem_nil _
    · exact List.forall_mem_nil _
  | compare => exact onlyReports_chain hq n 0 _
  | tryStmt =>
    refine List.forall_mem_flatMap.mpr fun h _ => ?_
    refine List.forall_mem_append.mpr ⟨onlyReports_atLine _ _ (hq _ rfl rfl rfl), ?_⟩
    split
    · exact onlyReports_singleton _ (hq _ rfl rfl rfl)
    · exact onlyReports_atLine _ _ (hq _ rfl rfl rfl)
  | _ => exact List.forall_mem_nil _

end OnlyReports

theorem onlyReports_localReports {q : Finding → Prop}
    (hq : ∀ f, f.isLocal = true → (f.code == "W0104") = false → q f) {n : Node}
    (hendless : n.kind = .whileLoop → q .endlessLoop) : OnlyReports q (localReports n) :=
  onlyReports_of_nodes (fun f hf hcode _ => hq f hf hcode) hendless fun _ => hq _ rfl rfl

theorem isReport_of_onlyReports {q : Finding → Prop} {es : List Effect} (h : OnlyReports q es) :
    ∀ e ∈ es, e.isReport = true := by
  intro e he
  obtain ⟨f, line, rfl, -⟩ := h e he
  rfl

theorem isReport_of_mem_signature {n : Node} {f : String} {params : Value} :
    ∀ e ∈ signatureEffects n f params, e.isReport = true :=
  isReport_of_onlyReports (onlyReports_signature (fun _ _ _ _ => trivial) n f params)

theorem isReport_of_mem_localReports (n : Node) : ∀ e ∈ localReports n, e.isReport = true :=
  isReport_of_onlyReports (onlyReports_localReports (fun _ _ _ => trivial) fun _ => trivial)

/-! ### What stands behind the reports of a node -/

def Effect.isQuiet : Effect → Bool
  | report _ _ | setFunction _ | define _ _ | addReturn _ | checkReturns _ _ | enterLoop
  | checkDepth _ | leaveLoop => false
  | _ => true

section Behind

variable {Q : Effect → Prop} (hquiet : ∀ e, e.isQuiet = true → Q e)
include hquiet

theorem forall_of_isQuiet {es : List Effect} (h : es.all Effect.isQuiet = true) : ∀ e ∈ es, Q e :=
  fun e he => hquiet e (List.all_eq_true.mp h e he)

theorem forall_mem_callEffects (hfile : ∀ line, Q (.report .unmanagedFile line))
    (above : List Link) (n : Node) : ∀ e ∈ callEffects above n, Q e := by
  simp only [callEffects]
  split
  · exact List.forall_mem_append.mpr
      ⟨forall_mem_atLine _ _ hfile, forall_of_isQuiet hquiet rfl⟩
  · split <;> exact forall_of_isQuiet hquiet rfl

variable (hconstant : ∀ x line, Q (.report (.constantName x) line))
include hconstant

theorem forall_mem_statementEffects (v : Value) : ∀ e ∈ statementEffects v, Q e := by
  have htarget : ∀ t, ∀ e ∈ constantEffects t, Q e := by
    intro t
    unfold constantEffects
    split
    · exact List.forall_mem_cons.mpr ⟨hquiet _ rfl, forall_mem_atLine _ t (hconstant _)⟩
    · exact List.forall_mem_nil _
  unfold statementEffects
  split
  · exact List.forall_mem_flatMap.mpr fun t _ => htarget t
  · exact List.forall_mem_nil _

variable (hbuiltIn : ∀ x line, Q (.report (.builtInRedefined x) line))
include hbuiltIn

theorem forall_mem_leafEffects (atModule : Bool) (n : Node) :
    ∀ e ∈ leafEffects atModule n, Q e := by
  have hvariable : ∀ e ∈ variableEffects atModule n.ident (.node n), Q e := by
    unfold variableEffects
    split
    · exact forall_mem_atLine _ _ (hconstant _)
    · split <;> exact forall_of_isQuiet hquiet rfl
  simp only [leafEffects, List.forall_mem_append]
  refine ⟨⟨⟨forall_mem_atLine _ _ (hbuiltIn _), hvariable⟩, forall_of_isQuiet hquiet rfl⟩, ?_⟩
  split <;> exact forall_of_isQuiet hquiet rfl

end Behind

/-- Behind the reports of a node stand quiet effects and two kinds of reports on names that are
assigned, unless the node is a loop, a call, a function or a return. -/
theorem forall_mem_afterReports {Q : Effect → Prop} (hquiet : ∀ e, e.isQuiet = true → Q e)
    {above : List Link} {n : Node}
    (hassign : n.kind = .program ∨ n.kind = .assign ∨ n.kind = .forLoop →
      (∀ x line, Q (.report (.constantName x) line)) ∧
        ∀ x line, Q (.report (.builtInRedefined x) line))
    (hloop : n.kind = .forLoop → Q .enterLoop ∧ Q (.checkDepth n.line?))
    (hcall : n.kind = .call → ∀ e ∈ callEffects above n, Q e)
    (hfunction : n.kind = .functionDef →
      Q (.setFunction (some n.title)) ∧ Q (.define n.title n.line?))
    (hreturn : n.kind = .returnStmt → ∀ hasValue, Q (.addReturn hasValue)) :
    ∀ e ∈ afterReports above n, Q e := by
  have hleaves : n.kind = .program ∨ n.kind = .assign ∨ n.kind = .forLoop →
      ∀ ms : List Node, ∀ e ∈ ms.flatMap (leafEffects (topLevel above)), Q e := by
    intro hk ms
    obtain ⟨hconstant, hbuiltIn⟩ := hassign hk
    exact List.forall_mem_flatMap.mpr fun m _ =>
      forall_mem_leafEffects hquiet hconstant hbuiltIn _ m
  have hname : ∀ e ∈ nameEffects n, Q e := by
    unfold nameEffects
    split
    · exact forall_of_isQuiet hquiet rfl
    · split <;> exact forall_of_isQuiet hquiet rfl
  unfold afterReports
  cases hk : n.kind with
  | program =>
    refine List.forall_mem_cons.mpr ⟨hquiet _ rfl, List.forall_mem_flatMap.mpr fun v _ => ?_⟩
    exact forall_mem_statementEffects hquiet (hassign (.inl hk)).1 v
  | importStmt | importFrom =>
    exact List.forall_mem_flatMap.mpr fun item _ => forall_of_isQuiet hquiet rfl
  | functionDef =>
    obtain ⟨hset, hdefine⟩ := hfunction hk
    refine List.forall_mem_append.mpr ⟨List.forall_mem_cons.mpr ⟨hset, List.forall_mem_cons.mpr
      ⟨hdefine, forall_of_isQuiet hquiet rfl⟩⟩, ?_⟩
    exact List.forall_mem_map.mpr fun _ _ => hquiet _ rfl
  | returnStmt => exact List.forall_mem_singleton.mpr (hreturn hk _)
  | assign => exact hleaves (.inr (.inl hk)) _
  | name => exact hname
  | forLoop =>
    obtain ⟨henter, hdepth⟩ := hloop hk
    exact List.forall_mem_append.mpr
      ⟨List.forall_mem_cons.mpr ⟨henter, List.forall_mem_singleton.mpr hdepth⟩,
        List.forall_mem_cons.mpr ⟨hquiet _ rfl, hleaves (.inr (.inr hk)) _⟩⟩
  | call => exact hcall hk
  | globalStmt | nonlocalStmt => exact List.forall_mem_map.mpr fun _ _ => hquiet _ rfl
  | _ => exact forall_of_isQuiet hquiet rfl

/-! ### What an effect can report -/

def Effect.CanReport (f : Finding) : Effect → Prop
  | report g _ => f = g
  | checkReturns g _ => f = .mixedReturns g
  | checkVariable x _ => f = .variableName x
  | checkDefined x _ => f = .undefinedVariable x
  | checkDepth _ => f = .deepLoop
  | reportUnusedImports => ∃ x, f = .unusedImport x
  | _ => False

theorem exists_added (a : Analysis) (e : Effect) :
    ∃ is, (e.apply a).issues = a.issues ++ is ∧ ∀ i ∈ is, e.CanReport i.finding := by
  have hnothing : ∃ is, a.issues = a.issues ++ is ∧ ∀ i ∈ is, e.CanReport i.finding :=
    ⟨[], (List.append_nil _).symm, List.forall_mem_nil _⟩
  have hreport : ∀ f line, e.CanReport f →
      ∃ is, (a.report f line).issues = a.issues ++ is ∧ ∀ i ∈ is, e.CanReport i.finding :=
    fun f line hf => ⟨[⟨f, line⟩], rfl, List.forall_mem_singleton.mpr hf⟩
  cases e with
  | report f line => exact hreport f line rfl
  | checkReturns f line =>
    simp only [Effect.apply]
    split
    · exact hnothing
    · split
      · exact hreport _ line rfl
      · exact hnothing
  | checkVariable x line | checkDefined x line =>
    simp only [Effect.apply]
    split
    · exact hnothing
    · exact hreport _ line rfl
  | checkDepth line =>
    simp only [Effect.apply]
    split
    · exact hreport _ line rfl
    · exact hnothing
  | reportUnusedImports =>
    refine ⟨a.unusedImports, rfl, fun i hi => ?_⟩
    obtain ⟨entry, -, rfl⟩ := List.mem_map.mp hi
    exact ⟨entry.1, rfl⟩
  | _ =>
    rw [issues_apply a rfl]
    exact hnothing

/-! ### The effects that report no finding of a choice -/

section Choice

variable (p : Finding → Bool)

def Effect.issueIf : Effect → Option Issue
  | report f line => if p f then some ⟨f, line⟩ else none
  | _ => none

def Without (es : List Effect) : Prop := ∀ e ∈ es, e.issueIf p = none

variable {p}

theorem filterMap_without {es : List Effect} (h : Without p es) :
    es.filterMap (Effect.issueIf p) = [] :=
  List.filterMap_eq_nil_iff.mpr h

theorem without_nil : Without p [] := List.forall_mem_nil _

theorem without_localReports {n : Node}
    (hp : ∀ f, f.isLocal = true → (f.code == "W0104") = false → p f = false)
    (hendless : n.kind = .whileLoop → p .endlessLoop = false) : Without p (localReports n) := by
  intro e he
  obtain ⟨f, line, rfl, hf⟩ := onlyReports_localReports hp hendless e he
  rw [Effect.issueIf, hf, if_neg Bool.false_ne_true]

theorem without_beforeReports (n : Node) : Without p (beforeReports n) := by
  unfold beforeReports
  cases n.kind with
  | classDef | whileLoop => simp [Without, loopEffects, Effect.issueIf]
  | _ => exact without_nil

theorem issueIf_of_isQuiet (e : Effect) (he : e.isQuiet = true) : e.issueIf p = none := by
  cases e with
  | report => cases he
  | _ => rfl

theorem without_callEffects (hfile : p .unmanagedFile = false) (above : List Link) (n : Node) :
    Without p (callEffects above n) :=
  forall_mem_callEffects issueIf_of_isQuiet (fun _ => by simp [Effect.issueIf, hfile]) above n

theorem without_afterReports (hconstant : ∀ x, p (.constantName x) = false)
    (hbuiltIn : ∀ x, p (.builtInRedefined x) = false) {above : List Link} {n : Node}
    (hcall : n.kind = .call → Without p (callEffects above n)) :
    Without p (afterReports above n) :=
  forall_mem_afterReports issueIf_of_isQuiet
    (fun _ => ⟨fun x _ => by simp [Effect.issueIf, hconstant x],
      fun x _ => by simp [Effect.issueIf, hbuiltIn x]⟩)
    (fun _ => ⟨rfl, rfl⟩) hcall (fun _ => ⟨rfl, rfl⟩) fun _ _ => rfl

theorem without_leaving (n : Node) (previous : ScopeRef) : Without p (leaving n previous) := by
  unfold leaving
  cases n.kind with
  | program | classDef | functionDef | forLoop | whileLoop => simp [Without, Effect.issueIf]
  | _ => exact without_nil

/-! ### The record of a choice -/

variable (p) in
/-- A choice of findings that are reported outright, never after a look at the analysis. -/
structure Outright : Prop where
  undefinedVariable : ∀ x, p (.undefinedVariable x) = false
  unusedVariable : ∀ x, p (.unusedVariable x) = false
  unusedImport : ∀ x, p (.unusedImport x) = false
  variableName : ∀ x, p (.variableName x) = false
  mixedReturns : ∀ x, p (.mixedReturns x) = false
  deepLoop : p .deepLoop = false

variable (p) in
def Analysis.chosen (a : Analysis) : List Issue := a.issues.filter fun i => p i.finding

theorem chosen_report (a : Analysis) (f : Finding) (line : Line) :
    (a.report f line).chosen p =
      ((Effect.report f line).issueIf p).elim (a.chosen p) fun i => a.chosen p ++ [i] := by
  simp only [Analysis.chosen, Analysis.report, List.filter_append, Effect.issueIf]
  cases hf : p f with
  | false => simp [hf]
  | true => simp [hf]

theorem filter_unused_of_not {α : Type} {f : α → Finding} (hf : ∀ x, p (f x) = false)
    (es : List (α × Line)) :
    (es.map fun e => (⟨f e.1, e.2⟩ : Issue)).filter (fun i => p i.finding) = [] := by
  refine List.filter_eq_nil_iff.mpr fun i hi => ?_
  obtain ⟨e, -, rfl⟩ := List.mem_map.mp hi
  simp [hf]

theorem withCode_reportUnused_of_ne {code : String} (hcode : ("W0612" == code) = false)
    (a : Analysis) : a.reportUnused.withCode code = a.withCode code := by
  rw [Analysis.withCode, Analysis.reportUnused, List.filter_append,
    filter_unused_of_not (p := fun f => f.code == code) (f := .unusedVariable) fun _ => hcode,
    List.append_nil, Analysis.withCode]

theorem chosen_apply_of_not (a : Analysis) {e : Effect} (he : ∀ f, e.CanReport f → p f = false) :
    (e.apply a).chosen p = a.chosen p := by
  obtain ⟨is, hissues, his⟩ := exists_added a e
  have hnone : is.filter (fun i => p i.finding) = [] :=
    List.filter_eq_nil_iff.mpr fun i hi => by simp [he _ (his i hi)]
  rw [Analysis.chosen, hissues, List.filter_append, hnone, List.append_nil, Analysis.chosen]

theorem chosen_apply (hp : Outright p) (a : Analysis) (e : Effect) :
    (e.apply a).chosen p = (e.issueIf p).elim (a.chosen p) fun i => a.chosen p ++ [i] := by
  cases e with
  | report f line => exact chosen_report a f line
  | checkReturns g line => exact chosen_apply_of_not a fun f hf => hf ▸ hp.mixedReturns g
  | checkVariable x line => exact chosen_apply_of_not a fun f hf => hf ▸ hp.variableName x
  | checkDefined x line => exact chosen_apply_of_not a fun f hf => hf ▸ hp.undefinedVariable x
  | checkDepth line => exact chosen_apply_of_not a fun f hf => hf ▸ hp.deepLoop
  | reportUnusedImports =>
    refine chosen_apply_of_not a ?_
    rintro f ⟨x, rfl⟩
    exact hp.unusedImport x
  | _ => exact chosen_apply_of_not a fun f hf => hf.elim

theorem chosen_reportUnused (hp : Outright p) (a : Analysis) :
    a.reportUnused.chosen p = a.chosen p := by
  rw [Analysis.chosen, Analysis.reportUnused, List.filter_append,
    filter_unused_of_not hp.unusedVariable, List.append_nil, Analysis.chosen]

def choiceRecord (hp : Outright p) : Record (List Issue) Issue where
  view a := a.chosen p
  add is i := is ++ [i]
  entryOf := Effect.issueIf p
  view_apply := chosen_apply hp

theorem foldl_concat (hp : Outright p) (is js : List Issue) :
    js.foldl (choiceRecord hp).add is = is ++ js := by
  have hflatten : js.foldl (choiceRecord hp).add is = is ++ (js.map fun i => [i]).flatten :=
    List.foldl_append_eq_append
  rw [hflatten, ← List.flatMap_def, List.flatMap_singleton']

theorem chosen_after (hp : Outright p) (a : Analysis) (es : List Effect) :
    (a.after es).chosen p = a.chosen p ++ es.filterMap (Effect.issueIf p) := by
  have hview := (choiceRecord hp).view_after a es
  rw [foldl_concat] at hview
  exact hview

end Choice

/-! ### The record of local issues -/

theorem outright_isLocal : Outright Finding.isLocal :=
  ⟨fun _ => rfl, fun _ => rfl, fun _ => rfl, fun _ => rfl, fun _ => rfl, rfl⟩

theorem localIssue?_eq : Effect.localIssue? = Effect.issueIf Finding.isLocal := by
  funext e
  cases e <;> rfl

theorem localRecord_fills : (choiceRecord outright_isLocal).Fills nodeIssues where
  on_enter above n := by
    have hbefore : Without Finding.isLocal (beforeReports n) := without_beforeReports n
    have hafter : Without Finding.isLocal (afterReports above n) :=
      without_afterReports (fun _ => rfl) (fun _ => rfl) fun _ => without_callEffects rfl above n
    change (entering above n).filterMap (Effect.issueIf Finding.isLocal) = nodeIssues n
    rw [entering_eq, List.filterMap_append, List.filterMap_append, filterMap_without hbefore,
      filterMap_without hafter, List.nil_append, List.append_nil, nodeIssues, localIssue?_eq]
  on_leave n previous := filterMap_without (without_leaving n previous)

theorem localIssues_reportUnused (a : Analysis) :
    a.reportUnused.localIssues = a.localIssues :=
  chosen_reportUnused outright_isLocal a

/-- The findings that depend on one node are those of each node of the tree, in order: every run of
the check of a node adds the same issues, and no node is passed over or checked twice. -/
theorem local_issues_of_nodes {n : Node} (h : n.WellFormed) :
    (∃ a, analysis n = .ok a ∧ a.localIssues = n.preorder.flatMap nodeIssues) ∧
      ∀ above m a b, Runs (enter above m) a () b → b.localIssues = a.localIssues ++ nodeIssues m := by
  constructor
  · obtain ⟨b, hb, ha⟩ := analysis_eq h
    refine ⟨_, ha, ?_⟩
    have hview := localRecord_fills.view_visit h.2.plain hb
    rw [foldl_concat] at hview
    rw [localIssues_reportUnused]
    exact hview
  · intro above m a b hrun
    have hview := localRecord_fills.view_enter hrun
    rw [foldl_concat] at hview
    exact hview

def checksInside : Node :=
  treeOf <| "@d(x == None)\nasync def f():\n for i in x:\n  0\n else:\n" ++
    "  def G(a=[]): h = lambda: i % 0\n"

theorem local_issues_of_nodes_checksInside :
    checksInside.WellFormed ∧ ∃ a, analysis checksInside = .ok a ∧
      a.localIssues =
        [⟨.functionName "G", some 6⟩, ⟨.missingDocstring "G", some 6⟩, ⟨.mutableDefault "G", some 6⟩,
          ⟨.lambdaAssigned "h", some 6⟩, ⟨.divisionByZero, some 6⟩, ⟨.comparedToNone, some 1⟩] := by
  have hevaluated : checksInside.WellFormed ∧ checksInside.preorder.flatMap nodeIssues =
      [⟨.functionName "G", some 6⟩, ⟨.missingDocstring "G", some 6⟩, ⟨.mutableDefault "G", some 6⟩,
        ⟨.lambdaAssigned "h", some 6⟩, ⟨.divisionByZero, some 6⟩, ⟨.comparedToNone, some 1⟩] := by
    decide +kernel
  obtain ⟨hformed, hlocal⟩ := hevaluated
  obtain ⟨a, ha, hissues⟩ := (local_issues_of_nodes hformed).1
  exact ⟨hformed, a, ha, hissues.trans hlocal⟩

end CodeLint.Lint
