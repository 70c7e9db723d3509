import CodeLint.Proofs.Traversal

/-!
The effects that matter to scopes, names, imports and loops. All other effects only add to the
remaining records of an analysis and report what is wrong with a single statement, so a result about
scopes or about the use of names needs to look at the principal effects of a node alone.
-/

namespace CodeLint.Lint

open CodeLint.Tree

/-- Findings that say how a name is used, and findings of unknown origin. -/
def Finding.aboutUse : Finding → Bool
  | undefinedVariable _ | unusedVariable _ | unusedImport _ | note _ _ => true
  | _ => false

def Issue.aboutUse (i : Issue) : Bool := i.finding.aboutUse

def Effect.isPrincipal : Effect → Bool
  | report f _ => f.aboutUse
  | useModuleScope | addImport _ _ | bind _ _ | addClass _ | openScope | closeScope _
  | setFunction _ | checkDefined _ _ | markUsed _ | store _ | declareGlobal _ | enterLoop
  | leaveLoop | reportUnusedImports => true
  | _ => false

/-- Two analyses that no principal effect can tell apart. -/
structure Agrees (a b : Analysis) : Prop where
  imports : a.imports = b.imports
  usedImports : a.usedImports = b.usedImports
  classNames : a.classNames = b.classNames
  globalScope : a.globalScope = b.globalScope
  scopes : a.scopes = b.scopes
  current : a.current = b.current
  loopDepth : a.loopDepth = b.loopDepth
  currentFunction : a.currentFunction = b.currentFunction
  issues : a.issues.filter Issue.aboutUse = b.issues.filter Issue.aboutUse

namespace Agrees

variable {a b c : Analysis}

theorem refl (a : Analysis) : Agrees a a := ⟨rfl, rfl, rfl, rfl, rfl, rfl, rfl, rfl, rfl⟩

theorem symm (h : Agrees a b) : Agrees b a :=
  ⟨h.imports.symm, h.usedImports.symm, h.classNames.symm, h.globalScope.symm, h.scopes.symm,
    h.current.symm, h.loopDepth.symm, h.currentFunction.symm, h.issues.symm⟩

theorem trans (h : Agrees a b) (h' : Agrees b c) : Agrees a c :=
  ⟨h.imports.trans h'.imports, h.usedImports.trans h'.usedImports,
    h.classNames.trans h'.classNames, h.globalScope.trans h'.globalScope,
    h.scopes.trans h'.scopes, h.current.trans h'.current, h.loopDepth.trans h'.loopDepth,
    h.currentFunction.trans h'.currentFunction, h.issues.trans h'.issues⟩

theorem report (a : Analysis) {f : Finding} (line : Line) (hf : f.aboutUse = false) :
    Agrees a (a.report f line) := by
  refine ⟨rfl, rfl, rfl, rfl, rfl, rfl, rfl, rfl, ?_⟩
  simp [Analysis.report, Issue.aboutUse, hf]

theorem of_not_principal (a : Analysis) {e : Effect} (he : e.isPrincipal = false) :
    Agrees a (e.apply a) := by
  cases e with
  | report f line => exact report a line he
  | addReturn hasValue =>
    simp only [Effect.apply, Analysis.addReturn]
    split
    · exact refl a
    · split
      · exact refl a
      · split
        · constructor <;> rfl
        · exact refl a
  | checkReturns f line =>
    simp only [Effect.apply]
    split
    · exact refl a
    · split
      · exact report a line rfl
      · exact refl a
  | checkVariable x line =>
    simp only [Effect.apply]
    split
    · exact refl a
    · exact report a line rfl
  | checkDepth line =>
    simp only [Effect.apply]
    split
    · exact report a line rfl
    · exact refl a
  | noteConstant | define | noteAssignment | noteUsage | declareNonlocal => constructor <;> rfl
  | _ => cases he

theorem isImported (h : Agrees a b) (x : String) : a.isImported x = b.isImported x := by
  simp only [Analysis.isImported, h.imports]

theorem isDefined (h : Agrees a b) (x : String) : a.isDefined x = b.isDefined x := by
  simp only [Analysis.isDefined, h.isImported, h.classNames, h.globalScope, h.scopes]

theorem currentScope (h : Agrees a b) : a.currentScope = b.currentScope := by
  simp only [Analysis.currentScope, h.current, h.globalScope, h.scopes]

theorem bind (h : Agrees a b) (x : String) (k : Binding) : Agrees (a.bind x k) (b.bind x k) := by
  cases hb : b.current with
  | global =>
    simp only [Analysis.bind, h.current, hb]
    exact { h with globalScope := congrArg (Ordered.put x k) h.globalScope, current := rfl }
  | level i =>
    simp only [Analysis.bind, h.current, hb]
    exact { h with scopes := congrArg (·.modify i (Ordered.put x k)) h.scopes, current := rfl }

theorem apply (h : Agrees a b) (e : Effect) : Agrees (e.apply a) (e.apply b) := by
  cases hp : e.isPrincipal with
  | false => exact ((of_not_principal a hp).symm.trans h).trans (of_not_principal b hp)
  | true =>
    have hreport : ∀ f line, Agrees (a.report f line) (b.report f line) := fun f line =>
      { h with issues := by simp only [Analysis.report, List.filter_append, h.issues] }
    cases e with
    | report f line => exact hreport f line
    | useModuleScope => exact { h with current := rfl }
    | addImport x line => exact { h with imports := congrArg (insertNew (x, line)) h.imports }
    | bind x k => exact h.bind x k
    | addClass x => exact { h with classNames := congrArg (insertNew x) h.classNames }
    | openScope =>
      exact { h with
        scopes := congrArg (· ++ [[]]) h.scopes
        current := congrArg (fun ss : List Scope => ScopeRef.level ss.length) h.scopes }
    | closeScope previous =>
      exact { h with scopes := congrArg List.dropLast h.scopes, current := rfl }
    | setFunction f => exact { h with currentFunction := rfl }
    | checkDefined x line =>
      simp only [Effect.apply, h.isDefined]
      by_cases hx : b.isDefined x = true
      · simp only [if_pos hx]
        exact h
      · simp only [if_neg hx]
        exact hreport _ line
    | markUsed x =>
      simp only [Effect.apply, Analysis.markUsed, h.isImported]
      by_cases hx : b.isImported x = true
      · simp only [if_pos hx]
        exact { h with usedImports := congrArg (insertNew x) h.usedImports }
      · simp only [if_neg hx]
        exact h
    | store x =>
      simp only [Effect.apply, h.currentScope]
      by_cases hx : b.currentScope.has x = true
      · simp only [if_pos hx]
        exact h
      · simp only [if_neg hx]
        exact h.bind x .assigned
    | declareGlobal x =>
      exact { h with globalScope := congrArg (Ordered.put x Binding.global) h.globalScope }
    | enterLoop => exact { h with loopDepth := congrArg (· + 1) h.loopDepth }
    | leaveLoop => exact { h with loopDepth := congrArg (· - 1) h.loopDepth }
    | reportUnusedImports =>
      refine { h with issues := ?_ }
      simp only [Effect.apply, Analysis.reportUnusedImports, List.filter_append, h.issues,
        h.imports, h.usedImports]
    | _ => cases hp

theorem after (h : Agrees a b) (es : List Effect) : Agrees (a.after es) (b.after es) := by
  induction es generalizing a b with
  | nil => exact h
  | cons e es ih => exact ih (h.apply e)

theorem after_filter (a : Analysis) (es : List Effect) :
    Agrees (a.after (es.filter Effect.isPrincipal)) (a.after es) := by
  induction es generalizing a with
  | nil => exact refl a
  | cons e es ih =>
    cases he : e.isPrincipal with
    | true =>
      rw [List.filter_cons_of_pos he]
      exact ih (e.apply a)
    | false =>
      rw [List.filter_cons_of_neg (by simp [he])]
      exact (ih a).trans ((of_not_principal a he).after es)

end Agrees

/-! ### The principal effects of a node -/

def principalName (n : Node) : List Effect :=
  if ((Value.node n).part .context).isKind .load then
    [.checkDefined n.ident n.line?, .markUsed n.ident]
  else if ((Value.node n).part .context).isKind .store then [.store n.ident]
  else []

def principal (n : Node) : List Effect :=
  match n.kind with
  | .program => [.useModuleScope]
  | .importStmt | .importFrom => importEffects n
  | .classDef => [.bind n.title .classDef, .addClass n.title, .openScope]
  | .functionDef =>
    .setFunction (some n.title) :: .openScope :: n.parameterNames.map (.bind · .param)
  | .assign => n.assignedLeaves.map (.bind ·.ident .assigned)
  | .name => principalName n
  | .globalStmt => n.declaredNames.map .declareGlobal
  | .forLoop => .enterLoop :: .openScope :: n.loopLeaves.map (.bind ·.ident .assigned)
  | .whileLoop => [.enterLoop, .openScope]
  | .call => n.calledName.toList.map (.markUsed ·.ident)
  | _ => []

def opensScope : Kind → Bool
  | .classDef | .functionDef | .forLoop | .whileLoop => true
  | _ => false

def Effect.PossibleAt (n : Node) : Effect → Prop
  | useModuleScope => n.kind = .program
  | openScope | enterLoop | setFunction _ => opensScope n.kind = true
  | checkDefined _ _ => n.isLoad = true
  | addImport _ _ | bind _ _ | addClass _ | markUsed _ | store _ | declareGlobal _ => True
  | _ => False

theorem possibleAt_of_mem_principal {n : Node} : ∀ e ∈ principal n, e.PossibleAt n := by
  have himport : ∀ e ∈ importEffects n, e.PossibleAt n := by
    intro e he
    obtain ⟨item, -, he⟩ := List.mem_flatMap.mp he
    rcases List.mem_cons.mp he with rfl | he
    · trivial
    · rw [List.mem_singleton.mp he]
      trivial
  have hname : n.kind = .name → ∀ e ∈ principalName n, e.PossibleAt n := by
    intro hk
    unfold principalName
    split
    · next hload => simp [Effect.PossibleAt, Node.isLoad, hk, hload]
    · split <;> simp [Effect.PossibleAt]
  unfold principal
  cases hk : n.kind with
  | importStmt | importFrom => exact himport
  | name => exact hname hk
  | program => simp [Effect.PossibleAt, hk]
  | classDef | functionDef | forLoop | whileLoop => simp [Effect.PossibleAt, opensScope, hk]
  | assign | globalStmt | call => simp [Effect.PossibleAt]
  | _ => exact List.forall_mem_nil _

theorem filter_atLine (found : Bool) {f : Finding} (v : Value) (hf : f.aboutUse = false) :
    (atLine found f v).filter Effect.isPrincipal = [] := by
  cases found with
  | false => rfl
  | true => simp [atLine, Effect.isPrincipal, hf]

theorem filter_flatMap_nil {α : Type} {f : α → List Effect}
    (hf : ∀ x, (f x).filter Effect.isPrincipal = []) (xs : List α) :
    (xs.flatMap f).filter Effect.isPrincipal = [] := by
  simp only [List.filter_flatMap, hf, List.flatMap_eq_nil_iff, implies_true]

theorem filter_statementEffects (v : Value) :
    (statementEffects v).filter Effect.isPrincipal = [] := by
  have hconstant : ∀ t, (constantEffects t).filter Effect.isPrincipal = [] := by
    intro t
    unfold constantEffects
    split
    · rw [List.filter_cons_of_neg (by simp [Effect.isPrincipal]), filter_atLine _ _ rfl]
    · rfl
  unfold statementEffects
  split
  · exact filter_flatMap_nil hconstant _
  · rfl

theorem filter_importEffects (n : Node) :
    (importEffects n).filter Effect.isPrincipal = importEffects n := by
  refine List.filter_eq_self.mpr fun e he => ?_
  obtain ⟨item, -, he⟩ := List.mem_flatMap.mp he
  rcases List.mem_cons.mp he with rfl | he
  · rfl
  · rw [List.mem_singleton.mp he]
    rfl

theorem filter_signatureEffects (n : Node) (f : String) (params : Value) :
    (signatureEffects n f params).filter Effect.isPrincipal = [] := by
  have hparameter : ∀ allowed finding, (∀ x, (finding x : Finding).aboutUse = false) →
      ∀ p, (parameterEffects allowed finding p).filter Effect.isPrincipal = [] :=
    fun _ _ hf p => filter_atLine _ p (hf _)
  have hdefault : ∀ v, (defaultEffects f n v).filter Effect.isPrincipal = [] :=
    fun v => filter_atLine _ _ rfl
  simp only [signatureEffects, List.filter_append, List.append_eq_nil_iff]
  refine ⟨⟨⟨⟨?_, ?_⟩, ?_⟩, ?_⟩, filter_flatMap_nil hdefault _⟩
  all_goals exact filter_flatMap_nil (hparameter _ _ fun _ => rfl) _

theorem filter_leafEffects (atModule : Bool) (n : Node) :
    (leafEffects atModule n).filter Effect.isPrincipal = [.bind n.ident .assigned] := by
  have hvariable : (variableEffects atModule n.ident (.node n)).filter Effect.isPrincipal = [] := by
    unfold variableEffects
    split
    · exact filter_atLine _ _ rfl
    · split <;> rfl
  have hmodule : (if atModule then [Effect.noteConstant n.ident n.line?] else []).filter
      Effect.isPrincipal = [] := by
    split <;> rfl
  have hbuiltIn := filter_atLine (isBuiltIn n.ident) (f := .builtInRedefined n.ident) (.node n) rfl
  simp only [leafEffects, List.filter_append, hbuiltIn, hvariable, hmodule]
  rfl

theorem filter_leaves (atModule : Bool) (ns : List Node) :
    (ns.flatMap (leafEffects atModule)).filter Effect.isPrincipal =
      ns.map (.bind ·.ident .assigned) := by
  simp only [List.filter_flatMap, filter_leafEffects, List.map_eq_flatMap]

theorem filter_chainEffects (n : Node) (i : Nat) (operators : List Value) :
    (chainEffects n i operators).filter Effect.isPrincipal = [] := by
  induction operators generalizing i with
  | nil => rfl
  | cons operator rest ih =>
    simp only [chainEffects, comparisonEffects, List.filter_append, List.append_eq_nil_iff, ih,
      and_true]
    constructor
    · split
      · simp only [List.filter_append, List.append_eq_nil_iff]
        exact ⟨filter_atLine _ _ rfl, filter_atLine _ _ rfl⟩
      · rfl
    · split
      · exact filter_atLine _ _ rfl
      · rfl

theorem filter_handlerEffects (h : Value) : (handlerEffects h).filter Effect.isPrincipal = [] := by
  simp only [handlerEffects, List.filter_append, List.append_eq_nil_iff]
  refine ⟨filter_atLine _ _ rfl, ?_⟩
  split
  · rfl
  · exact filter_atLine _ _ rfl

theorem filter_callEffects (above : List Link) (n : Node) :
    (callEffects above n).filter Effect.isPrincipal =
      n.calledName.toList.map (.markUsed ·.ident) := by
  unfold callEffects Node.calledName
  by_cases hname : ((Value.node n).part .callee).isKind .name = true
  · obtain ⟨m, hm, -⟩ := Value.isKind_iff.mp hname
    simp only [if_pos hname, List.filter_append, filter_atLine _ _ (f := .unmanagedFile) rfl]
    rw [hm]
    rfl
  · simp only [if_neg hname]
    split
    · next hattribute =>
      obtain ⟨m, hm, -⟩ := Value.isKind_iff.mp (Bool.and_eq_true_iff.mp hattribute).2
      rw [hm]
      rfl
    · rfl

theorem filter_eq_self_of_map {α : Type} {f : α → Effect} (hf : ∀ x, (f x).isPrincipal = true)
    (xs : List α) : (xs.map f).filter Effect.isPrincipal = xs.map f := by
  refine List.filter_eq_self.mpr fun e he => ?_
  obtain ⟨x, -, rfl⟩ := List.mem_map.mp he
  exact hf x

theorem filter_functionEffects (n : Node) :
    (functionEffects n).filter Effect.isPrincipal =
      .setFunction (some n.title) :: .openScope :: n.parameterNames.map (.bind · .param) := by
  simp only [functionEffects, List.filter_append, filter_signatureEffects,
    filter_atLine _ _ (f := .functionName n.title) rfl,
    filter_atLine _ _ (f := .missingDocstring n.title) rfl,
    filter_eq_self_of_map (f := (Effect.bind · .param)) fun _ => rfl]
  rfl

theorem filter_lambdaEffects (n : Node) : (lambdaEffects n).filter Effect.isPrincipal = [] := by
  simp only [lambdaEffects]
  split
  · split
    · split <;> rfl
    · rfl
  · rfl

theorem filter_nameEffects (n : Node) :
    (nameEffects n).filter Effect.isPrincipal = principalName n := by
  unfold nameEffects principalName
  split
  · rfl
  · split <;> rfl

theorem filter_entering (above : List Link) (n : Node) :
    (entering above n).filter Effect.isPrincipal = principal n := by
  unfold entering principal
  cases n.kind with
  | program =>
    rw [moduleEffects, List.filter_cons_of_pos rfl, filter_flatMap_nil filter_statementEffects]
  | importStmt =>
    rw [List.filter_append, filter_importEffects, severalEffects, filter_atLine _ _ rfl]
    rfl
  | importFrom => exact filter_importEffects n
  | classDef =>
    simp only [classEffects, List.filter_append, filter_atLine _ _ (f := .className n.title) rfl]
    rfl
  | functionDef => exact filter_functionEffects n
  | assign =>
    simp only [assignEffects, List.filter_append, filter_lambdaEffects, filter_leaves]
    rfl
  | name => exact filter_nameEffects n
  | globalStmt => exact filter_eq_self_of_map (fun _ => rfl) _
  | nonlocalStmt =>
    refine List.filter_eq_nil_iff.mpr fun e he => ?_
    obtain ⟨x, -, rfl⟩ := List.mem_map.mp he
    simp [Effect.isPrincipal]
  | forLoop =>
    simp only [forEffects, List.filter_append]
    rw [List.filter_cons_of_pos rfl, filter_leaves]
    rfl
  | whileLoop =>
    simp only [whileEffects, List.filter_append, filter_atLine _ _ (f := .endlessLoop) rfl]
    rfl
  | compare => exact filter_chainEffects n 0 _
  | binOp => exact filter_atLine _ _ rfl
  | tryStmt => exact filter_flatMap_nil filter_handlerEffects _
  | call => exact filter_callEffects above n
  | _ => rfl

theorem entering_agrees (a : Analysis) (above : List Link) (n : Node) :
    Agrees (a.after (principal n)) (a.after (entering above n)) := by
  rw [← filter_entering above n]
  exact Agrees.after_filter a _

def principalLeave (n : Node) (previous : ScopeRef) : List Effect :=
  match n.kind with
  | .program => [.reportUnusedImports]
  | .classDef => [.closeScope previous]
  | .functionDef => [.closeScope previous, .setFunction none]
  | .forLoop | .whileLoop => [.closeScope previous, .leaveLoop]
  | _ => []

theorem leaving_agrees (a : Analysis) (n : Node) (previous : ScopeRef) :
    Agrees (a.after (principalLeave n previous)) (a.after (leaving n previous)) := by
  have hfilter : (leaving n previous).filter Effect.isPrincipal = principalLeave n previous := by
    unfold leaving principalLeave
    cases n.kind <;> rfl
  rw [← hfilter]
  exact Agrees.after_filter a _

/-! ### Issues -/

def Analysis.withCode (a : Analysis) (code : String) : List Issue :=
  a.issues.filter (·.finding.code == code)

theorem Agrees.withCode {a b : Analysis} (h : Agrees a b) {code : String}
    (hcode : ∀ f : Finding, f.code = code → f.aboutUse = true) :
    a.withCode code = b.withCode code := by
  have hfilter : ∀ is : List Issue, is.filter (·.finding.code == code) =
      (is.filter Issue.aboutUse).filter (·.finding.code == code) := by
    intro is
    rw [List.filter_filter]
    refine List.filter_congr fun i _ => ?_
    cases hi : i.finding.code == code with
    | false => rfl
    | true => rw [Bool.true_and, Issue.aboutUse, hcode _ (eq_of_beq hi)]
  rw [Analysis.withCode, hfilter, h.issues, ← hfilter, Analysis.withCode]

def Effect.isSilent : Effect → Bool
  | report _ _ | checkReturns _ _ | checkVariable _ _ | checkDefined _ _ | checkDepth _
  | reportUnusedImports => false
  | _ => true

theorem issues_bind (a : Analysis) (x : String) (k : Binding) : (a.bind x k).issues = a.issues := by
  unfold Analysis.bind
  cases a.current <;> rfl

theorem issues_apply (a : Analysis) {e : Effect} (he : e.isSilent = true) :
    (e.apply a).issues = a.issues := by
  cases e with
  | report | checkReturns | checkVariable | checkDefined | checkDepth | reportUnusedImports =>
    cases he
  | bind x k => exact issues_bind a x k
  | addReturn hasValue =>
    simp only [Effect.apply, Analysis.addReturn]
    split
    · rfl
    · split
      · rfl
      · split <;> rfl
  | markUsed x =>
    simp only [Effect.apply, Analysis.markUsed]
    split <;> rfl
  | store x =>
    simp only [Effect.apply]
    split
    · rfl
    · exact issues_bind a x .assigned
  | _ => rfl

theorem issues_after (a : Analysis) {es : List Effect} (hes : ∀ e ∈ es, e.isSilent = true) :
    (a.after es).issues = a.issues := by
  induction es generalizing a with
  | nil => rfl
  | cons e es ih =>
    rw [Analysis.after_cons, ih (e.apply a) fun f hf => hes f (List.mem_cons_of_mem e hf),
      issues_apply a (hes e List.mem_cons_self)]

theorem isSilent_of_mem_principal {n : Node} (hload : n.isLoad = false) :
    ∀ e ∈ principal n, e.isSilent = true := by
  intro e he
  have hpossible := possibleAt_of_mem_principal e he
  cases e with
  | checkDefined x line =>
    rw [show n.isLoad = true from hpossible] at hload
    cases hload
  | report | checkReturns | checkVariable | checkDepth | reportUnusedImports => exact hpossible.elim
  | _ => rfl

theorem issues_principal (a : Analysis) (n : Node) :
    (a.after (principal n)).issues = a.issues ++
      if n.isLoad = true ∧ a.isDefined n.ident = false then
        [⟨.undefinedVariable n.ident, n.line?⟩] else [] := by
  cases hload : n.isLoad with
  | false =>
    rw [issues_after a (isSilent_of_mem_principal hload)]
    simp
  | true =>
    obtain ⟨hname, hcontext⟩ := Bool.and_eq_true_iff.mp hload
    have hprincipal : principal n = [.checkDefined n.ident n.line?, .markUsed n.ident] := by
      rw [principal, eq_of_beq hname, principalName, if_pos hcontext]
    rw [hprincipal, Analysis.after_cons, issues_after _ (by simp [Effect.isSilent]), Effect.apply]
    cases hx : a.isDefined n.ident with
    | true => simp
    | false => simp [Analysis.report]

def Analysis.unusedImports (a : Analysis) : List Issue :=
  (a.imports.filter fun e => !a.usedImports.contains e.1).map fun e => ⟨.unusedImport e.1, e.2⟩

theorem issues_principalLeave (a : Analysis) (n : Node) (previous : ScopeRef) :
    (a.after (principalLeave n previous)).issues =
      a.issues ++ if n.kind = .program then a.unusedImports else [] := by
  unfold principalLeave
  cases n.kind with
  | program => rfl
  | _ => exact (List.append_nil a.issues).symm

end CodeLint.Lint
