import CodeLint.Proofs.LocalChecks

/-!
Return statements and the definitions they count for. The analysis keeps one list of returns for
each name of a function, and one name as that of the function in hand. A definition starts a new
list and takes the function in hand; when it is left, no function is in hand. So a return counts for
the last definition before it only as long as no definition has been left in between, and a function
is judged by the list of the last definition inside it that has its name.
-/

namespace CodeLint.Tree

mutual
def Node.postorder : Node → List Node
  | .mk k p fs => Field.postorder fs ++ [.mk k p fs]
def Field.postorder : List Field → List Node
  | [] => []
  | .mk _ v :: fs => v.postorder ++ Field.postorder fs
def Value.postorder : Value → List Node
  | .atom _ => []
  | .node n => n.postorder
  | .list vs => Value.elementsPostorder vs
def Value.elementsPostorder : List Value → List Node
  | [] => []
  | .node n :: vs => n.postorder ++ Value.elementsPostorder vs
  | _ :: vs => Value.elementsPostorder vs
end

theorem elementsPostorder_eq (vs : List Value) :
    Value.elementsPostorder vs = (vs.filterMap Value.node?).flatMap Node.postorder := by
  induction vs with
  | nil => rfl
  | cons v vs ih =>
    cases v with
    | node n =>
      rw [Value.elementsPostorder, ih]
      rfl
    | atom c =>
      rw [Value.elementsPostorder, ih]
      · rfl
      · simp
    | list us =>
      rw [Value.elementsPostorder, ih]
      · rfl
      · simp

theorem postorder_eq (n : Node) : n.postorder = n.children.flatMap Node.postorder ++ [n] := by
  have hvalue : ∀ v : Value, v.postorder = v.nodes.flatMap Node.postorder := by
    intro v
    cases v with
    | atom c => rfl
    | node n => rw [Value.postorder, Value.nodes, List.flatMap_singleton]
    | list vs =>
      rw [Value.postorder, elementsPostorder_eq]
      rfl
  have hfields : ∀ fs, Field.postorder fs =
      (fs.flatMap (·.value.nodes)).flatMap Node.postorder := by
    intro fs
    induction fs with
    | nil => rfl
    | cons f fs ih =>
      cases f with
      | mk l v => rw [Field.postorder, ih, hvalue, List.flatMap_cons, List.flatMap_append]; rfl
  cases n with
  | mk kind place fields =>
    rw [Node.postorder, hfields]
    rfl

namespace Node

def isFunction (n : Node) : Bool := n.kind == .functionDef

def givesValue (n : Node) : Bool := !((Value.node n).part .value).isNone

end Node

def lastDefinition? (f : String) (ns : List Node) : Option Node :=
  (ns.filter fun m => m.isFunction && m.title == f).getLast?

/-- The returns among the nodes, up to the first definition: for each whether it has a value. -/
def firstReturns (ns : List Node) : List Bool :=
  ((ns.takeWhile (!·.isFunction)).filter (·.kind == .returnStmt)).map Node.givesValue

def isMixed (rs : List Bool) : Bool := rs.contains true && rs.contains false

namespace Node

/-- The returns that count for a definition: those below it that come before any other one. -/
def ownReturns (n : Node) : List Bool := firstReturns n.preorder.tail

/-- A function whose last namesake inside it, which may be itself, has mixed returns. -/
def hasMixedReturns (n : Node) : Bool :=
  n.isFunction && ((lastDefinition? n.title n.preorder).map ownReturns).any isMixed

def FunctionsNamed (n : Node) : Prop := ∀ m ∈ n.preorder, m.isFunction = true → m.title ≠ ""

instance (n : Node) : Decidable n.FunctionsNamed :=
  inferInstanceAs (Decidable (∀ m ∈ n.preorder, _))

end Node

end CodeLint.Tree

namespace CodeLint.Lint

open CodeLint.Tree

variable {a b c : Analysis} {n : Node} {ms ns : List Node} {f g : String}

def mixedIssue (n : Node) : Issue := ⟨.mixedReturns n.title, n.line?⟩

/-! ### Lists of nodes -/

theorem lastDefinition?_append (f : String) (ms ns : List Node) :
    lastDefinition? f (ms ++ ns) = (lastDefinition? f ns).or (lastDefinition? f ms) := by
  rw [lastDefinition?, List.filter_append, List.getLast?_append]
  rfl

theorem lastDefinition?_none (h : ns.any Node.isFunction = false) :
    lastDefinition? f ns = none := by
  have hnone : (ns.filter fun m => m.isFunction && m.title == f) = [] := by
    refine List.filter_eq_nil_iff.mpr fun m hm => ?_
    simp [List.any_eq_false.mp h m hm]
  rw [lastDefinition?, hnone]
  rfl

theorem firstReturns_append (ms ns : List Node) :
    firstReturns (ms ++ ns) =
      firstReturns ms ++ if ms.any Node.isFunction then [] else firstReturns ns := by
  induction ms with
  | nil => rfl
  | cons m ms ih =>
    cases hm : m.isFunction with
    | true => simp [firstReturns, hm]
    | false =>
      simp only [firstReturns, List.cons_append, List.takeWhile_cons, hm, Bool.not_false, if_true,
        List.filter_cons, List.any_cons, Bool.false_or] at ih ⊢
      split <;> simp [ih]

/-! ### The effects that concern returns -/

def Effect.aboutReturns : Effect → Bool
  | setFunction _ | define _ _ | addReturn _ | checkReturns _ _ => true
  | report f _ => f.code == "W0631"
  | _ => false

def returnEffects (n : Node) : List Effect :=
  match n.kind with
  | .functionDef => [.setFunction (some n.title), .define n.title n.line?]
  | .returnStmt => [.addReturn n.givesValue]
  | _ => []

theorem returnEffects_eq_nil (hfunction : n.kind ≠ .functionDef) (hreturn : n.kind ≠ .returnStmt) :
    returnEffects n = [] := by
  unfold returnEffects
  split
  · next hk => exact absurd hk hfunction
  · next hk => exact absurd hk hreturn
  · rfl

theorem aboutReturns_of_isQuiet (e : Effect) (he : e.isQuiet = true) : e.aboutReturns = false := by
  cases e with
  | report | setFunction | define | addReturn | checkReturns => cases he
  | _ => rfl

theorem filter_returns_of_forall {es : List Effect} (h : ∀ e ∈ es, e.aboutReturns = false) :
    es.filter Effect.aboutReturns = [] :=
  List.filter_eq_nil_iff.mpr fun e he => by simp [h e he]

theorem filter_returns_afterReports (above : List Link) (n : Node) :
    (afterReports above n).filter Effect.aboutReturns = returnEffects n := by
  by_cases hfunction : n.kind = .functionDef
  · have hparameters :
        (n.parameterNames.map (Effect.bind · .param)).filter Effect.aboutReturns = [] :=
      filter_returns_of_forall (List.forall_mem_map.mpr fun _ _ => rfl)
    rw [afterReports, returnEffects, hfunction]
    dsimp only
    rw [List.filter_append, hparameters]
    rfl
  · by_cases hreturn : n.kind = .returnStmt
    · rw [afterReports, returnEffects, hreturn]
      rfl
    · rw [returnEffects_eq_nil hfunction hreturn]
      refine filter_returns_of_forall (forall_mem_afterReports aboutReturns_of_isQuiet
        (fun _ => ⟨fun _ _ => rfl, fun _ _ => rfl⟩) (fun _ => ⟨rfl, rfl⟩) (fun _ => ?_)
        (fun hk => absurd hk hfunction) fun hk => absurd hk hreturn)
      exact forall_mem_callEffects aboutReturns_of_isQuiet (fun _ => rfl) above n

theorem filter_returns_entering (above : List Link) (n : Node) :
    (entering above n).filter Effect.aboutReturns = returnEffects n := by
  have hbefore : (beforeReports n).filter Effect.aboutReturns = [] := by
    unfold beforeReports
    cases n.kind <;> rfl
  have hlocal : (localReports n).filter Effect.aboutReturns = [] := by
    refine filter_returns_of_forall fun e he => ?_
    obtain ⟨f, line, rfl, hf⟩ := onlyReports_localReports
      (q := fun f => (f.code == "W0631") = false) (fun f hf _ => code_of_isLocal hf rfl)
      (fun _ => rfl) e he
    exact hf
  rw [entering_eq, List.filter_append, List.filter_append, hbefore, hlocal,
    filter_returns_afterReports]
  rfl

theorem filter_returns_leaving (n : Node) (previous : ScopeRef) :
    (leaving n previous).filter Effect.aboutReturns =
      if n.isFunction then [.checkReturns n.title n.line?, .setFunction none] else [] := by
  unfold leaving Node.isFunction
  cases n.kind <;> rfl

/-! ### What an analysis knows of returns -/

def Analysis.returnsPart (a : Analysis) : Analysis :=
  { issues := a.withCode "W0631"
    definitions := a.definitions
    functions := a.functions
    currentFunction := a.currentFunction }

theorem returnsPart_report (a : Analysis) {f : Finding} (line : Line)
    (hf : (f.code == "W0631") = false) : (a.report f line).returnsPart = a.returnsPart := by
  simp [Analysis.returnsPart, Analysis.withCode, Analysis.report, hf]

theorem returnsPart_report_mixed (a : Analysis) {f : Finding} (line : Line)
    (hf : (f.code == "W0631") = true) :
    (a.report f line).returnsPart = a.returnsPart.report f line := by
  simp [Analysis.returnsPart, Analysis.withCode, Analysis.report, hf]

theorem returnsPart_bind (a : Analysis) (x : String) (k : Binding) :
    (a.bind x k).returnsPart = a.returnsPart := by
  unfold Analysis.bind
  cases a.current <;> rfl

theorem returnsPart_apply (a : Analysis) (e : Effect) :
    (e.apply a).returnsPart = if e.aboutReturns then e.apply a.returnsPart else a.returnsPart := by
  cases e with
  | report f line =>
    cases hf : f.code == "W0631" with
    | true =>
      simpa [Effect.apply, Effect.aboutReturns, hf] using returnsPart_report_mixed a line hf
    | false => simpa [Effect.apply, Effect.aboutReturns, hf] using returnsPart_report a line hf
  | addReturn hasValue =>
    have hcurrent : a.returnsPart.currentFunction = a.currentFunction := rfl
    have hfunctions : a.returnsPart.functions = a.functions := rfl
    simp only [Effect.apply, Effect.aboutReturns, if_true, hcurrent, Analysis.addReturn, hfunctions]
    cases a.currentFunction with
    | none => rfl
    | some f =>
      dsimp only
      cases f.isEmpty with
      | true => rfl
      | false => cases a.functions.get? f <;> rfl
  | checkReturns f line =>
    have hsame : a.returnsPart.definition? f = a.definition? f := rfl
    simp only [Effect.apply, Effect.aboutReturns, if_true, hsame]
    cases a.definition? f with
    | none => rfl
    | some r =>
      dsimp only
      cases r.returns.any id && !r.returns.all id with
      | false => rfl
      | true => exact returnsPart_report_mixed a line rfl
  | bind x k => exact returnsPart_bind a x k
  | checkVariable x line =>
    simp only [Effect.apply]
    cases a.classNames.contains x with
    | true => rfl
    | false => exact returnsPart_report a line rfl
  | checkDefined x line =>
    simp only [Effect.apply]
    cases a.isDefined x with
    | true => rfl
    | false => exact returnsPart_report a line rfl
  | checkDepth line =>
    simp only [Effect.apply]
    by_cases hdepth : 2 < a.loopDepth
    · rw [if_pos hdepth]
      exact returnsPart_report a line rfl
    · rw [if_neg hdepth]
      rfl
  | markUsed x =>
    simp only [Effect.apply, Analysis.markUsed]
    cases a.isImported x <;> rfl
  | store x =>
    simp only [Effect.apply]
    cases a.currentScope.has x with
    | true => rfl
    | false => exact returnsPart_bind a x .assigned
  | reportUnusedImports =>
    have himports := filter_unused_of_not (p := fun f => f.code == "W0631") (f := .unusedImport)
      (fun _ => rfl) (a.imports.filter fun e => !a.usedImports.contains e.1)
    simp only [Effect.apply, Effect.aboutReturns, Analysis.reportUnusedImports,
      Analysis.returnsPart, Analysis.withCode, List.filter_append, himports, List.append_nil]
    rfl
  | _ => rfl

theorem returnsPart_after (a : Analysis) (es : List Effect) :
    (a.after es).returnsPart = a.returnsPart.after (es.filter Effect.aboutReturns) := by
  induction es generalizing a with
  | nil => rfl
  | cons e es ih =>
    rw [Analysis.after_cons, ih, returnsPart_apply]
    cases he : e.aboutReturns with
    | true => rw [List.filter_cons_of_pos he, if_pos rfl, Analysis.after_cons]
    | false => rw [List.filter_cons_of_neg (by simp [he]), if_neg Bool.false_ne_true]

/-! ### The list of returns of a name -/

def Analysis.returnsOf (a : Analysis) (f : String) : Option (List Bool) :=
  (a.definition? f).map (·.returns)

/-- The books on functions are in order: every name leads to a definition of its own, and the
function in hand has a name. -/
structure Orderly (a : Analysis) : Prop where
  known : ∀ f i, a.functions.get? f = some i → i < a.definitions.length
  apart : ∀ f g i, a.functions.get? f = some i → a.functions.get? g = some i → f = g
  named : ∀ f, a.currentFunction = some f → f ≠ ""

theorem returnsOf_define (h : Orderly a) (f : String) (line : Line) (g : String) :
    (a.define f ⟨[], line⟩).returnsOf g = if g = f then some [] else a.returnsOf g := by
  simp only [Analysis.returnsOf, Analysis.definition?, Analysis.define, Ordered.get?_put]
  by_cases hg : g = f
  · simp [hg]
  · rw [if_neg hg, if_neg hg]
    cases hi : a.functions.get? g with
    | none => rfl
    | some i => simp only [List.getElem?_append_left (h.known g i hi)]

theorem Orderly.define (h : Orderly a) (f : String) (line : Line) :
    Orderly (a.define f ⟨[], line⟩) := by
  have hfresh : ∀ g, a.functions.get? g ≠ some a.definitions.length := fun g hg =>
    Nat.lt_irrefl _ (h.known g _ hg)
  refine ⟨fun g i hi => ?_, fun g k i hg hk => ?_, h.named⟩
  · simp only [Analysis.define, Ordered.get?_put, List.length_append, List.length_singleton] at hi ⊢
    by_cases hgf : g = f
    · rw [if_pos hgf, Option.some.injEq] at hi
      omega
    · rw [if_neg hgf] at hi
      exact Nat.lt_succ_of_lt (h.known g i hi)
  · simp only [Analysis.define, Ordered.get?_put] at hg hk
    by_cases hgf : g = f <;> by_cases hkf : k = f
    · rw [hgf, hkf]
    · rw [if_pos hgf] at hg
      rw [if_neg hkf, ← hg] at hk
      exact absurd hk (hfresh k)
    · rw [if_pos hkf] at hk
      rw [if_neg hgf, ← hk] at hg
      exact absurd hg (hfresh g)
    · rw [if_neg hgf] at hg
      rw [if_neg hkf] at hk
      exact h.apart g k i hg hk

theorem addReturn_eq (h : Orderly a) (v : Bool) :
    (Effect.addReturn v).apply a =
      match a.currentFunction.bind a.functions.get? with
      | none => a
      | some i =>
        { a with
          definitions :=
            a.definitions.modify i fun r => { r with returns := r.returns ++ [v] } } := by
  simp only [Effect.apply, Analysis.addReturn]
  cases hf : a.currentFunction with
  | none => rfl
  | some f =>
    have hname : ¬ f.isEmpty = true := by simpa using h.named f hf
    dsimp only
    rw [if_neg hname, Option.bind_some]
    cases a.functions.get? f <;> rfl

theorem returnsOf_addReturn (h : Orderly a) (v : Bool) (g : String) :
    ((Effect.addReturn v).apply a).returnsOf g =
      (a.returnsOf g).map (· ++ if a.currentFunction = some g then [v] else []) := by
  rw [addReturn_eq h]
  cases hf : a.currentFunction with
  | none => simp
  | some f =>
    rw [Option.bind_some]
    by_cases hg : f = g
    · subst hg
      cases hi : a.functions.get? f with
      | none => simp [Analysis.returnsOf, Analysis.definition?, hi]
      | some i =>
        simp only [Analysis.returnsOf, Analysis.definition?, hi, List.getElem?_modify_eq, if_true]
        cases a.definitions[i]? <;> rfl
    · simp only [Option.some.injEq, hg, if_false, List.append_nil, Option.map_id']
      cases hi : a.functions.get? f with
      | none => rfl
      | some i =>
        simp only [Analysis.returnsOf, Analysis.definition?]
        cases hj : a.functions.get? g with
        | none => rfl
        | some j =>
          have hij : i ≠ j := fun hij => hg (h.apart f g i hi (hij ▸ hj))
          simp only [List.getElem?_modify_ne _ _ hij]

theorem Orderly.addReturn (h : Orderly a) (v : Bool) : Orderly ((Effect.addReturn v).apply a) := by
  rw [addReturn_eq h]
  cases a.currentFunction.bind a.functions.get? with
  | none => exact h
  | some i =>
    refine ⟨fun f j hj => ?_, h.apart, h.named⟩
    rw [List.length_modify]
    exact h.known f j hj

/-! ### What a stretch of the traversal adds -/

/-- From one analysis to another the nodes `ns` have been entered, in that order, and the nodes `ps`
left: no function is in hand once one of them is left, a name has the returns of its last
definition, and what was in hand before has got the returns up to the first definition. -/
structure Counted (ns ps : List Node) (a b : Analysis) : Prop where
  orderly : Orderly b
  current : b.currentFunction = if ns.any Node.isFunction then none else a.currentFunction
  returns : ∀ f, b.returnsOf f = ((lastDefinition? f ns).map Node.ownReturns).or
    ((a.returnsOf f).map (· ++ if a.currentFunction = some f then firstReturns ns else []))
  issues : b.withCode "W0631" =
    a.withCode "W0631" ++ (ps.filter Node.hasMixedReturns).map mixedIssue

namespace Counted

variable {ps qs : List Node}

theorem nil (h : Orderly a) : Counted [] [] a a where
  orderly := h
  current := rfl
  returns f := by simp [lastDefinition?, firstReturns]
  issues := (List.append_nil _).symm

theorem append (h : Counted ms ps a b) (h' : Counted ns qs b c) :
    Counted (ms ++ ns) (ps ++ qs) a c where
  orderly := h'.orderly
  current := by
    rw [h'.current, h.current, List.any_append]
    cases ms.any Node.isFunction <;> cases ns.any Node.isFunction <;> rfl
  returns f := by
    rw [h'.returns, h.returns, lastDefinition?_append, firstReturns_append, h.current]
    cases lastDefinition? f ns with
    | some g => rfl
    | none =>
      -- Once a function has been left none is in hand, and what follows adds no returns.
      cases hfunction : ms.any Node.isFunction with
      | true => simp
      | false =>
        rw [lastDefinition?_none hfunction]
        by_cases hf : a.currentFunction = some f <;> simp [hf, Function.comp_def]
  issues := by
    rw [h'.issues, h.issues, List.filter_append, List.map_append, List.append_assoc]

theorem of_other (h : Orderly a) (hfunction : n.isFunction = false)
    (hreturn : n.kind ≠ .returnStmt) : Counted [n] [] a a where
  orderly := h
  current := by simp [hfunction]
  returns f := by simp [lastDefinition?, firstReturns, hfunction, hreturn]
  issues := (List.append_nil _).symm

theorem of_return (h : Orderly a) (hreturn : n.kind = .returnStmt) :
    Counted [n] [] a ((Effect.addReturn n.givesValue).apply a) where
  orderly := h.addReturn n.givesValue
  current := by
    rw [addReturn_eq h]
    have hfunction : n.isFunction = false := by simp [Node.isFunction, hreturn]
    cases a.currentFunction.bind a.functions.get? <;> simp [hfunction]
  returns f := by
    have hfunction : n.isFunction = false := by simp [Node.isFunction, hreturn]
    rw [returnsOf_addReturn h]
    simp [lastDefinition?, firstReturns, hfunction, hreturn]
  issues := by
    rw [addReturn_eq h]
    cases a.currentFunction.bind a.functions.get? <;> exact (List.append_nil _).symm

end Counted

/-! ### Functions -/

def Analysis.startFunction (a : Analysis) (n : Node) : Analysis :=
  a.after [.setFunction (some n.title), .define n.title n.line?]

def Analysis.endFunction (a : Analysis) (n : Node) : Analysis :=
  a.after [.checkReturns n.title n.line?, .setFunction none]

theorem Orderly.setFunction (h : Orderly a) (hname : f ≠ "") :
    Orderly ((Effect.setFunction (some f)).apply a) :=
  ⟨h.known, h.apart, fun _ hf => Option.some.inj hf ▸ hname⟩

theorem Orderly.startFunction (h : Orderly a) (hname : n.title ≠ "") :
    Orderly (a.startFunction n) :=
  (h.setFunction hname).define n.title n.line?

theorem returnsOf_startFunction (h : Orderly a) (hname : n.title ≠ "") (f : String) :
    (a.startFunction n).returnsOf f = if f = n.title then some [] else a.returnsOf f :=
  returnsOf_define (h.setFunction hname) n.title n.line? f

theorem isMixed_eq (rs : List Bool) : isMixed rs = (rs.any id && !rs.all id) := by
  have hany : rs.contains true = rs.any id := by rw [Bool.eq_iff_iff]; simp
  have hall : rs.contains false = !rs.all id := by rw [Bool.eq_iff_iff]; simp
  rw [isMixed, hany, hall]

theorem endFunction_eq (a : Analysis) (n : Node) :
    a.endFunction n =
      { (if (a.returnsOf n.title).any isMixed then a.report (.mixedReturns n.title) n.line? else a)
        with currentFunction := none } := by
  have hcheck : (Effect.checkReturns n.title n.line?).apply a =
      if (a.returnsOf n.title).any isMixed then a.report (.mixedReturns n.title) n.line?
      else a := by
    cases hr : a.definition? n.title with
    | none => simp [Effect.apply, Analysis.returnsOf, hr]
    | some r => simp only [Effect.apply, Analysis.returnsOf, hr, Option.map_some, Option.any_some,
        isMixed_eq]
  rw [← hcheck]
  rfl

theorem lastDefinition?_cons (f : String) (n : Node) (ns : List Node) :
    lastDefinition? f (n :: ns) =
      (lastDefinition? f ns).or (if n.isFunction ∧ n.title = f then some n else none) := by
  rw [← List.singleton_append, lastDefinition?_append]
  by_cases h : n.isFunction ∧ n.title = f
  · simp [lastDefinition?, h]
  · rw [if_neg h]
    simp [lastDefinition?, h]

namespace Counted

variable {ps : List Node}

/-- The returns below a function are counted from an empty list, and the function is judged by those
of its last namesake. -/
theorem of_function (ha : Orderly a) (hfunction : n.isFunction = true) (hname : n.title ≠ "")
    (hn : n.preorder = n :: ns) (h : Counted ns ps (a.startFunction n) b) :
    Counted (n :: ns) (ps ++ [n]) a (b.endFunction n) := by
  have hown : n.ownReturns = firstReturns ns := by rw [Node.ownReturns, hn, List.tail_cons]
  have hcurrent : (a.startFunction n).currentFunction = some n.title := rfl
  have hreturns : ∀ f, b.returnsOf f =
      ((lastDefinition? f (n :: ns)).map Node.ownReturns).or (a.returnsOf f) := by
    intro f
    rw [h.returns, hcurrent, returnsOf_startFunction ha hname, lastDefinition?_cons]
    by_cases hf : n.title = f
    · subst hf
      cases lastDefinition? n.title ns <;> simp [hfunction, hown]
    · cases lastDefinition? f ns <;> simp [hf, Ne.symm hf]
  have hmixed : (b.returnsOf n.title).any isMixed = n.hasMixedReturns := by
    rw [hreturns, Node.hasMixedReturns, hn, hfunction, Bool.true_and, lastDefinition?_cons]
    cases lastDefinition? n.title ns <;> simp [hfunction]
  have hnone : firstReturns (n :: ns) = [] := by simp [firstReturns, hfunction]
  rw [endFunction_eq, hmixed]
  constructor
  · cases n.hasMixedReturns <;> exact ⟨h.orderly.known, h.orderly.apart, fun f hf => by cases hf⟩
  · simp [hfunction]
  · intro f
    rw [hnone, ite_self]
    simp only [List.append_nil, Option.map_id']
    rw [← hreturns f]
    cases n.hasMixedReturns <;> rfl
  · have hstart : (a.startFunction n).withCode "W0631" = a.withCode "W0631" := rfl
    rw [List.filter_append, List.map_append, ← List.append_assoc, ← hstart, ← h.issues]
    cases hn : n.hasMixedReturns with
    | false => simp [hn, Analysis.withCode]
    | true => simp [hn, Analysis.withCode, Analysis.report, Finding.code, mixedIssue]

end Counted

/-! ### Whole trees -/

theorem orderly_returnsPart : Orderly a.returnsPart ↔ Orderly a :=
  ⟨fun h => ⟨h.known, h.apart, h.named⟩, fun h => ⟨h.known, h.apart, h.named⟩⟩

theorem counted_returnsPart {ps : List Node} :
    Counted ns ps a.returnsPart b.returnsPart ↔ Counted ns ps a b := by
  have hissues : ∀ c : Analysis, c.returnsPart.withCode "W0631" = c.withCode "W0631" := fun c => by
    simp [Analysis.withCode, Analysis.returnsPart]
  refine ⟨fun h => ⟨orderly_returnsPart.mp h.orderly, h.current, h.returns, ?_⟩,
    fun h => ⟨orderly_returnsPart.mpr h.orderly, h.current, h.returns, ?_⟩⟩
  · rw [← hissues a, ← hissues b]
    exact h.issues
  · rw [hissues a, hissues b]
    exact h.issues

theorem counted_chain {cs : List Node}
    (h : Chain (fun c a b => Orderly a → Counted c.preorder c.postorder a b) cs a b)
    (ha : Orderly a) :
    Counted (cs.flatMap Node.preorder) (cs.flatMap Node.postorder) a b := by
  induction cs generalizing a with
  | nil =>
    cases h
    exact .nil ha
  | cons c cs ih =>
    obtain ⟨m, hc, hcs⟩ := h
    exact (hc ha).append (ih hcs (hc ha).orderly)

theorem counted_entering (h : Orderly a) (hfunction : n.isFunction = false) :
    Counted [n] [] a (a.after (returnEffects n)) := by
  have hkind : n.kind ≠ .functionDef := by simpa [Node.isFunction] using hfunction
  by_cases hreturn : n.kind = .returnStmt
  · rw [returnEffects, hreturn]
    exact .of_return h hreturn
  · rw [returnEffects_eq_nil hkind hreturn]
    exact .of_other h hfunction hreturn

/-- Entering a node is the first step, its branches the next, and leaving it the last. Only a
function does something about returns on being left. -/
theorem counted_visit {above : List Link} (h : Runs (visit above n) a () b) (hplain : n.Plain)
    (hnames : n.FunctionsNamed) (ha : Orderly a) : Counted n.preorder n.postorder a b := by
  refine visit_induction (P := fun _ n a b => n.Plain → n.FunctionsNamed → Orderly a →
    Counted n.preorder n.postorder a b) (fun above n a m hchain hplain hnames ha => ?_) h hplain
    hnames ha
  have hbelow : Orderly (a.after (entering above n)) → Counted (n.children.flatMap Node.preorder)
      (n.children.flatMap Node.postorder) (a.after (entering above n)) m := by
    rw [← branches_of_plain hplain]
    refine counted_chain (hchain.mono fun c hc a b h => h ?_ ?_)
    · exact fun k hk => hplain k (mem_preorder_of_child (branches_subset hc) hk)
    · exact fun k hk => hnames k (mem_preorder_of_child (branches_subset hc) hk)
  have hentering := returnsPart_after a (entering above n)
  have hleaving := returnsPart_after m (leaving n a.current)
  rw [filter_returns_entering] at hentering
  rw [filter_returns_leaving] at hleaving
  -- From here on only the part about returns is looked at, in which most nodes do nothing.
  rw [← orderly_returnsPart] at ha
  rw [← orderly_returnsPart, ← counted_returnsPart, hentering] at hbelow
  rw [← counted_returnsPart, hleaving, preorder_eq, postorder_eq]
  cases hfunction : n.isFunction with
  | true =>
    have hkind : n.kind = .functionDef := eq_of_beq hfunction
    have hname := hnames n (mem_preorder_self n) hfunction
    have hstart : a.returnsPart.after (returnEffects n) = a.returnsPart.startFunction n := by
      rw [returnEffects, hkind]
      rfl
    rw [hstart] at hbelow
    exact .of_function ha hfunction hname (preorder_eq n) (hbelow (ha.startFunction hname))
  | false =>
    have hmixed : n.hasMixedReturns = false := by
      rw [Node.hasMixedReturns, hfunction, Bool.false_and]
    have hentered := counted_entering ha hfunction
    have hwhole := hentered.append (hbelow hentered.orderly)
    refine ⟨hwhole.orderly, hwhole.current, hwhole.returns, ?_⟩
    rw [List.filter_append, List.filter_cons_of_neg (by simp [hmixed])]
    simpa using hwhole.issues

/-- The functions with mixed returns are reported, each when it is left. -/
theorem mixed_returns_reported (h : n.WellFormed) (hnames : n.FunctionsNamed) :
    ∃ a, analysis n = .ok a ∧
      a.withCode "W0631" = (n.postorder.filter Node.hasMixedReturns).map mixedIssue := by
  obtain ⟨b, hb, hanalysis⟩ := analysis_eq h
  have hfresh : Orderly ({} : Analysis) :=
    ⟨fun f i hi => (by cases hi), fun f g i hi => (by cases hi), fun f hf => (by cases hf)⟩
  have hcounted := counted_visit hb h.2.plain hnames hfresh
  exact ⟨_, hanalysis, (withCode_reportUnused_of_ne rfl b).trans hcounted.issues⟩

def nestedReturns : Node :=
  treeOf ("def f():\n return 1\n def f():\n  return\n  return 2\n" ++
    "def g():\n return 1\n def h(): 0\n return\n")

theorem mixed_returns_reported_nestedReturns :
    nestedReturns.WellFormed ∧ nestedReturns.FunctionsNamed ∧
      ∃ a, analysis nestedReturns = .ok a ∧
        a.withCode "W0631" = [⟨.mixedReturns "f", some 3⟩, ⟨.mixedReturns "f", some 1⟩] := by
  have hevaluated : nestedReturns.WellFormed ∧ nestedReturns.FunctionsNamed ∧
      (nestedReturns.postorder.filter Node.hasMixedReturns).map mixedIssue =
        [⟨.mixedReturns "f", some 3⟩, ⟨.mixedReturns "f", some 1⟩] := by
    decide +kernel
  obtain ⟨hformed, hnames, hissues⟩ := hevaluated
  obtain ⟨a, ha, hreported⟩ := mixed_returns_reported hformed hnames
  exact ⟨hformed, hnames, a, ha, hreported.trans hissues⟩

end CodeLint.Lint
