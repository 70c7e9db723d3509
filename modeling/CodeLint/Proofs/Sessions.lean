import CodeLint.Lint.Session
import CodeLint.Proofs.LocalChecks

/-!
Sessions. Steps may come in any order and may stop with a fault half-way, and what a step has changed
before it stops stays changed. Still an analysis only grows: issues are added at the end, and names
that are imported, global or those of classes stay so. From this follow the invariants of a session.
-/

namespace CodeLint.Lint

open CodeLint.Tree

variable {α β : Type} {E F : String → Prop} {a b c : Analysis}

/-- What any check does to an analysis, whether it runs or stops. The function in hand is one that
has been met before, apart from those in `E`. -/
structure Grows (E : String → Prop) (a b : Analysis) : Prop where
  issues : a.issues <+: b.issues
  imports : a.imports ⊆ b.imports
  classNames : a.classNames ⊆ b.classNames
  globalScope : ∀ x, a.globalScope.has x = true → b.globalScope.has x = true
  functions : ∀ f, a.functions.has f = true → b.functions.has f = true
  used : ∀ x ∈ b.usedImports, x ∈ a.usedImports ∨ b.isImported x = true
  globals : ∀ x ∈ b.globalVars, x ∈ a.globalVars ∨ b.globalScope.has x = true
  function : ∀ f, b.currentFunction = some f →
    a.currentFunction = some f ∨ b.functions.has f = true ∨ E f

theorem isImported_mono (h : a.imports ⊆ b.imports) {x : String} (hx : a.isImported x = true) :
    b.isImported x = true := by
  obtain ⟨e, he, hname⟩ := List.any_eq_true.mp hx
  exact List.any_eq_true.mpr ⟨e, h he, hname⟩

namespace Grows

theorem refl (E : String → Prop) (a : Analysis) : Grows E a a where
  issues := List.prefix_rfl
  imports := List.Subset.refl _
  classNames := List.Subset.refl _
  globalScope _ h := h
  functions _ h := h
  used _ h := .inl h
  globals _ h := .inl h
  function _ h := .inl h

theorem trans (h : Grows E a b) (h' : Grows E b c) : Grows E a c where
  issues := h.issues.trans h'.issues
  imports _ hx := h'.imports (h.imports hx)
  classNames _ hx := h'.classNames (h.classNames hx)
  globalScope x hx := h'.globalScope x (h.globalScope x hx)
  functions f hf := h'.functions f (h.functions f hf)
  used x hx := by
    rcases h'.used x hx with hb | hc
    · exact (h.used x hb).imp_right (isImported_mono h'.imports)
    · exact .inr hc
  globals x hx := by
    rcases h'.globals x hx with hb | hc
    · exact (h.globals x hb).imp_right (h'.globalScope x)
    · exact .inr hc
  function f hf := by
    rcases h'.function f hf with hb | hc
    · exact (h.function f hb).imp_right (.imp_left (h'.functions f))
    · exact .inr hc

theorem report (a : Analysis) (is : List Issue) : Grows E a { a with issues := a.issues ++ is } :=
  { refl E a with issues := List.prefix_append a.issues is }

theorem bind (a : Analysis) (x : String) (k : Binding) : Grows E a (a.bind x k) := by
  unfold Analysis.bind
  cases a.current with
  | global => exact { refl E a with
      globalScope := fun y hy => Ordered.has_put.mpr (.inr hy)
      globals := fun y hy => .inl hy }
  | level i => exact { refl E a with issues := List.prefix_rfl }

theorem define (a : Analysis) (f : String) (r : FunctionRecord) : Grows E a (a.define f r) :=
  { refl E a with
    functions := fun _ hg => Ordered.has_put.mpr (.inr hg)
    function := fun _ hg => .inl hg }

end Grows

def Effect.startsFunction : Effect → Bool
  | setFunction (some _) => true
  | _ => false

theorem grows_apply (a : Analysis) {e : Effect} (he : e.startsFunction = false) :
    Grows E a (e.apply a) := by
  have hsame := Grows.refl E a
  have hreport : ∀ f line, Grows E a (a.report f line) := fun f line => .report a [⟨f, line⟩]
  cases e with
  | report f line => exact hreport f line
  | addImport x line =>
    refine { hsame with
      imports := fun e he => mem_insertNew.mpr (.inr he)
      used := fun y hy => .inl hy }
  | bind x k => exact .bind a x k
  | addClass x => exact { hsame with classNames := fun y hy => mem_insertNew.mpr (.inr hy) }
  | setFunction f =>
    cases f with
    | some f => cases he
    | none => exact { hsame with function := fun f hf => by cases hf }
  | define f line => exact .define a f ⟨[], line⟩
  | addReturn hasValue =>
    simp only [Effect.apply, Analysis.addReturn]
    split
    · exact hsame
    · split
      · exact hsame
      · split
        · exact { hsame with issues := List.prefix_rfl }
        · exact hsame
  | checkReturns f line =>
    simp only [Effect.apply]
    split
    · exact hsame
    · split
      · exact hreport _ line
      · exact hsame
  | checkVariable x line | checkDefined x line =>
    simp only [Effect.apply]
    split
    · exact hsame
    · exact hreport _ line
  | checkDepth line =>
    simp only [Effect.apply]
    split
    · exact hreport _ line
    · exact hsame
  | markUsed x =>
    simp only [Effect.apply, Analysis.markUsed]
    cases hx : a.isImported x with
    | false => exact hsame
    | true =>
      refine { hsame with used := fun y hy => ?_ }
      rcases mem_insertNew.mp hy with rfl | hy
      · exact .inr hx
      · exact .inl hy
  | store x =>
    simp only [Effect.apply]
    split
    · exact hsame
    · exact .bind a x .assigned
  | declareGlobal x =>
    refine { hsame with
      globalScope := fun y hy => Ordered.has_put.mpr (.inr hy)
      globals := fun y hy => ?_ }
    rcases mem_insertNew.mp hy with rfl | hy
    · exact .inr (Ordered.has_put.mpr (.inl rfl))
    · exact .inl hy
  | reportUnusedImports => exact .report a _
  | _ => exact { hsame with issues := List.prefix_rfl }

theorem grows_after (a : Analysis) {es : List Effect} (hes : ∀ e ∈ es, e.startsFunction = false) :
    Grows E a (a.after es) := by
  induction es generalizing a with
  | nil => exact .refl E a
  | cons e es ih =>
    have hfirst := grows_apply (E := E) a (hes e List.mem_cons_self)
    exact hfirst.trans (ih (e.apply a) fun f hf => hes f (List.mem_cons_of_mem e hf))

/-! ### Checks that run or stop -/

def Advances (E : String → Prop) (c : Check α) : Prop := ∀ a, Grows E a (c.apply a).2

theorem Advances.bind {c : Check α} {f : α → Check β} (hc : Advances E c)
    (hf : ∀ x, Advances E (f x)) : Advances E (c >>= f) := by
  intro a
  have hfirst := hc a
  rw [apply_bind]
  cases hr : c.apply a with
  | mk r m =>
    rw [hr] at hfirst
    cases r with
    | error e => exact hfirst
    | ok x => exact hfirst.trans (hf x m)

theorem advances_pure (x : α) : Advances E (pure x) := fun a => .refl E a

theorem advances_throw (f : Fault) : Advances E (throw f : Check α) := fun a => .refl E a

theorem advances_get {f : Analysis → Check α} (hf : ∀ a, Advances E (f a)) :
    Advances E (get >>= f) := fun a => hf a a

theorem advances_modify {f : Analysis → Analysis} (hf : ∀ a, Grows E a (f a)) :
    Advances E (modify f) := hf

theorem Reads.advances {c : Check α} {x : α} (h : Reads c x) : Advances E c := by
  intro a
  rw [h.unchanged]
  exact .refl E a

theorem Reads.advances_then {c : Check α} {f : α → Check β} {x : α} (hc : Reads c x)
    (hf : Advances E (f x)) : Advances E (c >>= f) := by
  intro a
  have hsame := hc.unchanged a
  rw [apply_bind]
  cases hr : c.apply a with
  | mk r m =>
    rw [hr] at hsame
    obtain rfl : m = a := hsame
    cases r with
    | error e => exact .refl E m
    | ok y =>
      obtain rfl := hc.value m y m hr
      exact hf m

theorem Performs.advances {c : Check Unit} {es : List Effect} (h : Performs c es)
    (hes : ∀ e ∈ es, e.startsFunction = false) : Advances E c := by
  intro a
  obtain ⟨ps, hps, hstop⟩ := (h a).stop
  rw [hstop]
  exact grows_after a fun e he => hes e (hps.subset he)

theorem advances_ite {p : Prop} [Decidable p] {c d : Check α} (hc : Advances E c)
    (hd : Advances E d) : Advances E (if p then c else d) := by
  split
  · exact hc
  · exact hd

theorem advances_forM {f : α → Check Unit} {xs : List α} (hf : ∀ x ∈ xs, Advances E (f x)) :
    Advances E (xs.forM f) := by
  induction xs with
  | nil => exact advances_pure _
  | cons x xs ih =>
    exact (hf x List.mem_cons_self).bind fun _ => ih fun y hy => hf y (List.mem_cons_of_mem x hy)

/-! ### Visits -/

theorem startsFunction_of_isReport {es : List Effect} (hes : ∀ e ∈ es, e.isReport = true) :
    ∀ e ∈ es, e.startsFunction = false := by
  intro e he
  have hreport := hes e he
  cases e with
  | report => rfl
  | _ => cases hreport

/-- The name becomes that of the function in hand before the line is read, and a definition only
after it. -/
theorem beginFunction_advances {n : Node} {f : String} (hE : n.line? = none → E f) :
    Advances E (beginFunction n f) := by
  intro a
  cases hline : n.line? with
  | none =>
    have hread : lineOf (.node n) = throw (.missingAttribute n.kind.spelling "lineno") := by
      simp only [lineOf, hline]
    have hstops : ((beginFunction n f).apply a).2 = { a with currentFunction := some f } := by
      rw [beginFunction, hread]
      rfl
    rw [hstops]
    refine { Grows.refl E a with function := fun g hg => ?_ }
    cases hg
    exact .inr (.inr (hE hline))
  | some l =>
    have hread : lineOf (.node n) = pure (some l) := by simp only [lineOf, hline]
    have hruns : ((beginFunction n f).apply a).2 =
        Analysis.push (Analysis.define { a with currentFunction := some f } f ⟨[], some l⟩) [] := by
      rw [beginFunction, hread]
      rfl
    rw [hruns]
    refine { Grows.define (E := E) a f ⟨[], some l⟩ with function := fun g hg => ?_ }
    cases hg
    exact .inr (.inl (Ordered.has_put.mpr (.inl rfl)))

theorem enterFunction_advances {n : Node} (hE : n.line? = none → E n.title) :
    Advances E (enterFunction n) := by
  have hreportIf : ∀ found f v, Advances E (reportIf found f v) := fun found f v =>
    (performs_reportIf found f v).advances
      (startsFunction_of_isReport (isReport_of_mem_atLine found f v))
  refine (reads_textAttr _ _).advances_then ((hreportIf _ _ _).bind fun _ => ?_)
  refine (reads_hasDocstring n).advances_then ((hreportIf _ _ _).bind fun _ => ?_)
  refine (reads_attr _ _).advances_then (Advances.bind ?_ fun _ => ?_)
  · exact (checkSignature_performs _ _ _).advances
      (startsFunction_of_isReport isReport_of_mem_signature)
  · refine (beginFunction_advances hE).bind fun _ => (bindParameters_performs n).advances ?_
    exact List.forall_mem_map.mpr fun _ _ => rfl

theorem startsFunction_of_filter {es : List Effect}
    (hes : ∀ e ∈ es.filter Effect.isPrincipal, e.startsFunction = false) :
    ∀ e ∈ es, e.startsFunction = false := by
  intro e he
  cases e with
  | setFunction f => exact hes _ (List.mem_filter.mpr ⟨he, rfl⟩)
  | _ => rfl

theorem startsFunction_of_mem_entering {n : Node} (above : List Link) (hk : n.kind ≠ .functionDef) :
    ∀ e ∈ entering above n, e.startsFunction = false := by
  refine startsFunction_of_filter ?_
  rw [filter_entering]
  intro e he
  have hpossible := possibleAt_of_mem_principal e he
  cases e with
  | setFunction f =>
    have hopens : opensScope n.kind = true := hpossible
    cases hkind : n.kind with
    | functionDef => exact absurd hkind hk
    | classDef | forLoop | whileLoop => simp [principal, hkind] at he
    | _ =>
      rw [hkind] at hopens
      cases hopens
  | _ => rfl

theorem startsFunction_of_mem_leaves (atModule : Bool) (ms : List Node) :
    ∀ e ∈ ms.flatMap (leafEffects atModule), e.startsFunction = false := by
  refine startsFunction_of_filter ?_
  rw [filter_leaves]
  exact List.forall_mem_map.mpr fun _ _ => rfl

theorem enter_advances {n : Node} {above : List Link}
    (hE : n.kind = .functionDef → n.line? = none → E n.title) : Advances E (enter above n) := by
  by_cases hk : n.kind = .functionDef
  · rw [enter, hk]
    exact enterFunction_advances (hE hk)
  · exact (enter_performs above n).advances (startsFunction_of_mem_entering above hk)

theorem leave_advances (n : Node) (previous : ScopeRef) : Advances E (leave n previous) := by
  refine (leave_performs n previous).advances ?_
  unfold leaving
  cases n.kind with
  | program | classDef | functionDef | forLoop | whileLoop => simp [Effect.startsFunction]
  | _ => exact List.forall_mem_nil _

theorem visit_advances {n : Node} (above : List Link)
    (hE : ∀ m ∈ n.preorder, m.kind = .functionDef → m.line? = none → E m.title) :
    Advances E (visit above n) := by
  induction n using branch_induction generalizing above with
  | step n ih =>
    rw [visit_eq]
    refine advances_get fun a => (enter_advances (hE n (mem_preorder_self n))).bind fun _ => ?_
    refine (advances_forM fun c hc => ih c hc _ fun m hm => ?_).bind fun _ => leave_advances n _
    exact hE m (mem_preorder_of_child (branches_subset hc) hm)

/-! ### Steps -/

def Unplaced (n : Node) (f : String) : Prop :=
  ∃ m ∈ n.preorder, m.kind = .functionDef ∧ m.line? = none ∧ m.title = f

def Step.trees : Step → List Node
  | visit s | statements s =>
    match s.tree with
    | .ok n => [n]
    | .error _ => []
  | withCall (.node n) _ => [n]
  | _ => []

theorem visit_advances_of_unplaced {n m : Node} (hE : ∀ f, Unplaced n f → E f)
    (hm : ∀ k ∈ m.preorder, k ∈ n.preorder) (above : List Link) : Advances E (visit above m) :=
  visit_advances above fun k hk hkind hline => hE k.title ⟨k, hm k hk, hkind, hline, rfl⟩

theorem mem_preorder_of_item {n m : Node} {k : Nat}
    (hm : ((Value.list ((Value.node n).membersAt .items)).item k).part .contextExpr = .node m) :
    ∀ c ∈ m.preorder, c ∈ n.preorder := by
  intro c hc
  cases hitem : (Value.list ((Value.node n).membersAt .items)).item k with
  | node i =>
    rw [hitem] at hm
    have hmem : Value.node i ∈ (Value.node n).membersAt .items := by
      have hget : ((Value.node n).membersAt .items).getD k (.atom .none) = .node i := hitem
      rw [List.getD_eq_getElem?_getD] at hget
      cases hk : ((Value.node n).membersAt .items)[k]? with
      | none =>
        rw [hk] at hget
        cases hget
      | some v =>
        rw [hk] at hget
        obtain rfl : v = .node i := hget
        exact List.mem_of_getElem? hk
    have hchild : m ∈ i.children :=
      mem_children_of_part (by rw [hm]; exact List.mem_singleton_self m)
    exact mem_preorder_of_child (mem_children_of_mem_membersAt hmem)
      (mem_preorder_of_child hchild hc)
  | atom c =>
    rw [hitem] at hm
    cases hm
  | list vs =>
    rw [hitem] at hm
    cases hm

theorem visitItem_advances {v : Value} (i : Int)
    (hE : ∀ n, v = .node n → ∀ f, Unplaced n f → E f) : Advances E (visitItem v i) := by
  have hplace : ∀ length, Advances E (placeIn length i) :=
    fun _ => advances_ite (advances_pure _) (advances_throw _)
  refine (reads_membersAttr v .items).advances_then ((hplace _).bind fun k => ?_)
  refine (reads_element _ k).advances_then ((reads_attr _ _).advances_then ?_)
  split
  · next call n hcall =>
    exact visit_advances_of_unplaced (hE n rfl) (mem_preorder_of_item hcall) _
  · exact advances_pure _

theorem read_advances {s : Subject} {f : Node → Check α}
    (hf : ∀ n, s.tree = .ok n → Advances E (f n)) : Advances E (s.read >>= f) := by
  unfold Subject.read
  cases hs : s.tree with
  | ok n => exact (reads_pure n).advances_then (hf n hs)
  | error e => exact fun a => .refl E a

theorem popScope_advances : Advances E popScope := by
  have hpop : ∀ a : Analysis, Grows E a { a with
      scopes := a.scopes.dropLast
      current := if a.scopes.dropLast.isEmpty then .global
        else .level (a.scopes.dropLast.length - 1) } :=
    fun a => { Grows.refl E a with issues := List.prefix_rfl }
  refine advances_get fun a => advances_ite ?_ ?_
  · exact (advances_throw _).bind fun _ => advances_modify hpop
  · exact advances_modify hpop

theorem step_advances (s : Step) (hE : ∀ t ∈ s.trees, ∀ f, Unplaced t f → E f) :
    Advances E s.run := by
  cases s with
  | visit s =>
    refine read_advances fun n hn => ?_
    refine (visit_advances_of_unplaced (hE n ?_) (fun _ h => h) []).bind fun _ => advances_pure _
    simp [Step.trees, hn]
  | statements s =>
    refine read_advances fun n hn => (reads_membersAttr _ _).advances_then ?_
    refine (advances_forM fun v hv => ?_).bind fun _ => advances_pure _
    cases v with
    | node m =>
      refine visit_advances_of_unplaced (hE n (by simp [Step.trees, hn])) (fun c hc => ?_) []
      exact mem_preorder_of_child (mem_children_of_mem_membersAt hv) hc
    | _ => exact advances_pure _
  | assign target atModule =>
    cases target with
    | node n =>
      have hassign := (assignNode_performs atModule n).advances (E := E)
        (startsFunction_of_mem_leaves atModule n.leaves)
      exact hassign.bind fun _ => advances_pure _
    | _ => exact advances_pure _
  | defined x => exact advances_get fun a => advances_pure _
  | push names =>
    refine (advances_modify fun a => ?_).bind fun _ => advances_pure _
    exact { Grows.refl E a with issues := List.prefix_rfl }
  | pop => exact popScope_advances.bind fun _ => advances_pure _
  | enterFunction x returns line =>
    refine (advances_modify fun a => ?_).bind fun _ => advances_pure _
    refine { Grows.define (E := E) a x ⟨returns, line⟩ with function := fun g hg => ?_ }
    cases hg
    exact .inr (.inl (Ordered.has_put.mpr (.inl rfl)))
  | consistency v =>
    cases v with
    | node n =>
      exact ((checkReturns_performs n).advances (by simp [Effect.startsFunction])).bind fun _ =>
        advances_pure _
    | atom c => exact (reads_discard (reads_attr _ _)).advances.bind fun _ => advances_pure _
    | list vs => exact (reads_discard (reads_attr _ _)).advances.bind fun _ => advances_pure _
  | withCall v i =>
    refine (visitItem_advances i fun n hn => ?_).bind fun _ => advances_pure _
    subst hn
    exact hE n List.mem_cons_self
  | addIssue code message line =>
    exact (advances_modify fun a => Grows.report a _).bind fun _ => advances_pure _
  | reportUnused =>
    exact (advances_modify fun a => Grows.report a _).bind fun _ => advances_pure _
  | snapshot => exact advances_get fun a => advances_pure _

theorem runSteps_grows {ss : List Step} (hE : ∀ s ∈ ss, ∀ t ∈ s.trees, ∀ f, Unplaced t f → E f)
    (a : Analysis) : Grows E a (runSteps ss a).2 := by
  induction ss generalizing a with
  | nil => exact .refl E a
  | cons s ss ih =>
    have hstep := step_advances s (hE s List.mem_cons_self) a
    exact hstep.trans (ih (fun t ht => hE t (List.mem_cons_of_mem s ht)) _)

theorem runSteps_append (ss ts : List Step) (a : Analysis) :
    (runSteps (ss ++ ts) a).2 = (runSteps ts (runSteps ss a).2).2 := by
  induction ss generalizing a with
  | nil => rfl
  | cons s ss ih => exact ih _

def behind (ss : List Step) : Analysis := (runSteps ss {}).2

theorem isDefined_of_grows (h : Grows E a b) {x : String}
    (hx : (∃ l, (x, l) ∈ a.imports) ∨ x ∈ a.classNames ∨ a.globalScope.has x = true) :
    b.isDefined x = true := by
  unfold Analysis.isDefined
  rcases hx with ⟨l, hx⟩ | hx | hx
  · have himported : b.isImported x = true :=
      isImported_mono h.imports (List.any_eq_true.mpr ⟨(x, l), hx, by simp⟩)
    simp [himported]
  · simp [h.classNames hx]
  · simp [h.globalScope x hx]

/-- Whatever steps a session takes, and wherever they stop: used imports are imports, global
variables are bound in the module's scope, and the function in hand is one that has been defined
or whose definition has no line. However the session goes on, it only adds issues, and a name that
is imported, global or that of a class stays defined. -/
theorem session_invariants (ss ts : List Step) :
    (∀ x ∈ (behind ss).usedImports, ∃ l, (x, l) ∈ (behind ss).imports) ∧
      (∀ x ∈ (behind ss).globalVars, (behind ss).globalScope.has x = true) ∧
      (∀ f, (behind ss).currentFunction = some f →
        (behind ss).functions.has f = true ∨ ∃ s ∈ ss, ∃ t ∈ s.trees, Unplaced t f) ∧
      (behind ss).issues <+: (behind (ss ++ ts)).issues ∧
      ∀ x, (∃ l, (x, l) ∈ (behind ss).imports) ∨ x ∈ (behind ss).classNames ∨
          (behind ss).globalScope.has x = true →
        Runs (Step.defined x).run (behind (ss ++ ts)) (.truth true) (behind (ss ++ ts)) := by
  have hfirst : Grows (fun f => ∃ s ∈ ss, ∃ t ∈ s.trees, Unplaced t f) {} (behind ss) :=
    runSteps_grows (fun s hs t ht f hf => ⟨s, hs, t, ht, hf⟩) {}
  have hlater : Grows (fun _ => True) (behind ss) (behind (ss ++ ts)) := by
    rw [behind, behind, runSteps_append]
    exact runSteps_grows (fun _ _ _ _ _ _ => trivial) _
  refine ⟨fun x hx => ?_, fun x hx => ?_, fun f hf => ?_, hlater.issues, fun x hx => ?_⟩
  · have himported := (hfirst.used x hx).resolve_left (by simp)
    obtain ⟨e, he, hname⟩ := List.any_eq_true.mp himported
    exact ⟨e.2, by rwa [← eq_of_beq hname]⟩
  · exact (hfirst.globals x hx).resolve_left (by simp)
  · exact (hfirst.function f hf).resolve_left (by simp)
  · have hdefined := isDefined_of_grows hlater hx
    rw [Step.run, runs_bind]
    exact ⟨_, _, runs_get.mpr ⟨rfl, rfl⟩, runs_pure.mpr ⟨by rw [hdefined], rfl⟩⟩

def unplacedFunction : Node :=
  .mk .functionDef {}
    [.mk .name (.atom (.str "f")),
      .mk .positional (.node (.mk .parameters {} [.mk .positional (.list []),
        .mk .keywordOnly (.list []), .mk .defaults (.list [])])),
      .mk .body (.list [.node (.mk .expr {}
        [.mk .value (.node (.mk .constant {} [.mk .value (.atom (.str "doc"))]))])])]

theorem function_in_hand_undefined :
    (behind [.visit (.value (.node unplacedFunction))]).currentFunction = some "f" ∧
      (behind [.visit (.value (.node unplacedFunction))]).functions.has "f" = false := by
  decide +kernel

end CodeLint.Lint
