import CodeLint.Proofs.Findings
import CodeLint.Proofs.Safe
import CodeLint.Proofs.Scopes

/-!
A visit of a sound tree comes to an end. What remains beyond reading the tree is that a return
statement and the end of a definition find the function they look up, and that a scope is there to
be closed. Functions that are known stay known, and the current one is always among them.
-/

namespace CodeLint.Lint

open CodeLint.Tree

variable {a b c : Analysis} {n : Node} {above : List Link}

def ValidFunctions (a : Analysis) : Prop := ∀ e ∈ a.functions, e.2 < a.definitions.length

structure Retains (a b : Analysis) : Prop where
  functions : ∀ f, a.functions.has f = true → b.functions.has f = true
  valid : ValidFunctions a → ValidFunctions b

namespace Retains

theorem of_eq (hf : b.functions = a.functions) (hd : b.definitions.length = a.definitions.length) :
    Retains a b where
  functions f h := by rwa [hf]
  valid h := by
    unfold ValidFunctions
    rw [hf, hd]
    exact h

theorem refl (a : Analysis) : Retains a a := of_eq rfl rfl

theorem trans (h : Retains a b) (h' : Retains b c) : Retains a c where
  functions f hf := h'.functions f (h.functions f hf)
  valid hv := h'.valid (h.valid hv)

theorem define (a : Analysis) (f : String) (r : FunctionRecord) : Retains a (a.define f r) where
  functions g hg := Ordered.has_put.mpr (.inr hg)
  valid hv e he := by
    simp only [Analysis.define, List.length_append, List.length_singleton]
    rcases Ordered.mem_put he with rfl | he
    · exact Nat.lt_succ_self _
    · exact Nat.lt_succ_of_lt (hv e he)

theorem bind (a : Analysis) (x : String) (k : Binding) : Retains a (a.bind x k) := by
  unfold Analysis.bind
  cases a.current <;> exact of_eq rfl rfl

theorem apply (a : Analysis) (e : Effect) : Retains a (e.apply a) := by
  cases e with
  | define f line => exact define a f _
  | bind x k => exact bind a x k
  | addReturn hasValue =>
    simp only [Effect.apply, Analysis.addReturn]
    split
    · exact refl a
    · split
      · exact refl a
      · split
        · exact of_eq rfl (List.length_modify ..)
        · exact refl a
  | checkReturns f line =>
    simp only [Effect.apply]
    split
    · exact refl a
    · split <;> exact of_eq rfl rfl
  | checkVariable x line =>
    simp only [Effect.apply]
    split <;> exact of_eq rfl rfl
  | checkDefined x line =>
    simp only [Effect.apply]
    split <;> exact of_eq rfl rfl
  | markUsed x =>
    simp only [Effect.apply, Analysis.markUsed]
    split <;> exact of_eq rfl rfl
  | store x =>
    simp only [Effect.apply]
    split
    · exact refl a
    · exact bind a x .assigned
  | checkDepth line =>
    simp only [Effect.apply]
    split <;> exact of_eq rfl rfl
  | _ => exact of_eq rfl rfl

theorem after (a : Analysis) (es : List Effect) : Retains a (a.after es) := by
  induction es generalizing a with
  | nil => exact refl a
  | cons e es ih => exact (apply a e).trans (ih (e.apply a))

end Retains

structure FunctionsKnown (a : Analysis) : Prop where
  valid : ValidFunctions a
  current : ∀ f, a.currentFunction = some f → a.functions.has f = true

theorem isSome_definition? {f : String} (h : ValidFunctions a) (hf : a.functions.has f = true) :
    (a.definition? f).isSome = true := by
  obtain ⟨i, hi, hmem⟩ := Ordered.get?_of_has hf
  simp only [Analysis.definition?, hi, List.getElem?_eq_getElem (h _ hmem), Option.isSome_some]

theorem currentFunction_of_isLevel (a : Analysis) {es : List Effect}
    (hes : ∀ e ∈ es, e.isLevel = true) : (a.after es).currentFunction = a.currentFunction :=
  (Disciplined.after a hes).outside id

theorem currentFunction_entering (a : Analysis) (above : List Link) (n : Node) :
    (a.after (entering above n)).currentFunction =
      if n.kind = .functionDef then some n.title else a.currentFunction := by
  rw [← (entering_agrees a above n).currentFunction]
  by_cases hprogram : n.kind = .program
  · simp [principal, hprogram, Effect.apply]
  cases hscope : opensScope n.kind with
  | false =>
    have hfunction : n.kind ≠ .functionDef := fun hk => by rw [hk] at hscope; cases hscope
    rw [if_neg hfunction]
    exact currentFunction_of_isLevel a (isLevel_of_mem_principal hprogram hscope)
  | true =>
    unfold principal
    cases hk : n.kind with
    | classDef => exact (Disciplined.bind a n.title .classDef).outside id
    | functionDef => exact currentFunction_of_isLevel _ (List.forall_mem_map.mpr fun _ _ => rfl)
    | forLoop =>
      exact currentFunction_of_isLevel (Effect.openScope.apply (Effect.enterLoop.apply a))
        (List.forall_mem_map.mpr fun _ _ => rfl)
    | whileLoop => rfl
    | _ =>
      rw [hk] at hscope
      cases hscope

theorem has_title_entering (a : Analysis) (above : List Link) (hk : n.kind = .functionDef) :
    (a.after (entering above n)).functions.has n.title = true := by
  simp only [entering, hk, functionEffects, Analysis.after_append, Analysis.after_cons,
    Analysis.after_nil]
  refine (Retains.after _ _).functions _ ((Retains.apply _ .openScope).functions _ ?_)
  exact Ordered.has_put.mpr (.inl rfl)

theorem FunctionsKnown.entering (h : FunctionsKnown a) (above : List Link) (n : Node) :
    FunctionsKnown (a.after (entering above n)) where
  valid := (Retains.after a _).valid h.valid
  current f hf := by
    rw [currentFunction_entering] at hf
    split at hf
    · next hk =>
      rw [← Option.some.inj hf]
      exact has_title_entering a above hk
    · exact (Retains.after a _).functions f (h.current f hf)

theorem FunctionsKnown.leaving (h : FunctionsKnown a) (n : Node) (previous : ScopeRef) :
    FunctionsKnown (a.after (leaving n previous)) where
  valid := (Retains.after a _).valid h.valid
  current f hf := by
    refine (Retains.after a _).functions f (h.current f ?_)
    rw [← (leaving_agrees a n previous).currentFunction] at hf
    unfold principalLeave at hf
    cases hk : n.kind with
    | functionDef =>
      rw [hk] at hf
      cases hf
    | program | classDef | forLoop | whileLoop =>
      rw [hk] at hf
      exact hf
    | _ =>
      rw [hk] at hf
      exact hf

theorem visit_retains (h : Runs (visit above n) a () b) : Retains a b :=
  visit_relates Retains.refl (fun _ _ _ => Retains.trans) (fun a _ _ => Retains.after a _)
    (fun a _ _ => Retains.after a _) h

theorem FunctionsKnown.visit (h : Runs (visit above n) a () b) (ha : FunctionsKnown a) :
    FunctionsKnown b :=
  visit_relates (R := fun a b => FunctionsKnown a → FunctionsKnown b) (fun _ h => h)
    (fun _ _ _ hab hbc h => hbc (hab h)) (fun _ above n h => h.entering above n)
    (fun _ n previous h => h.leaving n previous) h ha

/-! ### Visits come to an end -/

theorem enterReturn_runs (h : n.Sound) (hk : n.kind = .returnStmt) (ha : FunctionsKnown a) :
    ∃ b, Runs (enterReturn n) a () b := by
  simp only [enterReturn, runs_bind, runs_get, and_assoc, exists_eq_left, exists_and_left]
  cases hf : a.currentFunction with
  | none => exact ⟨a, runs_pure.mpr ⟨rfl, rfl⟩⟩
  | some f =>
    by_cases hempty : (!f.isEmpty) = true
    · obtain ⟨r, hr⟩ := Option.isSome_iff_exists.mp (isSome_definition? ha.valid (ha.current f hf))
      have hvalue := h.isSome_part hk (l := .value) (p := .optional) (by decide)
      simp only [if_pos hempty]
      refine ⟨a.addReturn f !((Value.node n).part .value).isNone, runs_bind.mpr ⟨_, a,
        runs_attr.mpr ⟨hvalue, rfl, rfl⟩, runs_bind.mpr ⟨a, a, runs_get.mpr ⟨rfl, rfl⟩, ?_⟩⟩⟩
      rw [hr]
      exact runs_modify.mpr rfl
    · simp only [if_neg hempty]
      exact ⟨a, runs_pure.mpr ⟨rfl, rfl⟩⟩

theorem enter_runs (h : n.Sound) (hlinks : ∀ link ∈ above, link.node.Sound)
    (habove : n.kind = .program ∨ above ≠ []) (ha : FunctionsKnown a) :
    ∃ b, Runs (enter above n) a () b := by
  by_cases hk : n.kind = .returnStmt
  · simp only [enter, hk]
    exact enterReturn_runs h hk ha
  · obtain ⟨x, b, hb⟩ := enter_safe h hk hlinks habove a
    exact ⟨b, hb⟩

theorem closeScope_runs (h : a.scopes ≠ []) (previous : ScopeRef) :
    Runs (closeScope previous) a () ((Effect.closeScope previous).apply a) := by
  refine runs_bind.mpr ⟨a, a, runs_get.mpr ⟨rfl, rfl⟩, ?_⟩
  rw [if_neg (by simpa using h)]
  exact runs_modify.mpr rfl

theorem checkReturns_runs (h : n.Sound) (hk : n.kind = .functionDef)
    (hknown : (a.definition? n.title).isSome = true) : ∃ b, Runs (checkReturns n) a () b := by
  have hline := h.line (by rw [hk]; rfl) (c := .statement) rfl
  obtain ⟨x, d, hname⟩ := safe_textAttr h hk (l := .name) (by decide) rfl a
  obtain ⟨rfl, rfl⟩ := (reads_textAttr _ _).run hname
  obtain ⟨r, hr⟩ := Option.isSome_iff_exists.mp hknown
  obtain ⟨y, b, hb⟩ := safe_reportIf (r.returns.any id && !r.returns.all id)
    (.mixedReturns n.title) hline d
  refine ⟨b, runs_bind.mpr ⟨_, d, hname, runs_bind.mpr ⟨d, d, runs_get.mpr ⟨rfl, rfl⟩, ?_⟩⟩⟩
  rw [show (Value.node n).textAt .name = n.title from rfl, hr]
  exact hb

structure CanLeave (n : Node) (a : Analysis) : Prop where
  scope : opensScope n.kind = true → a.scopes ≠ []
  valid : ValidFunctions a
  known : n.kind = .functionDef → a.functions.has n.title = true

theorem leave_runs (h : n.Sound) (ha : CanLeave n a) (previous : ScopeRef) :
    ∃ b, Runs (leave n previous) a () b := by
  have hclosed := fun hopens => closeScope_runs (ha.scope hopens) previous
  unfold leave
  cases hk : n.kind with
  | program => exact ⟨_, runs_modify.mpr rfl⟩
  | classDef => exact ⟨_, hclosed (by rw [hk]; rfl)⟩
  | functionDef =>
    have hdefinition : (((Effect.closeScope previous).apply a).definition? n.title).isSome = true :=
      isSome_definition? ha.valid (ha.known hk)
    obtain ⟨b, hb⟩ := checkReturns_runs h hk hdefinition
    exact ⟨_, runs_seq.mpr ⟨_, hclosed (by rw [hk]; rfl),
      runs_seq.mpr ⟨b, hb, runs_modify.mpr rfl⟩⟩⟩
  | forLoop => exact ⟨_, runs_seq.mpr ⟨_, hclosed (by rw [hk]; rfl), runs_modify.mpr rfl⟩⟩
  | whileLoop => exact ⟨_, runs_seq.mpr ⟨_, hclosed (by rw [hk]; rfl), runs_modify.mpr rfl⟩⟩
  | _ => exact ⟨a, runs_pure.mpr ⟨rfl, rfl⟩⟩

theorem scopes_entering (a : Analysis) (above : List Link) (hk : opensScope n.kind = true) :
    (a.after (entering above n)).scopes ≠ [] := by
  rw [← (entering_agrees a above n).scopes]
  have hpushed : ∀ (c : Analysis) (es : List Effect), (∀ e ∈ es, e.isLevel = true) →
      ((Effect.openScope.apply c).after es).scopes ≠ [] := by
    intro c es hes hempty
    have hheight := (Disciplined.after (Effect.openScope.apply c) hes).height
    rw [hempty] at hheight
    simp [Effect.apply, Analysis.push] at hheight
  unfold principal
  cases hkind : n.kind with
  | classDef =>
    exact hpushed ((Effect.addClass n.title).apply (a.bind n.title .classDef)) [] (by simp)
  | functionDef => exact hpushed _ _ (List.forall_mem_map.mpr fun _ _ => rfl)
  | forLoop => exact hpushed (Effect.enterLoop.apply a) _ (List.forall_mem_map.mpr fun _ _ => rfl)
  | whileLoop => exact hpushed (Effect.enterLoop.apply a) [] (by simp)
  | _ =>
    rw [hkind] at hk
    cases hk

/-- After its branches a node can be left: they keep the height of the stack, so the scope that was
opened is still there. -/
theorem canLeave_of_visitsAll {m m' : Analysis} (ha : FunctionsKnown a)
    (hm : Runs (enter above n) a () m) (hm' : VisitsAll (⟨n, none⟩ :: above) n.branches m m') :
    CanLeave n m' := by
  obtain rfl := (enter_performs above n).run hm
  have hheight := (Disciplined.chain (hm'.mono fun c _ a b hc => visit_disciplined hc)).height
  have hretains : Retains (a.after (entering above n)) m' :=
    (hm'.mono fun c _ a b hc => visit_retains hc).relates Retains.refl fun _ _ _ => Retains.trans
  refine ⟨fun hk hempty => ?_, hretains.valid (ha.entering above n).valid,
    fun hk => hretains.functions _ (has_title_entering a above hk)⟩
  rw [hempty] at hheight
  exact scopes_entering a above hk (List.length_eq_zero_iff.mp hheight.symm)

theorem visitsAll_runs {cs : List Node} (ha : FunctionsKnown a)
    (hcs : ∀ c ∈ cs, ∀ a, FunctionsKnown a → ∃ b, Runs (visit above c) a () b) :
    ∃ b, VisitsAll above cs a b := by
  induction cs generalizing a with
  | nil => exact ⟨a, rfl⟩
  | cons c cs ih =>
    obtain ⟨m, hm⟩ := hcs c List.mem_cons_self a ha
    obtain ⟨b, hb⟩ := ih (ha.visit hm) fun d hd => hcs d (List.mem_cons_of_mem c hd)
    exact ⟨b, m, hm, hb⟩

theorem visit_runs (h : n.Sound) (hlinks : ∀ link ∈ above, link.node.Sound)
    (habove : n.kind = .program ∨ above ≠ []) (ha : FunctionsKnown a) :
    ∃ b, Runs (visit above n) a () b := by
  induction n using branch_induction generalizing above a with
  | step n ih =>
    obtain ⟨m, hm⟩ := enter_runs h hlinks habove ha
    have hentered := (enter_performs above n).run hm
    have hknown : FunctionsKnown m := hentered ▸ ha.entering above n
    have hbelow : ∀ link ∈ ⟨n, none⟩ :: above, link.node.Sound := by
      intro link hlink
      rcases List.mem_cons.mp hlink with rfl | hlink
      · exact h
      · exact hlinks link hlink
    obtain ⟨m', hm'⟩ := visitsAll_runs hknown fun c hc a ha =>
      ih c hc (h.child (branches_subset hc)) hbelow (.inr (List.cons_ne_nil _ _)) ha
    obtain ⟨b, hb⟩ := leave_runs h (canLeave_of_visitsAll ha hm hm') a.current
    exact ⟨b, (runs_visit n).mpr ⟨m, m', hm, hm', hb⟩⟩

theorem FunctionsKnown.fresh : FunctionsKnown {} where
  valid _ he := by cases he
  current _ hf := by cases hf

theorem analysis_eq (h : n.WellFormed) :
    ∃ b, Runs (visit [] n) {} () b ∧ analysis n = .ok b.reportUnused := by
  obtain ⟨hk, hsound⟩ := h
  have hnone : ∀ link ∈ ([] : List Link), link.node.Sound := by simp
  obtain ⟨b, hb⟩ := visit_runs hsound hnone (.inl hk) .fresh
  have hinspect : (inspect n).apply {} = (.ok (), b.reportUnused) :=
    runs_seq.mpr ⟨b, hb, runs_modify.mpr rfl⟩
  exact ⟨b, hb, by rw [analysis, hinspect]⟩

end CodeLint.Lint
