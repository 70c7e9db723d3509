import CodeLint.Proofs.Ordered
import CodeLint.Proofs.Principal

/-!
How a visit treats the scopes. Whatever a traversal opens it closes again: a visit gives the stack
of scopes back at its old height, with the same scope current and the loops counted as before. It
writes to the scope that was current and to the scope of the module only, and neither loses a name.
-/

namespace CodeLint.Lint

open CodeLint.Tree

/-- What a traversal may do to the scopes, the loops and the current function between two points at
which the same scopes and loops are open. `modules` and `functions` say whether it has met a module
and a function definition on its way. -/
structure Disciplined (modules functions : Prop) (a b : Analysis) : Prop where
  height : b.scopes.length = a.scopes.length
  current : b.current = a.current ∨ modules ∧ b.current = .global
  loopDepth : b.loopDepth = a.loopDepth
  others : ∀ i, a.current ≠ .level i → b.scopes[i]? = a.scopes[i]?
  scopes : ∀ i x, (a.scopes.getD i []).has x = true → (b.scopes.getD i []).has x = true
  globalScope : ∀ x, a.globalScope.has x = true → b.globalScope.has x = true
  entered : functions → b.currentFunction = none
  outside : ¬ functions → b.currentFunction = a.currentFunction

namespace Disciplined

variable {M M' F F' : Prop} {a b c : Analysis}

theorem of_agrees (h : Agrees a b) : Disciplined False False a b where
  height := by rw [h.scopes]
  current := .inl h.current.symm
  loopDepth := h.loopDepth.symm
  others _ _ := by rw [h.scopes]
  scopes _ _ hx := by rwa [← h.scopes]
  globalScope _ hx := by rwa [← h.globalScope]
  entered := False.elim
  outside _ := h.currentFunction.symm

theorem refl (a : Analysis) : Disciplined False False a a := of_agrees (Agrees.refl a)

theorem imp (h : Disciplined M F a b) (hM : M → M') (hF : F ↔ F') : Disciplined M' F' a b :=
  { h with
    current := h.current.imp_right fun hc => ⟨hM hc.1, hc.2⟩
    entered := fun hf => h.entered (hF.mpr hf)
    outside := fun hf => h.outside fun hf' => hf (hF.mp hf') }

theorem trans (h : Disciplined M F a b) (h' : Disciplined M' F' b c) :
    Disciplined (M ∨ M') (F ∨ F') a c where
  height := h'.height.trans h.height
  current := by
    rcases h'.current with hc | ⟨hM, hc⟩
    · rw [hc]
      exact h.current.imp_right fun hb => ⟨.inl hb.1, hb.2⟩
    · exact .inr ⟨.inr hM, hc⟩
  loopDepth := h'.loopDepth.trans h.loopDepth
  others i hi := by
    -- A module may have made its own scope current, but never one of the stack.
    have hb : b.current ≠ .level i := by
      rcases h.current with hb | ⟨-, hb⟩
      · rwa [hb]
      · rw [hb]
        exact ScopeRef.noConfusion
    rw [h'.others i hb, h.others i hi]
  scopes i x hx := h'.scopes i x (h.scopes i x hx)
  globalScope x hx := h'.globalScope x (h.globalScope x hx)
  entered hf := by
    by_cases hF' : F'
    · exact h'.entered hF'
    · rw [h'.outside hF', h.entered (hf.resolve_right hF')]
  outside hf := by
    rw [h'.outside fun hF' => hf (.inr hF'), h.outside fun hF => hf (.inl hF)]

/-! ### Effects that leave the stack, the loops and the current function alone -/

theorem bind (a : Analysis) (x : String) (k : Binding) :
    Disciplined False False a (a.bind x k) := by
  cases hc : a.current with
  | global =>
    simp only [Analysis.bind, hc]
    exact { refl a with
      current := .inl hc.symm
      globalScope := fun y hy => Ordered.has_put.mpr (.inr hy) }
  | level i =>
    simp only [Analysis.bind, hc]
    refine { refl a with
      height := List.length_modify ..
      current := .inl hc.symm
      others := fun j hj => ?_
      scopes := fun j y hy => ?_ }
    · have hij : i ≠ j := fun hij => hj (by rw [hc, hij])
      simp only [List.getElem?_modify, if_neg hij, id_map']
    · rw [List.getD_eq_getElem?_getD] at hy ⊢
      rw [List.getElem?_modify]
      cases ha : a.scopes[j]? with
      | none => simp [ha, Ordered.has] at hy
      | some s =>
        rw [ha, Option.getD_some] at hy
        by_cases hij : i = j
        · simp only [if_pos hij]
          exact Ordered.has_put.mpr (.inr hy)
        · simp only [if_neg hij]
          exact hy

end Disciplined

def Effect.isLevel : Effect → Bool
  | useModuleScope | openScope | closeScope _ | setFunction _ | enterLoop | leaveLoop => false
  | _ => true

namespace Disciplined

variable {M M' F F' : Prop} {a b c : Analysis}

theorem apply (a : Analysis) {e : Effect} (he : e.isLevel = true) :
    Disciplined False False a (e.apply a) := by
  have hreport : ∀ f line, Disciplined False False a (a.report f line) :=
    fun f line => { refl a with }
  cases hp : e.isPrincipal with
  | false => exact of_agrees (Agrees.of_not_principal a hp)
  | true =>
    cases e with
    | report f line => exact hreport f line
    | addImport x line => exact { refl a with }
    | bind x k => exact bind a x k
    | addClass x => exact { refl a with }
    | checkDefined x line =>
      simp only [Effect.apply]
      split
      · exact refl a
      · exact hreport _ line
    | markUsed x =>
      simp only [Effect.apply, Analysis.markUsed]
      split
      · exact { refl a with }
      · exact refl a
    | store x =>
      simp only [Effect.apply]
      split
      · exact refl a
      · exact bind a x .assigned
    | declareGlobal x =>
      exact { refl a with globalScope := fun y hy => Ordered.has_put.mpr (.inr hy) }
    | reportUnusedImports => exact { refl a with }
    | useModuleScope | openScope | closeScope | setFunction | enterLoop | leaveLoop => cases he
    | _ => cases hp

theorem after (a : Analysis) {es : List Effect} (hes : ∀ e ∈ es, e.isLevel = true) :
    Disciplined False False a (a.after es) := by
  induction es generalizing a with
  | nil => exact refl a
  | cons e es ih =>
    have hfirst := apply a (hes e List.mem_cons_self)
    have hrest := ih (e.apply a) fun e' he' => hes e' (List.mem_cons_of_mem e he')
    exact (hfirst.trans hrest).imp (or_self False).mp (by simp only [or_self])

/-! ### What is opened is closed -/

theorem scope (h : Disciplined M F (a.push []) b) :
    Disciplined False F a ((Effect.closeScope a.current).apply b) := by
  have hbelow : ∀ i : Nat, b.scopes.dropLast[i]? = a.scopes[i]? := by
    intro i
    have hheight : b.scopes.length = a.scopes.length + 1 := by
      rw [h.height]
      exact List.length_append
    rw [List.getElem?_dropLast, hheight, Nat.add_sub_cancel]
    split
    · next hi =>
      -- The scope that was pushed is current, so everything below it is among the others.
      have hother := h.others i fun hc => Nat.ne_of_gt hi (ScopeRef.level.inj hc)
      rw [hother]
      exact List.getElem?_append_left hi
    · next hi => exact (List.getElem?_eq_none (Nat.le_of_not_lt hi)).symm
  have hscopes : b.scopes.dropLast = a.scopes := List.ext_getElem? hbelow
  exact
    { height := congrArg List.length hscopes
      current := .inl rfl
      loopDepth := h.loopDepth
      others := fun i _ => hbelow i
      scopes := fun i x hx => by rwa [← hscopes] at hx
      globalScope := h.globalScope
      entered := h.entered
      outside := h.outside }

theorem loop (h : Disciplined M F (Effect.enterLoop.apply a) b) :
    Disciplined M F a (Effect.leaveLoop.apply b) := by
  have hdepth : b.loopDepth - 1 = a.loopDepth := by
    rw [h.loopDepth]
    exact Nat.add_sub_cancel a.loopDepth 1
  exact { h with loopDepth := hdepth }

theorem function {f : Option String} (h : Disciplined M F ((Effect.setFunction f).apply a) b) :
    Disciplined M True a ((Effect.setFunction none).apply b) :=
  { h with
    entered := fun _ => rfl
    outside := fun hf => (hf trivial).elim }

end Disciplined

theorem isLevel_of_mem_principal {n : Node} (hprogram : n.kind ≠ .program)
    (hscope : opensScope n.kind = false) : ∀ e ∈ principal n, e.isLevel = true := by
  intro e he
  have hpossible := possibleAt_of_mem_principal e he
  cases e with
  | useModuleScope => exact (hprogram hpossible).elim
  | openScope | enterLoop | setFunction =>
    rw [show opensScope n.kind = true from hpossible] at hscope
    cases hscope
  | closeScope | leaveLoop => exact hpossible.elim
  | _ => rfl

theorem principalLeave_eq_nil {n : Node} (hprogram : n.kind ≠ .program)
    (hscope : opensScope n.kind = false) (previous : ScopeRef) :
    principalLeave n previous = [] := by
  unfold principalLeave
  cases hk : n.kind with
  | program => exact (hprogram hk).elim
  | classDef | functionDef | forLoop | whileLoop =>
    rw [hk] at hscope
    cases hscope
  | _ => rfl

namespace Disciplined

variable {M M' F F' : Prop} {a b c : Analysis}

theorem after_then {es : List Effect} (hes : ∀ e ∈ es, e.isLevel = true)
    (h : Disciplined M F (a.after es) b) : Disciplined M F a b :=
  ((after a hes).trans h).imp (fun hM => hM.resolve_left id) (by simp only [false_or])

theorem current_eq (h : Disciplined False F a b) : b.current = a.current :=
  h.current.resolve_right And.left

theorem ofModule (h : Disciplined M F (Effect.useModuleScope.apply a) b) :
    Disciplined True F a (Effect.reportUnusedImports.apply b) where
  height := h.height
  current := by
    rcases h.current with hb | ⟨-, hb⟩
    · exact .inr ⟨trivial, hb⟩
    · exact .inr ⟨trivial, hb⟩
  loopDepth := h.loopDepth
  others i _ := h.others i ScopeRef.noConfusion
  scopes := h.scopes
  globalScope := h.globalScope
  entered := h.entered
  outside := h.outside

theorem ofClass (es : List Effect) (hes : ∀ e ∈ es, e.isLevel = true)
    (h : Disciplined M F ((a.after es).push []) b) :
    Disciplined False F a ((Effect.closeScope a.current).apply b) := by
  have hbefore := after a hes
  have hinside := h.scope
  rw [hbefore.current_eq] at hinside
  exact after_then hes hinside

theorem ofFunction {f : Option String} (es : List Effect) (hes : ∀ e ∈ es, e.isLevel = true)
    (h : Disciplined M F ((((Effect.setFunction f).apply a).push []).after es) b) :
    Disciplined False True a
      ((Effect.setFunction none).apply ((Effect.closeScope a.current).apply b)) :=
  (after_then hes h).scope.function

theorem ofLoop (es : List Effect) (hes : ∀ e ∈ es, e.isLevel = true)
    (h : Disciplined M F (((Effect.enterLoop.apply a).push []).after es) b) :
    Disciplined False F a (Effect.leaveLoop.apply ((Effect.closeScope a.current).apply b)) :=
  (after_then hes h).scope.loop

theorem node (n : Node) (h : Disciplined M F (a.after (principal n)) b) :
    Disciplined (n.kind = .program ∨ M) (n.kind = .functionDef ∨ F) a
      (b.after (principalLeave n a.current)) := by
  by_cases hprogram : n.kind = .program
  · simp only [principal, hprogram] at h
    simp only [principalLeave, hprogram]
    exact h.ofModule.imp (fun _ => .inl trivial) (by simp)
  cases hscope : opensScope n.kind with
  | false =>
    have hfunction : n.kind ≠ .functionDef := by
      intro hk
      rw [hk] at hscope
      cases hscope
    rw [principalLeave_eq_nil hprogram hscope]
    exact (after_then (isLevel_of_mem_principal hprogram hscope) h).imp .inr (by simp [hfunction])
  | true =>
    unfold principal at h
    unfold principalLeave
    cases hk : n.kind with
    | classDef =>
      simp only [hk] at h
      exact (ofClass [.bind n.title .classDef, .addClass n.title] (by simp [Effect.isLevel])
        h).imp False.elim (by simp)
    | functionDef =>
      simp only [hk] at h
      exact (ofFunction _ (List.forall_mem_map.mpr fun _ _ => rfl) h).imp False.elim (by simp)
    | forLoop =>
      simp only [hk] at h
      exact (ofLoop _ (List.forall_mem_map.mpr fun _ _ => rfl) h).imp False.elim (by simp)
    | whileLoop =>
      simp only [hk] at h
      exact (ofLoop [] (by simp) h).imp False.elim (by simp)
    | _ =>
      rw [hk] at hscope
      cases hscope

theorem chain {P Q : Node → Prop} {cs : List Node}
    (h : Chain (fun c => Disciplined (P c) (Q c)) cs a b) :
    Disciplined (∃ c ∈ cs, P c) (∃ c ∈ cs, Q c) a b := by
  induction cs generalizing a with
  | nil =>
    rw [show b = a from h]
    exact (refl a).imp False.elim (by simp)
  | cons c cs ih =>
    obtain ⟨m, hc, hcs⟩ := h
    exact (hc.trans (ih hcs)).imp (by simp) (by simp)

end Disciplined

theorem visit_disciplined {above : List Link} {n : Node} {a b : Analysis}
    (h : Runs (visit above n) a () b) :
    Disciplined (n.Reaches .program) (n.Reaches .functionDef) a b := by
  refine visit_induction (P := fun _ n a b =>
    Disciplined (n.Reaches .program) (n.Reaches .functionDef) a b) ?_ h
  intro above n a m hbranches
  have hentered := Disciplined.of_agrees (entering_agrees a above n)
  have hleft := Disciplined.of_agrees (leaving_agrees m n a.current)
  have hinside := hentered.trans (Disciplined.chain hbranches)
  refine ((hinside.node n).trans hleft).imp ?_ ?_
  · simp only [false_or, or_false]
    exact reaches_iff.mpr
  · simp only [false_or, or_false]
    exact reaches_iff.symm

/-- A visit of a tree without modules gives everything back as it was, except that names may have
been added to the current scope and to the module's, and that no function is current after a
function definition. A module visited by a new analysis leaves the stack with its one empty scope,
whatever the module holds. In a plain tree what is reached is what the tree contains. -/
theorem visit_restores_scopes {above : List Link} {n : Node} {a b : Analysis}
    (h : Runs (visit above n) a () b) :
    (¬ n.Reaches .program →
      b.scopes.length = a.scopes.length ∧ b.current = a.current ∧ b.loopDepth = a.loopDepth ∧
      (∀ i, a.current ≠ .level i → b.scopes[i]? = a.scopes[i]?) ∧
      (∀ x, a.currentScope.has x = true → b.currentScope.has x = true) ∧
      (∀ x, a.globalScope.has x = true → b.globalScope.has x = true) ∧
      b.currentFunction = if n.Reaches .functionDef then none else a.currentFunction) ∧
    (n.kind = .program → a = {} →
      b.scopes = [[]] ∧ b.loopDepth = 0 ∧ b.currentFunction = none ∧ b.current = .global) ∧
    (n.Plain → ∀ k, n.Reaches k ↔ n.contains k = true) := by
  have hvisit := visit_disciplined h
  refine ⟨fun hmodules => ?_, fun _ hfresh => ?_, reaches_iff_contains⟩
  · have hcurrent : b.current = a.current := hvisit.current.resolve_right fun hc => hmodules hc.1
    refine ⟨hvisit.height, hcurrent, hvisit.loopDepth, hvisit.others, fun x hx => ?_,
      hvisit.globalScope, ?_⟩
    · unfold Analysis.currentScope at hx ⊢
      rw [hcurrent]
      cases hc : a.current with
      | global =>
        rw [hc] at hx
        exact hvisit.globalScope x hx
      | level i =>
        rw [hc] at hx
        exact hvisit.scopes i x hx
    · split
      · next hf => exact hvisit.entered hf
      · next hf => exact hvisit.outside hf
  · subst hfresh
    have hscopes : b.scopes = [[]] :=
      List.ext_getElem? fun i => hvisit.others i ScopeRef.noConfusion
    have hfunction : b.currentFunction = none := by
      by_cases hf : n.Reaches .functionDef
      · exact hvisit.entered hf
      · exact hvisit.outside hf
    have hcurrent : b.current = .global := by
      rcases hvisit.current with hc | ⟨-, hc⟩
      · exact hc
      · exact hc
    exact ⟨hscopes, hvisit.loopDepth, hfunction, hcurrent⟩

def loopInFunction : Node := treeOf "def f(a):\n    for i in a:\n        x = i\n"

def atWork : Analysis :=
  { scopes := [[], [("b", .param)], [("j", .assigned)]]
    current := .level 2
    loopDepth := 1
    currentFunction := some "g" }

theorem visit_restores_scopes_loopInFunction :
    (∃ n ∈ loopInFunction.children, ((visit [] n).apply atWork).1.isOk = true ∧
      n.Reaches .functionDef ∧ ¬ n.Reaches .program ∧
      ((visit [] n).apply atWork).2.scopes.length = 3 ∧
      ((visit [] n).apply atWork).2.current = .level 2 ∧
      ((visit [] n).apply atWork).2.currentFunction = none) ∧
    loopInFunction.kind = .program ∧
    ((visit [] loopInFunction).apply {}).2.scopes = [[]] := by
  have hruns : (∃ n ∈ loopInFunction.children, ((visit [] n).apply atWork).1.isOk = true ∧
      n.Reaches .functionDef ∧ ¬ n.Reaches .program) ∧ loopInFunction.kind = .program ∧
      ((visit [] loopInFunction).apply {}).1.isOk = true := by
    decide +kernel
  obtain ⟨⟨n, hn, hok, hf, hp⟩, hkind, hfresh⟩ := hruns
  have hrestored := (visit_restores_scopes (runs_of_isOk hok)).1 hp
  rw [if_pos hf] at hrestored
  obtain ⟨hheight, hcurrent, -, -, -, -, hfunction⟩ := hrestored
  exact ⟨⟨n, hn, hok, hf, hp, hheight, hcurrent, hfunction⟩, hkind,
    ((visit_restores_scopes (runs_of_isOk hfresh)).2.1 hkind rfl).1⟩

end CodeLint.Lint
