import CodeLint.Proofs.Ordered
import CodeLint.Proofs.Principal

/-!
Which names are visible where. Imports, classes and global statements bind names for good. All other
bindings are written to a scope, that of the module or that of a definition or loop, and are visible
only while this scope is open. `Tracks` says that an analysis knows the names bound so far, and a
traversal maintains it, so a name is reported as undefined exactly where no binding of it is
visible.
-/

namespace CodeLint.Tree

def Node.lastingNames (n : Node) : List String :=
  match n.kind with
  | .importStmt | .importFrom => n.importedNames
  | .classDef => [n.title]
  | .globalStmt => n.declaredNames
  | _ => []

end CodeLint.Tree

namespace CodeLint.Lint

open CodeLint.Tree

abbrev Write := String × Option (List Nat)

def openScopes (spots : List Spot) : List (List Nat) :=
  (spots.filter fun s => opensScope s.node.kind).map (·.position)

theorem openScopes_of_opens {s : Spot} (hs : opensScope s.node.kind = true) (spots : List Spot) :
    openScopes (s :: spots) = s.position :: openScopes spots := by
  simp [openScopes, hs]

theorem openScopes_of_not_opens {s : Spot} (hs : opensScope s.node.kind = false)
    (spots : List Spot) : openScopes (s :: spots) = openScopes spots := by
  simp [openScopes, hs]

namespace Occurrence

/-- The scope an occurrence stands in: the position of the node that has opened it, or none for the
scope of the module. -/
def scope (o : Occurrence) : Option (List Nat) := (openScopes o.above).head?

/-- The names that an occurrence writes to scopes, each with the scope. A function and a loop write
to their own. -/
def writes (o : Occurrence) : List Write :=
  match o.node.kind with
  | .functionDef => o.node.parameterNames.map (·, some o.position)
  | .forLoop => o.node.loopLeaves.map (·.ident, some o.position)
  | .assign => o.node.assignedLeaves.map (·.ident, o.scope)
  | .name => if o.node.isStore then [(o.node.ident, o.scope)] else []
  | _ => []

/-- Whether a name that is bound at an occurrence is visible at another one. -/
def Provides (o u : Occurrence) (x : String) : Prop :=
  x ∈ o.node.lastingNames ∨ (x, none) ∈ o.writes ∨
    ∃ q ∈ openScopes u.above, (x, some q) ∈ o.writes

instance (o u : Occurrence) (x : String) : Decidable (o.Provides u x) :=
  inferInstanceAs (Decidable (_ ∨ _ ∨ _))

/-- A use of a name, not of a built-in one, that nothing before it in the tree provides. -/
def Undefined (n : Node) (u : Occurrence) : Prop :=
  u.node.isLoad = true ∧ isBuiltIn u.node.ident = false ∧
    ∀ o ∈ n.occurrences, Precedes o.position u.position → ¬ o.Provides u u.node.ident

instance (n : Node) (u : Occurrence) : Decidable (u.Undefined n) :=
  inferInstanceAs (Decidable (_ ∧ _ ∧ _))

end Occurrence

/-! ### The names known to an analysis -/

/-- A scope has the names written to it, and apart from them only names that are bound for good. -/
def Holds (written : List Write) (lasting : List String)
    (w : Option (List Nat)) (s : Scope) : Prop :=
  ∀ x, ((x, w) ∈ written → s.has x = true) ∧ (s.has x = true → (x, w) ∈ written ∨ x ∈ lasting)

def Stacked (written : List Write) (lasting : List String) :
    List (List Nat) → List Scope → Prop
  | [], ss => ss = [[]]
  | q :: qs, ss => ∃ rest s, ss = rest ++ [s] ∧ Holds written lasting (some q) s ∧
      Stacked written lasting qs rest

def innermost (qs : List (List Nat)) : ScopeRef :=
  if qs.isEmpty then .global else .level qs.length

structure Tracks (written : List Write) (lasting : List String)
    (qs : List (List Nat)) (a : Analysis) : Prop where
  nodup : qs.Nodup
  stack : Stacked written lasting qs a.scopes
  current : a.current = innermost qs
  globalScope : Holds written lasting none a.globalScope
  classNames : ∀ x ∈ a.classNames, x ∈ lasting
  imports : ∀ x, a.isImported x = true → x ∈ lasting
  known : ∀ x ∈ lasting, x ∈ a.classNames ∨ a.isImported x = true ∨ a.globalScope.has x = true

section Scopes

variable {written more : List Write} {lasting : List String} {w : Option (List Nat)} {s : Scope}
  {x : String} {q : List Nat} {qs : List (List Nat)} {ss : List Scope}

theorem Holds.append (h : Holds written lasting w s) (hmore : ∀ v ∈ more, v.2 ≠ w) :
    Holds (written ++ more) lasting w s := by
  intro x
  refine ⟨fun hx => ?_, fun hx => ((h x).2 hx).imp_left (List.mem_append_left more)⟩
  rcases List.mem_append.mp hx with hx | hx
  · exact (h x).1 hx
  · exact (hmore _ hx rfl).elim

theorem Holds.append_lasting (h : Holds written lasting w s) (xs : List String) :
    Holds written (lasting ++ xs) w s :=
  fun x => ⟨(h x).1, fun hx => ((h x).2 hx).imp_right (List.mem_append_left xs)⟩

theorem Holds.write (h : Holds written lasting w s) (x : String) (k : Binding) :
    Holds (written ++ [(x, w)]) lasting w (s.put x k) := by
  intro y
  rw [Ordered.has_put, List.mem_append, List.mem_singleton, Prod.mk.injEq, and_iff_left rfl]
  constructor
  · rintro (hy | rfl)
    · exact .inr ((h y).1 hy)
    · exact .inl rfl
  · rintro (rfl | hy)
    · exact .inl (.inr rfl)
    · exact ((h y).2 hy).imp_left .inl

theorem Holds.of_has (h : Holds written lasting w s) (hx : s.has x = true) :
    Holds (written ++ [(x, w)]) lasting w s := by
  intro y
  rw [List.mem_append, List.mem_singleton, Prod.mk.injEq, and_iff_left rfl]
  refine ⟨?_, fun hy => ((h y).2 hy).imp_left .inl⟩
  rintro (hy | rfl)
  · exact (h y).1 hy
  · exact hx

theorem Holds.put_lasting (h : Holds written lasting w s) (hx : x ∈ lasting) (k : Binding) :
    Holds written lasting w (s.put x k) := by
  intro y
  rw [Ordered.has_put]
  refine ⟨fun hy => .inr ((h y).1 hy), ?_⟩
  rintro (rfl | hy)
  · exact .inr hx
  · exact (h y).2 hy

theorem Stacked.length (h : Stacked written lasting qs ss) : ss.length = qs.length + 1 := by
  induction qs generalizing ss with
  | nil => rw [show ss = [[]] from h]; rfl
  | cons q qs ih =>
    obtain ⟨rest, s, rfl, -, hrest⟩ := h
    rw [List.length_append, ih hrest]
    rfl

theorem Stacked.append (h : Stacked written lasting qs ss)
    (hmore : ∀ v ∈ more, ∀ q ∈ qs, v.2 ≠ some q) :
    Stacked (written ++ more) lasting qs ss := by
  induction qs generalizing ss with
  | nil => exact h
  | cons q qs ih =>
    obtain ⟨rest, s, hss, hs, hrest⟩ := h
    exact ⟨rest, s, hss, hs.append fun v hv => hmore v hv q List.mem_cons_self,
      ih hrest fun v hv q hq => hmore v hv q (List.mem_cons_of_mem _ hq)⟩

theorem Stacked.append_lasting (h : Stacked written lasting qs ss) (xs : List String) :
    Stacked written (lasting ++ xs) qs ss := by
  induction qs generalizing ss with
  | nil => exact h
  | cons q qs ih =>
    obtain ⟨rest, s, hss, hs, hrest⟩ := h
    exact ⟨rest, s, hss, hs.append_lasting xs, ih hrest⟩

theorem Stacked.modify (h : Stacked written lasting (q :: qs) ss) {f : Scope → Scope}
    (hf : ∀ s, Holds written lasting (some q) s → Holds (written ++ more) lasting (some q) (f s))
    (hmore : ∀ v ∈ more, ∀ q ∈ qs, v.2 ≠ some q) :
    Stacked (written ++ more) lasting (q :: qs) (ss.modify (qs.length + 1) f) := by
  obtain ⟨rest, s, rfl, hs, hrest⟩ := h
  refine ⟨rest, f s, ?_, hf s hs, hrest.append hmore⟩
  rw [← hrest.length]
  simp [List.modify_eq_take_drop]

theorem Stacked.any_has (h : Stacked written lasting qs ss) :
    ((∃ q ∈ qs, (x, some q) ∈ written) → ss.any (·.has x) = true) ∧
      (ss.any (·.has x) = true → (∃ q ∈ qs, (x, some q) ∈ written) ∨ x ∈ lasting) := by
  induction qs generalizing ss with
  | nil =>
    rw [show ss = [[]] from h]
    simp [Ordered.has]
  | cons q qs ih =>
    obtain ⟨rest, s, rfl, hs, hrest⟩ := h
    obtain ⟨hto, hfrom⟩ := ih hrest
    rw [List.any_append, Bool.or_eq_true, List.any_cons, List.any_nil, Bool.or_false]
    constructor
    · rintro ⟨q', hq', hx⟩
      rcases List.mem_cons.mp hq' with rfl | hq'
      · exact .inr ((hs x).1 hx)
      · exact .inl (hto ⟨q', hq', hx⟩)
    · rintro (hx | hx)
      · rcases hfrom hx with ⟨q', hq', hx⟩ | hx
        · exact .inl ⟨q', List.mem_cons_of_mem q hq', hx⟩
        · exact .inr hx
      · exact ((hs x).2 hx).imp_left fun hx => ⟨q, List.mem_cons_self, hx⟩

end Scopes

namespace Tracks

variable {written more : List Write} {lasting : List String} {qs : List (List Nat)} {q : List Nat}
  {a b : Analysis} {x : String}

theorem of_agrees (h : Tracks written lasting qs a) (hab : Agrees a b) :
    Tracks written lasting qs b where
  nodup := h.nodup
  stack := hab.scopes ▸ h.stack
  current := hab.current ▸ h.current
  globalScope := hab.globalScope ▸ h.globalScope
  classNames := hab.classNames ▸ h.classNames
  imports x hx := h.imports x (by rwa [hab.isImported])
  known x hx := by
    rw [← hab.classNames, ← hab.isImported, ← hab.globalScope]
    exact h.known x hx

theorem fresh : Tracks [] [] [] {} where
  nodup := List.nodup_nil
  stack := rfl
  current := rfl
  globalScope x := by simp [Ordered.has]
  classNames x hx := hx
  imports x hx := by cases hx
  known x hx := by cases hx

theorem isDefined_iff (h : Tracks written lasting qs a) :
    a.isDefined x = true ↔ isBuiltIn x = true ∨ x ∈ lasting ∨ (x, none) ∈ written ∨
      ∃ q ∈ qs, (x, some q) ∈ written := by
  unfold Analysis.isDefined
  simp only [Bool.or_eq_true, List.contains_iff_mem]
  obtain ⟨hto, hfrom⟩ := h.stack.any_has
  constructor
  · rintro ((((hx | hx) | hx) | hx) | hx)
    · rcases hfrom hx with hx | hx
      · exact .inr (.inr (.inr hx))
      · exact .inr (.inl hx)
    · rcases (h.globalScope x).2 hx with hx | hx
      · exact .inr (.inr (.inl hx))
      · exact .inr (.inl hx)
    · exact .inr (.inl (h.classNames x hx))
    · exact .inr (.inl (h.imports x hx))
    · exact .inl hx
  · rintro (hx | hx | hx | hx)
    · exact .inr hx
    · rcases h.known x hx with hx | hx | hx
      · exact .inl (.inl (.inr hx))
      · exact .inl (.inr hx)
      · exact .inl (.inl (.inl (.inr hx)))
    · exact .inl (.inl (.inl (.inr ((h.globalScope x).1 hx))))
    · exact .inl (.inl (.inl (.inl (hto hx))))

theorem bind (h : Tracks written lasting qs a) {k : Binding}
    (hput : ∀ s, Holds written lasting qs.head? s →
      Holds (written ++ more) lasting qs.head? (s.put x k))
    (hmore : ∀ v ∈ more, v.2 = qs.head?) : Tracks (written ++ more) lasting qs (a.bind x k) := by
  cases qs with
  | nil =>
    have hcurrent : a.current = .global := h.current
    simp only [Analysis.bind, hcurrent]
    exact
      { nodup := h.nodup
        stack := h.stack
        current := rfl
        globalScope := hput _ h.globalScope
        classNames := h.classNames
        imports := h.imports
        known := fun y hy => (h.known y hy).imp_right fun hy =>
          hy.imp_right fun hy => Ordered.has_put.mpr (.inr hy) }
  | cons q qs =>
    have hcurrent : a.current = .level (qs.length + 1) := h.current
    simp only [Analysis.bind, hcurrent]
    have hq : q ∉ qs := (List.nodup_cons.mp h.nodup).1
    have helsewhere : ∀ v ∈ more, ∀ q' ∈ qs, v.2 ≠ some q' := by
      intro v hv q' hq' hvq
      rw [hmore v hv] at hvq
      exact hq (Option.some.inj hvq ▸ hq')
    exact
      { nodup := h.nodup
        stack := h.stack.modify hput helsewhere
        current := rfl
        globalScope := h.globalScope.append fun v hv => by simp [hmore v hv]
        classNames := h.classNames
        imports := h.imports
        known := h.known }

theorem write (h : Tracks written lasting qs a) (x : String) (k : Binding) :
    Tracks (written ++ [(x, qs.head?)]) lasting qs (a.bind x k) :=
  h.bind (fun _ hs => hs.write x k) (by simp)

theorem bind_lasting (h : Tracks written lasting qs a) (hx : x ∈ lasting) (k : Binding) :
    Tracks written lasting qs (a.bind x k) := by
  have hbind : Tracks (written ++ []) lasting qs (a.bind x k) :=
    h.bind (fun s hs => (hs.put_lasting hx k).append (by simp)) (by simp)
  rwa [List.append_nil] at hbind

theorem of_has (h : Tracks written lasting qs a) (hx : a.currentScope.has x = true) :
    Tracks (written ++ [(x, qs.head?)]) lasting qs a := by
  cases qs with
  | nil =>
    have hcurrent : a.current = .global := h.current
    simp only [Analysis.currentScope, hcurrent] at hx
    exact { h with globalScope := h.globalScope.of_has hx }
  | cons q qs =>
    have hcurrent : a.current = .level (qs.length + 1) := h.current
    have hq : q ∉ qs := (List.nodup_cons.mp h.nodup).1
    obtain ⟨rest, s, hss, hs, hrest⟩ := h.stack
    simp only [Analysis.currentScope, hcurrent, hss, ← hrest.length, List.getD_eq_getElem?_getD,
      List.getElem?_concat_length, Option.getD_some] at hx
    refine { h with
      stack := ⟨rest, s, hss, hs.of_has hx, hrest.append fun v hv q' hq' hvq => ?_⟩
      globalScope := h.globalScope.append (by simp) }
    rw [List.mem_singleton.mp hv] at hvq
    exact hq (Option.some.inj hvq ▸ hq')

theorem store (h : Tracks written lasting qs a) (x : String) :
    Tracks (written ++ [(x, qs.head?)]) lasting qs ((Effect.store x).apply a) := by
  simp only [Effect.apply]
  split
  · next hx => exact h.of_has hx
  · exact h.write x .assigned

theorem addClass (h : Tracks written lasting qs a) (x : String) :
    Tracks written (lasting ++ [x]) qs ((Effect.addClass x).apply a) where
  nodup := h.nodup
  stack := h.stack.append_lasting [x]
  current := h.current
  globalScope := h.globalScope.append_lasting [x]
  classNames y hy := by
    rcases mem_insertNew.mp hy with rfl | hy
    · exact List.mem_append_right _ List.mem_cons_self
    · exact List.mem_append_left _ (h.classNames y hy)
  imports y hy := List.mem_append_left _ (h.imports y hy)
  known y hy := by
    rcases List.mem_append.mp hy with hy | hy
    · exact (h.known y hy).imp_left fun hy => mem_insertNew.mpr (.inr hy)
    · exact .inl (mem_insertNew.mpr (.inl (List.mem_singleton.mp hy)))

theorem isImported_addImport {line : Line} {y : String} :
    ((Effect.addImport x line).apply a).isImported y = true ↔ y = x ∨ a.isImported y = true := by
  simp only [Effect.apply, Analysis.isImported, List.any_eq_true, beq_iff_eq]
  constructor
  · rintro ⟨e, he, rfl⟩
    rcases mem_insertNew.mp he with rfl | he
    · exact .inl rfl
    · exact .inr ⟨e, he, rfl⟩
  · rintro (rfl | ⟨e, he, rfl⟩)
    · exact ⟨(y, line), mem_insertNew.mpr (.inl rfl), rfl⟩
    · exact ⟨e, mem_insertNew.mpr (.inr he), rfl⟩

theorem addImport (h : Tracks written lasting qs a) (x : String) (line : Line) :
    Tracks written (lasting ++ [x]) qs ((Effect.addImport x line).apply a) where
  nodup := h.nodup
  stack := h.stack.append_lasting [x]
  current := h.current
  globalScope := h.globalScope.append_lasting [x]
  classNames y hy := List.mem_append_left _ (h.classNames y hy)
  imports y hy := by
    rcases isImported_addImport.mp hy with rfl | hy
    · exact List.mem_append_right _ List.mem_cons_self
    · exact List.mem_append_left _ (h.imports y hy)
  known y hy := by
    rcases List.mem_append.mp hy with hy | hy
    · exact (h.known y hy).imp_right fun hy =>
        hy.imp_left fun hy => isImported_addImport.mpr (.inr hy)
    · exact .inr (.inl (isImported_addImport.mpr (.inl (List.mem_singleton.mp hy))))

theorem declareGlobal (h : Tracks written lasting qs a) (x : String) :
    Tracks written (lasting ++ [x]) qs ((Effect.declareGlobal x).apply a) where
  nodup := h.nodup
  stack := h.stack.append_lasting [x]
  current := h.current
  globalScope := (h.globalScope.append_lasting [x]).put_lasting (by simp) .global
  classNames y hy := List.mem_append_left _ (h.classNames y hy)
  imports y hy := List.mem_append_left _ (h.imports y hy)
  known y hy := by
    rcases List.mem_append.mp hy with hy | hy
    · exact (h.known y hy).imp_right fun hy =>
        hy.imp_right fun hy => Ordered.has_put.mpr (.inr hy)
    · exact .inr (.inr (Ordered.has_put.mpr (.inl (List.mem_singleton.mp hy).symm)))

theorem openScope (h : Tracks written lasting qs a) (hq : q ∉ qs)
    (hnew : ∀ v ∈ written, v.2 ≠ some q) :
    Tracks written lasting (q :: qs) (Effect.openScope.apply a) :=
  { h with
    nodup := List.nodup_cons.mpr ⟨hq, h.nodup⟩
    stack := ⟨a.scopes, [], rfl,
      fun x => ⟨fun hx => (hnew _ hx rfl).elim, fun hx => by cases hx⟩, h.stack⟩
    current := congrArg ScopeRef.level h.stack.length }

theorem closeScope (h : Tracks written lasting (q :: qs) a) :
    Tracks written lasting qs ((Effect.closeScope (innermost qs)).apply a) := by
  obtain ⟨rest, s, hss, -, hrest⟩ := h.stack
  refine { h with
    nodup := (List.nodup_cons.mp h.nodup).2
    stack := ?_
    current := rfl }
  simp only [Effect.apply, hss, List.dropLast_concat]
  exact hrest

/-! ### A step of the traversal -/

theorem writeAll (h : Tracks written lasting qs a) (xs : List String) (k : Binding) :
    Tracks (written ++ xs.map (·, qs.head?)) lasting qs (a.after (xs.map (.bind · k))) := by
  induction xs generalizing written a with
  | nil => rwa [List.map_nil, List.append_nil]
  | cons x xs ih =>
    have hrest := ih (h.write x k)
    rwa [List.append_assoc, List.singleton_append] at hrest

theorem importAll (h : Tracks written lasting qs a) (n : Node) (items : List Value) :
    Tracks written (lasting ++ items.map importName) qs
      (a.after (items.flatMap (itemEffects n))) := by
  induction items generalizing lasting a with
  | nil => rwa [List.map_nil, List.append_nil]
  | cons item items ih =>
    have hitem := (h.addImport (importName item) n.line?).bind_lasting (x := importName item)
      (by simp) .imported
    have hrest := ih hitem
    rwa [List.append_assoc, List.singleton_append] at hrest

theorem declareAll (h : Tracks written lasting qs a) (xs : List String) :
    Tracks written (lasting ++ xs) qs (a.after (xs.map .declareGlobal)) := by
  induction xs generalizing lasting a with
  | nil => rwa [List.append_nil]
  | cons x xs ih =>
    have hrest := ih (h.declareGlobal x)
    rwa [List.append_assoc, List.singleton_append] at hrest

theorem markUsed (h : Tracks written lasting qs a) (x : String) :
    Tracks written lasting qs ((Effect.markUsed x).apply a) := by
  simp only [Effect.apply, Analysis.markUsed]
  split
  · exact { h with }
  · exact h

theorem checkDefined (h : Tracks written lasting qs a) (x : String) (line : Line) :
    Tracks written lasting qs ((Effect.checkDefined x line).apply a) := by
  simp only [Effect.apply]
  split
  · exact h
  · exact { h with }

theorem addClass_bind (a : Analysis) (x y : String) (k : Binding) :
    (Effect.addClass x).apply (a.bind y k) = ((Effect.addClass x).apply a).bind y k := by
  unfold Analysis.bind
  simp only [Effect.apply]
  cases a.current <;> rfl

theorem principal {o : Occurrence} (h : Tracks written lasting (openScopes o.above) a)
    (hmodule : o.node.kind = .program → o.above = []) (hscope : o.position ∉ openScopes o.above)
    (hnew : ∀ v ∈ written, v.2 ≠ some o.position) :
    Tracks (written ++ o.writes) (lasting ++ o.node.lastingNames)
      (openScopes (o.toSpot :: o.above)) (a.after (CodeLint.Lint.principal o.node)) := by
  have hstays : opensScope o.node.kind = false →
      openScopes (o.toSpot :: o.above) = openScopes o.above :=
    fun hk => openScopes_of_not_opens hk o.above
  have hopens : opensScope o.node.kind = true →
      openScopes (o.toSpot :: o.above) = o.position :: openScopes o.above :=
    fun hk => openScopes_of_opens hk o.above
  unfold CodeLint.Lint.principal Occurrence.writes Node.lastingNames
  cases hk : o.node.kind with
  | program =>
    rw [hstays (by rw [hk]; rfl), List.append_nil, List.append_nil]
    refine { h with current := ?_ }
    rw [hmodule hk]
    rfl
  | importStmt | importFrom =>
    rw [hstays (by rw [hk]; rfl), List.append_nil]
    exact h.importAll o.node _
  | classDef =>
    rw [hopens (by rw [hk]; rfl), List.append_nil]
    -- The name is bound before the class is noted, but it lasts only because of the note.
    have hclass := (h.addClass o.node.title).bind_lasting (x := o.node.title) (by simp) .classDef
    rw [← addClass_bind] at hclass
    exact hclass.openScope hscope hnew
  | functionDef =>
    rw [hopens (by rw [hk]; rfl), List.append_nil]
    have hopened : Tracks written lasting (o.position :: openScopes o.above)
        (Effect.openScope.apply ((Effect.setFunction (some o.node.title)).apply a)) :=
      openScope { h with } hscope hnew
    exact hopened.writeAll o.node.parameterNames .param
  | assign =>
    rw [hstays (by rw [hk]; rfl), List.append_nil]
    have hwritten := h.writeAll (o.node.assignedLeaves.map (·.ident)) .assigned
    rwa [List.map_map, List.map_map] at hwritten
  | name =>
    rw [hstays (by rw [hk]; rfl), List.append_nil]
    simp only [principalName, Node.isStore, hk]
    cases hstore : ((Value.node o.node).part .context).isKind .store with
    | true =>
      -- A context that is a store is no load.
      obtain ⟨c, hc, hck⟩ := Value.isKind_iff.mp hstore
      simp only [hc, Value.isKind, hck]
      exact h.store o.node.ident
    | false =>
      simp only [Bool.and_false, Bool.false_eq_true, if_false, List.append_nil]
      split
      · exact (h.checkDefined _ _).markUsed _
      · exact h
  | globalStmt =>
    rw [hstays (by rw [hk]; rfl), List.append_nil]
    exact h.declareAll o.node.declaredNames
  | forLoop =>
    rw [hopens (by rw [hk]; rfl), List.append_nil]
    have hopened : Tracks written lasting (o.position :: openScopes o.above)
        (Effect.openScope.apply (Effect.enterLoop.apply a)) :=
      openScope { h with } hscope hnew
    have hwritten := hopened.writeAll (o.node.loopLeaves.map (·.ident)) .assigned
    rwa [List.map_map, List.map_map] at hwritten
  | whileLoop =>
    rw [hopens (by rw [hk]; rfl), List.append_nil, List.append_nil]
    exact openScope { h with } hscope hnew
  | call =>
    rw [hstays (by rw [hk]; rfl), List.append_nil, List.append_nil]
    cases o.node.calledName with
    | none => exact h
    | some m => exact h.markUsed m.ident
  | _ =>
    rw [hstays (by rw [hk]; rfl), List.append_nil, List.append_nil]
    exact h

theorem principalLeave {o : Occurrence} {previous : ScopeRef}
    (h : Tracks written lasting (openScopes (o.toSpot :: o.above)) a)
    (hprevious : previous = innermost (openScopes o.above)) :
    Tracks written lasting (openScopes o.above)
      (a.after (CodeLint.Lint.principalLeave o.node previous)) := by
  have hclosed : opensScope o.node.kind = true →
      Tracks written lasting (openScopes o.above) ((Effect.closeScope previous).apply a) := by
    intro hk
    rw [openScopes_of_opens hk o.above] at h
    rw [hprevious]
    exact h.closeScope
  have hstays : opensScope o.node.kind = false → Tracks written lasting (openScopes o.above) a := by
    intro hk
    rwa [openScopes_of_not_opens hk o.above] at h
  unfold CodeLint.Lint.principalLeave
  cases hk : o.node.kind with
  | program => exact { hstays (by rw [hk]; rfl) with }
  | classDef => exact hclosed (by rw [hk]; rfl)
  | functionDef | forLoop | whileLoop => exact { hclosed (by rw [hk]; rfl) with }
  | _ => exact hstays (by rw [hk]; rfl)

end Tracks

end CodeLint.Lint
