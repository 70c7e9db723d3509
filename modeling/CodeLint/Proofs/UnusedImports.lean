import CodeLint.Proofs.Totality

/-!
Unused imports. An import is marked as used where its name is read, or called through, once some
statement that imports the name has been entered. A call through a name reads that name further
down, so a module reports the imports whose names are not read after the first import of them.
-/

namespace CodeLint.Tree.Node

open CodeLint.Lint

def imports (n : Node) (x : String) : Bool := n.isImport && n.importedNames.contains x

def uses (n : Node) (x : String) : Bool := n.isLoad && n.ident == x

def marks (n : Node) (x : String) : Bool :=
  n.uses x || n.kind == .call && n.calledName.any (·.ident == x)

def firstImport (n : Node) (x : String) : Option Occurrence :=
  n.occurrences.find? (·.node.imports x)

/-- A name is imported at a line, and is nowhere read after the first import of it. -/
def ImportUnused (n : Node) (x : String) (l : Line) : Prop :=
  (∃ o ∈ n.occurrences, o.node.imports x = true ∧ o.node.line? = l) ∧
    ∀ i ∈ n.firstImport x, ∀ u ∈ n.occurrences, u.node.uses x = true →
      ¬ Precedes i.position u.position

instance (n : Node) (x : String) (l : Line) : Decidable (n.ImportUnused x l) :=
  inferInstanceAs (Decidable (_ ∧ _))

def CallsRead (n : Node) : Prop :=
  ∀ o ∈ n.occurrences, o.node.kind = .call → ∀ m ∈ o.node.calledName, m.isLoad = true

instance (n : Node) : Decidable n.CallsRead := inferInstanceAs (Decidable (∀ o ∈ n.occurrences, _))

end CodeLint.Tree.Node

namespace CodeLint.Lint

open CodeLint.Tree

variable {a b : Analysis} {n : Node} {x : String} {l : Line}

/-! ### The records of imports -/

theorem isImported_iff : a.isImported x = true ↔ ∃ l, (x, l) ∈ a.imports := by
  simp only [Analysis.isImported, List.any_eq_true, beq_iff_eq]
  constructor
  · rintro ⟨⟨y, l⟩, hmem, rfl⟩
    exact ⟨l, hmem⟩
  · rintro ⟨l, hmem⟩
    exact ⟨(x, l), hmem, rfl⟩

def Effect.isAboutImports : Effect → Bool
  | addImport _ _ | markUsed _ => true
  | _ => false

theorem imports_bind (a : Analysis) (x : String) (k : Binding) :
    (a.bind x k).imports = a.imports ∧ (a.bind x k).usedImports = a.usedImports := by
  unfold Analysis.bind
  cases a.current <;> exact ⟨rfl, rfl⟩

theorem imports_apply (a : Analysis) {e : Effect} (he : e.isAboutImports = false) :
    (e.apply a).imports = a.imports ∧ (e.apply a).usedImports = a.usedImports := by
  cases hp : e.isPrincipal with
  | false =>
    have hagrees := Agrees.of_not_principal a hp
    exact ⟨hagrees.imports.symm, hagrees.usedImports.symm⟩
  | true =>
    cases e with
    | addImport | markUsed => cases he
    | addReturn | checkReturns | checkVariable | checkDepth => cases hp
    | bind x k => exact imports_bind a x k
    | checkDefined x line =>
      simp only [Effect.apply]
      split <;> exact ⟨rfl, rfl⟩
    | store x =>
      simp only [Effect.apply]
      split
      · exact ⟨rfl, rfl⟩
      · exact imports_bind a x .assigned
    | _ => exact ⟨rfl, rfl⟩

theorem mem_imports_apply (a : Analysis) (e : Effect) :
    (x, l) ∈ (e.apply a).imports ↔ (x, l) ∈ a.imports ∨ e = .addImport x l := by
  cases he : e.isAboutImports with
  | false =>
    rw [(imports_apply a he).1]
    refine (or_iff_left fun hadd => ?_).symm
    rw [hadd] at he
    cases he
  | true =>
    cases e with
    | addImport y m =>
      simp only [Effect.apply, mem_insertNew, Prod.mk.injEq, Effect.addImport.injEq]
      rw [or_comm, eq_comm, @eq_comm _ l]
    | markUsed y =>
      simp only [Effect.apply, Analysis.markUsed, reduceCtorEq, or_false]
      split <;> rfl
    | _ => cases he

theorem nodup_imports_apply (e : Effect) (h : a.imports.Nodup) : (e.apply a).imports.Nodup := by
  cases he : e.isAboutImports with
  | false =>
    rw [(imports_apply a he).1]
    exact h
  | true =>
    cases e with
    | addImport y m => exact nodup_insertNew h
    | markUsed y =>
      simp only [Effect.apply, Analysis.markUsed]
      split <;> exact h
    | _ => cases he

theorem mem_usedImports_apply (a : Analysis) (e : Effect) :
    x ∈ (e.apply a).usedImports ↔
      x ∈ a.usedImports ∨ e = .markUsed x ∧ a.isImported x = true := by
  cases he : e.isAboutImports with
  | false =>
    rw [(imports_apply a he).2]
    refine (or_iff_left ?_).symm
    rintro ⟨rfl, -⟩
    cases he
  | true =>
    cases e with
    | addImport y m => simp [Effect.apply]
    | markUsed y =>
      simp only [Effect.apply, Analysis.markUsed, Effect.markUsed.injEq]
      split
      · next hy =>
        rw [mem_insertNew, or_comm]
        refine or_congr_right ⟨?_, fun h => h.1.symm⟩
        rintro rfl
        exact ⟨rfl, hy⟩
      · next hy =>
        refine (or_iff_left ?_).symm
        rintro ⟨rfl, hx⟩
        exact hy hx
    | _ => cases he

theorem mem_imports_after (a : Analysis) (es : List Effect) :
    (x, l) ∈ (a.after es).imports ↔ (x, l) ∈ a.imports ∨ .addImport x l ∈ es := by
  induction es generalizing a with
  | nil => simp
  | cons e es ih =>
    rw [Analysis.after_cons, ih, mem_imports_apply, List.mem_cons, or_assoc, eq_comm]

theorem nodup_imports_after (es : List Effect) (h : a.imports.Nodup) :
    (a.after es).imports.Nodup := by
  induction es generalizing a with
  | nil => exact h
  | cons e es ih => exact ih (nodup_imports_apply e h)

/-- Among effects that do not both import and mark names, those that mark a name count when the name
is imported before. -/
theorem mem_usedImports_after (a : Analysis) {es : List Effect}
    (hes : ∀ y l z, .addImport y l ∈ es → .markUsed z ∉ es) :
    x ∈ (a.after es).usedImports ↔
      x ∈ a.usedImports ∨ .markUsed x ∈ es ∧ a.isImported x = true := by
  induction es generalizing a with
  | nil => simp
  | cons e es ih =>
    have hrest := ih (e.apply a) fun y l z hy hz =>
      hes y l z (List.mem_cons_of_mem e hy) (List.mem_cons_of_mem e hz)
    -- Where marks follow, the first effect imports nothing.
    have hsame : .markUsed x ∈ es → ((e.apply a).isImported x = true ↔ a.isImported x = true) := by
      intro hx
      rw [isImported_iff, isImported_iff]
      refine exists_congr fun l => (mem_imports_apply a e).trans (or_iff_left ?_)
      rintro rfl
      exact hes x l x List.mem_cons_self (List.mem_cons_of_mem _ hx)
    rw [Analysis.after_cons, hrest, mem_usedImports_apply, and_congr_right hsame, List.mem_cons,
      or_assoc, or_and_right, @eq_comm _ e]

/-! ### Imports and uses in a tree -/

theorem addImport_mem_importEffects :
    .addImport x l ∈ importEffects n ↔ x ∈ n.importedNames ∧ n.line? = l := by
  simp only [importEffects, itemEffects, List.mem_flatMap, Node.importedNames, List.mem_map]
  constructor
  · rintro ⟨item, hitem, he⟩
    rcases List.mem_cons.mp he with he | he
    · cases he
      exact ⟨⟨item, hitem, rfl⟩, rfl⟩
    · cases List.mem_singleton.mp he
  · rintro ⟨⟨item, hitem, rfl⟩, rfl⟩
    exact ⟨item, hitem, List.mem_cons_self⟩

theorem markUsed_mem_principalName :
    .markUsed x ∈ principalName n ↔
      ((Value.node n).part .context).isKind .load = true ∧ n.ident = x := by
  unfold principalName
  split
  · next hload => simp [hload, eq_comm]
  · next hload => split <;> simp [hload]

theorem addImport_mem_principal :
    .addImport x l ∈ principal n ↔ n.imports x = true ∧ n.line? = l := by
  unfold principal
  cases hk : n.kind with
  | importStmt | importFrom =>
    rw [addImport_mem_importEffects]
    simp [Node.imports, Node.isImport, hk]
  | name =>
    simp only [Node.imports, Node.isImport, hk, principalName]
    split
    · simp
    · split <;> simp
  | _ => simp [Node.imports, Node.isImport, hk]

theorem markUsed_mem_principal : .markUsed x ∈ principal n ↔ n.marks x = true := by
  unfold principal
  cases hk : n.kind with
  | importStmt | importFrom =>
    simp [importEffects, itemEffects, Node.marks, Node.uses, Node.isLoad, hk]
  | name =>
    rw [markUsed_mem_principalName]
    simp [Node.marks, Node.uses, Node.isLoad, hk]
  | call => simp [Node.marks, Node.uses, Node.isLoad, hk, Option.any_eq_true]
  | _ => simp [Node.marks, Node.uses, Node.isLoad, hk]

theorem not_marks_of_imports {y z : String} (h : n.imports y = true) : n.marks z = false := by
  have hk : n.kind = .importStmt ∨ n.kind = .importFrom := by
    simpa [Node.isImport] using (Bool.and_eq_true_iff.mp h).1
  rcases hk with hk | hk <;> simp [Node.marks, Node.uses, Node.isLoad, hk]

structure ImportsTracked (seen : List Occurrence) (a : Analysis) : Prop where
  distinct : a.imports.Nodup
  imports : ∀ x l, (x, l) ∈ a.imports ↔ ∃ o ∈ seen, o.node.imports x = true ∧ o.node.line? = l
  used : ∀ x, x ∈ a.usedImports ↔ ∃ i ∈ seen, i.node.imports x = true ∧
    ∃ u ∈ seen, u.node.marks x = true ∧ Precedes i.position u.position

namespace ImportsTracked

variable {seen later : List Occurrence} {o : Occurrence}

theorem fresh : ImportsTracked [] {} where
  distinct := List.nodup_nil
  imports _ _ := by simp
  used _ := by simp

theorem of_agrees (h : ImportsTracked seen a) (hab : Agrees a b) : ImportsTracked seen b where
  distinct := hab.imports ▸ h.distinct
  imports := hab.imports ▸ h.imports
  used := hab.usedImports ▸ h.used

theorem isImported_iff (h : ImportsTracked seen a) :
    a.isImported x = true ↔ ∃ i ∈ seen, i.node.imports x = true := by
  rw [Lint.isImported_iff]
  simp only [h.imports]
  constructor
  · rintro ⟨l, i, hi, hx, -⟩
    exact ⟨i, hi, hx⟩
  · rintro ⟨i, hi, hx⟩
    exact ⟨_, i, hi, hx, rfl⟩

theorem principal (h : ImportsTracked seen a) (hall : n.occurrences = seen ++ o :: later) :
    ImportsTracked (seen ++ [o]) (a.after (principal o.node)) where
  distinct := nodup_imports_after _ h.distinct
  imports x l := by
    rw [mem_imports_after, h.imports, addImport_mem_principal]
    simp only [List.mem_append, List.mem_singleton, or_and_right, exists_or, exists_eq_left]
  used x := by
    have hseen : ∀ i ∈ seen, Precedes i.position o.position :=
      fun i hi => ((mem_seen_iff hall).mp hi).2
    rw [mem_usedImports_after a fun y l z hy hz => ?_, h.used, markUsed_mem_principal,
      h.isImported_iff]
    · constructor
      · rintro (⟨i, hi, hx, u, hu, hm, hp⟩ | ⟨hm, i, hi, hx⟩)
        · exact ⟨i, List.mem_append_left _ hi, hx, u, List.mem_append_left _ hu, hm, hp⟩
        · exact ⟨i, List.mem_append_left _ hi, hx, o, by simp, hm, hseen i hi⟩
      · rintro ⟨i, hi, hx, u, hu, hm, hp⟩
        rcases List.mem_append.mp hi with hi | hi
        · rcases List.mem_append.mp hu with hu | hu
          · exact .inl ⟨i, hi, hx, u, hu, hm, hp⟩
          · rw [List.mem_singleton.mp hu] at hm
            exact .inr ⟨hm, i, hi, hx⟩
        -- An import that is just entered comes after every use so far.
        · rw [List.mem_singleton.mp hi] at hp
          rcases List.mem_append.mp hu with hu | hu
          · exact (not_precedes_self _ (hp.trans (hseen u hu))).elim
          · rw [List.mem_singleton.mp hu] at hp
            exact (not_precedes_self _ hp).elim
    · have hmarks := markUsed_mem_principal.mp hz
      rw [not_marks_of_imports (addImport_mem_principal.mp hy).1] at hmarks
      cases hmarks

theorem principalLeave (h : ImportsTracked seen a) (n : Node) (previous : ScopeRef) :
    ImportsTracked seen (a.after (principalLeave n previous)) := by
  have hsame : (a.after (Lint.principalLeave n previous)).imports = a.imports ∧
      (a.after (Lint.principalLeave n previous)).usedImports = a.usedImports := by
    unfold Lint.principalLeave
    cases n.kind <;> exact ⟨rfl, rfl⟩
  constructor
  · rw [hsame.1]
    exact h.distinct
  · rw [hsame.1]
    exact h.imports
  · rw [hsame.2]
    exact h.used

end ImportsTracked

theorem importsTracked_keeps (n : Node) :
    Keeps n.occurrences fun seen _ a => ImportsTracked seen a where
  enter _ o _ a hall h := (h.principal hall).of_agrees (entering_agrees a _ o.node)
  leave _ _ o a c _ _ h := (h.principalLeave o.node a.current).of_agrees (leaving_agrees c o.node _)

/-! ### Uses after an import -/

theorem mem_branches_of_part {m : Node} {l : Label} (hd : descends n.kind = true)
    (hm : (Value.node n).part l = .node m) : m ∈ n.branches := by
  rw [Node.branches, if_pos hd]
  exact mem_children_of_part (by rw [hm]; exact List.mem_singleton_self m)

theorem called_occurs {o : Occurrence} {m : Node} (ho : o ∈ n.occurrences)
    (hk : o.node.kind = .call) (hm : o.node.calledName = some m) :
    ∃ u ∈ n.occurrences, u.node = m ∧ Precedes o.position u.position := by
  have hd : descends o.node.kind = true := by rw [hk]; rfl
  simp only [Node.calledName] at hm
  split at hm
  · next hname =>
    obtain ⟨c, hc, -⟩ := Value.isKind_iff.mp hname
    rw [hc] at hm
    cases hm
    exact branch_occurs ho (mem_branches_of_part hd hc)
  · split at hm
    · next hattribute =>
      obtain ⟨hcallee, hvalue⟩ := Bool.and_eq_true_iff.mp hattribute
      obtain ⟨c, hc, hck⟩ := Value.isKind_iff.mp hcallee
      rw [hc] at hm hvalue
      obtain ⟨d, hd', -⟩ := Value.isKind_iff.mp hvalue
      rw [hd'] at hm
      cases hm
      obtain ⟨u, hu, rfl, hou⟩ := branch_occurs ho (mem_branches_of_part hd hc)
      obtain ⟨v, hv, hvm, huv⟩ := branch_occurs hu
        (mem_branches_of_part (by rw [hck]; rfl) hd')
      exact ⟨v, hv, hvm, hou.trans huv⟩
    · cases hm

theorem firstImport_precedes {i u : Occurrence} (hi : i ∈ n.occurrences)
    (hx : i.node.imports x = true) (hp : Precedes i.position u.position) :
    ∃ f, n.firstImport x = some f ∧ Precedes f.position u.position := by
  obtain ⟨f, hf⟩ : ∃ f, n.firstImport x = some f :=
    Option.isSome_iff_exists.mp (List.find?_isSome.mpr ⟨i, hi, hx⟩)
  refine ⟨f, hf, ?_⟩
  obtain ⟨-, before, after, hsplit, hbefore⟩ := List.find?_eq_some_iff_append.mp hf
  rw [hsplit, List.mem_append, List.mem_cons] at hi
  rcases hi with hi | rfl | hi
  · have hnot := hbefore i hi
    rw [hx] at hnot
    cases hnot
  · exact hp
  · have hordered := visited_ordered [] [] n
    rw [← Node.occurrences, hsplit, List.pairwise_append, List.pairwise_cons] at hordered
    exact (hordered.2.1.1 i hi).trans hp

/-- Where the names through which calls go are read, an import is marked exactly when its name is
read after the first import of it. -/
theorem ImportsTracked.used_iff (h : ImportsTracked n.occurrences a) (hcalls : n.CallsRead) :
    x ∈ a.usedImports ↔ ∃ i, n.firstImport x = some i ∧
      ∃ u ∈ n.occurrences, u.node.uses x = true ∧ Precedes i.position u.position := by
  rw [h.used]
  constructor
  · rintro ⟨i, hi, hx, u, hu, hm, hp⟩
    have huse : ∃ v ∈ n.occurrences, v.node.uses x = true ∧ Precedes i.position v.position := by
      rcases Bool.or_eq_true_iff.mp hm with huse | hcall
      · exact ⟨u, hu, huse, hp⟩
      · obtain ⟨hk, hname⟩ := Bool.and_eq_true_iff.mp hcall
        obtain ⟨m, hm, hident⟩ := Option.any_eq_true _ _ |>.mp hname
        obtain ⟨v, hv, rfl, huv⟩ := called_occurs hu (eq_of_beq hk) hm
        have hload := hcalls u hu (eq_of_beq hk) _ hm
        exact ⟨v, hv, Bool.and_eq_true_iff.mpr ⟨hload, hident⟩, hp.trans huv⟩
    obtain ⟨v, hv, huse, hp⟩ := huse
    obtain ⟨f, hf, hfv⟩ := firstImport_precedes hi hx hp
    exact ⟨f, hf, v, hv, huse, hfv⟩
  · rintro ⟨i, hi, u, hu, huse, hp⟩
    have himports : i.node.imports x = true :=
      List.find?_some (p := fun o : Occurrence => o.node.imports x) hi
    exact ⟨i, List.mem_of_find?_eq_some hi, himports, u, hu, Bool.or_eq_true_iff.mpr (.inl huse),
      hp⟩

theorem mem_unusedImports (h : ImportsTracked n.occurrences a) (hcalls : n.CallsRead) {i : Issue} :
    i ∈ a.unusedImports ↔ ∃ x l, i = ⟨.unusedImport x, l⟩ ∧ n.ImportUnused x l := by
  have hunused : ∀ x, x ∉ a.usedImports ↔ ∀ f ∈ n.firstImport x,
      ∀ u ∈ n.occurrences, u.node.uses x = true → ¬ Precedes f.position u.position := by
    intro x
    rw [h.used_iff hcalls]
    simp only [not_exists, not_and, Option.mem_def]
  simp only [Analysis.unusedImports, List.mem_map, List.mem_filter, Bool.not_eq_true',
    List.contains_eq_mem, decide_eq_false_iff_not]
  constructor
  · rintro ⟨⟨x, l⟩, ⟨hmem, hx⟩, rfl⟩
    exact ⟨x, l, rfl, (h.imports x l).mp hmem, (hunused x).mp hx⟩
  · rintro ⟨x, l, rfl, himport, hx⟩
    exact ⟨(x, l), ⟨(h.imports x l).mpr himport, (hunused x).mpr hx⟩, rfl⟩

theorem nodup_unusedImports (h : a.imports.Nodup) : a.unusedImports.Nodup := by
  refine List.Pairwise.map _ (fun e f hne heq => hne ?_) (h.filter _)
  injection heq with hfinding hline
  injection hfinding with hname
  exact Prod.ext hname hline

/-! ### The order of the issues -/

def Finding.inPassing (f : Finding) : Bool := f.code != "W0611" && f.code != "W0612"

theorem inPassing_of_not_aboutUse {f : Finding} (hf : f.aboutUse = false) : f.inPassing = true := by
  cases f with
  | unusedVariable | unusedImport | note => cases hf
  | _ => simp only [Finding.inPassing, Finding.code]; decide

theorem analysis_issues (h : n.WellFormed) :
    ∃ m vs, ImportsTracked n.occurrences m ∧ (∀ i ∈ m.issues, i.finding.inPassing = true) ∧
      (∀ i ∈ vs, i.finding.code = "W0612") ∧
      ∃ a, analysis n = .ok a ∧ a.issues = m.issues ++ m.unusedImports ++ vs := by
  obtain ⟨hk, hsound⟩ := h
  obtain ⟨b, hb, ha⟩ := analysis_eq ⟨hk, hsound⟩
  have htracked := invariant_of_visit (importsTracked_keeps n) hb .fresh
  obtain ⟨d, m, he, hbelow, hl⟩ := (runs_visit n).mp hb
  have hleft : b = m.reportUnusedImports := by
    rw [(leave_performs n _).run hl]
    simp only [leaving, hk]
    rfl
  -- The only module is the root, which has not been left yet.
  have hreports : Reports False {} m := by
    rw [(enter_performs [] n).run he] at hbelow
    refine (Reports.entering {} [] n).trans ((Reports.chain (hbelow.mono fun c _ _ _ =>
      Reports.visit)).imp ?_)
    rintro ⟨c, hc, hreaches⟩
    exact hsound.not_reaches_below hc hreaches
  subst hleft
  refine ⟨m, _, ⟨htracked.distinct, htracked.imports, htracked.used⟩, fun i hi => ?_,
    fun i hi => ?_, _, ha, rfl⟩
  · cases huse : i.aboutUse with
    | false => exact inPassing_of_not_aboutUse huse
    | true =>
      rcases hreports i hi huse with hfirst | ⟨x, hx⟩ | ⟨hfalse, -⟩
      · cases hfirst
      · rw [hx]
        rfl
      · exact hfalse.elim
  · obtain ⟨e, -, rfl⟩ := List.mem_map.mp hi
    rfl

theorem filters_of_parts {first middle last : List Issue}
    (hissues : a.issues = first ++ middle ++ last)
    (hfirst : ∀ i ∈ first, i.finding.inPassing = true)
    (hmiddle : ∀ i ∈ middle, i.finding.code = "W0611")
    (hlast : ∀ i ∈ last, i.finding.code = "W0612") :
    a.issues.filter (·.finding.inPassing) = first ∧ a.withCode "W0611" = middle ∧
      a.withCode "W0612" = last := by
  have hcodes : ∀ i ∈ first, i.finding.code ≠ "W0611" ∧ i.finding.code ≠ "W0612" := by
    intro i hi
    simpa [Finding.inPassing] using hfirst i hi
  simp only [Analysis.withCode, hissues, List.filter_append]
  refine ⟨?_, ?_, ?_⟩
  · rw [List.filter_eq_self.mpr hfirst, List.filter_eq_nil_iff.mpr, List.filter_eq_nil_iff.mpr]
    · simp
    · intro i hi
      simp [Finding.inPassing, hlast i hi]
    · intro i hi
      simp [Finding.inPassing, hmiddle i hi]
  · rw [List.filter_eq_nil_iff.mpr, List.filter_eq_self.mpr, List.filter_eq_nil_iff.mpr]
    · simp
    · intro i hi
      simp [hlast i hi]
    · intro i hi
      simp [hmiddle i hi]
    · intro i hi
      simp [(hcodes i hi).1]
  · rw [List.filter_eq_nil_iff.mpr, List.filter_eq_nil_iff.mpr, List.filter_eq_self.mpr]
    · simp
    · intro i hi
      simp [hlast i hi]
    · intro i hi
      simp [hmiddle i hi]
    · intro i hi
      simp [(hcodes i hi).2]

/-- In the analysis of a well-formed tree whose calls go through names that are read, the issues
about unused imports stand after all others but those about unused variables. There is one of them
for each name and line such that the name is imported at the line and is not read after its
first import. -/
theorem unused_imports_reported {n : Node} (h : n.WellFormed) (hcalls : n.CallsRead) :
    ∃ a, analysis n = .ok a ∧
      a.issues = a.issues.filter (·.finding.inPassing) ++ a.withCode "W0611" ++ a.withCode "W0612" ∧
      (a.withCode "W0611").Nodup ∧
      ∀ i, i ∈ a.withCode "W0611" ↔ ∃ x l, i = ⟨.unusedImport x, l⟩ ∧ n.ImportUnused x l := by
  obtain ⟨m, vs, htracked, hpassing, hvs, a, ha, hissues⟩ := analysis_issues h
  have himports : ∀ i ∈ m.unusedImports, i.finding.code = "W0611" := by
    intro i hi
    obtain ⟨e, -, rfl⟩ := List.mem_map.mp hi
    rfl
  obtain ⟨hfirst, hmiddle, hlast⟩ := filters_of_parts hissues hpassing himports hvs
  refine ⟨a, ha, ?_, ?_, fun i => ?_⟩
  · rw [hfirst, hmiddle, hlast, hissues]
  · rw [hmiddle]
    exact nodup_unusedImports htracked.distinct
  · rw [hmiddle]
    exact mem_unusedImports htracked hcalls

/-- A name that is read before it is imported, one that is never read, and one that is called
through between two imports of it. -/
def importsAround : Node :=
  treeOf "sys\ndef f():\n    import sys, os.path\nfrom a import b as c\nc.d()\nimport c\n"

theorem unused_imports_reported_importsAround :
    importsAround.WellFormed ∧ importsAround.CallsRead ∧ ∃ a, analysis importsAround = .ok a ∧
      a.issues = a.issues.filter (·.finding.inPassing) ++ a.withCode "W0611" ++ a.withCode "W0612" ∧
      ⟨.unusedImport "sys", some 3⟩ ∈ a.withCode "W0611" ∧
      ⟨.unusedImport "os.path", some 3⟩ ∈ a.withCode "W0611" ∧
      ⟨.unusedImport "c", some 4⟩ ∉ a.withCode "W0611" := by
  have hevaluated : importsAround.WellFormed ∧ importsAround.CallsRead ∧
      importsAround.ImportUnused "sys" (some 3) ∧ importsAround.ImportUnused "os.path" (some 3) ∧
      ¬ importsAround.ImportUnused "c" (some 4) := by
    decide +kernel
  obtain ⟨hformed, hcalls, hsys, hpath, hc⟩ := hevaluated
  obtain ⟨a, ha, horder, -, hmem⟩ := unused_imports_reported hformed hcalls
  refine ⟨hformed, hcalls, a, ha, horder, (hmem _).mpr ⟨_, _, rfl, hsys⟩,
    (hmem _).mpr ⟨_, _, rfl, hpath⟩, fun hi => ?_⟩
  obtain ⟨x, l, heq, hunused⟩ := (hmem _).mp hi
  cases heq
  exact hc hunused

end CodeLint.Lint
