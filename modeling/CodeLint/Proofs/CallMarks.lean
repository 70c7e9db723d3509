import CodeLint.Proofs.UnusedImports

/-!
Marks that calls make. A call marks the name it goes through as a used import, and the name itself
is read further down in the call and marked once more. A traversal that leaves out the marks of
calls is behind by a few names inside each call and has caught up when the call is left, so it comes
to the same issues and the same used imports.
-/

namespace CodeLint.Lint

open CodeLint.Tree

variable {above : List Link} {a b a' : Analysis} {n : Node} {x : String} {P : String → Prop}

def enterCallUnmarked (above : List Link) (n : Node) : Check Unit := do
  let callee ← attr (.node n) .callee
  if callee.isKind .name then
    let f ← textAttr callee .ident
    checkOpen above n f
  else if callee.isKind .attributeOf then
    discard (attr callee .value)

def enterUnmarked (above : List Link) (n : Node) : Check Unit :=
  if n.kind = .call then enterCallUnmarked above n else enter above n

def analysisBy (step : List Link → Node → Check Unit) (n : Node) : Except Fault Analysis :=
  match (do traverse step [] n; modify (·.reportUnused) : Check Unit).apply {} with
  | (.ok _, a) => .ok a
  | (.error f, _) => .error f

theorem analysisBy_enter (n : Node) : analysisBy enter n = analysis n := by
  rw [analysisBy, traverse_enter]
  rfl

/-! ### Entering a call -/

def openEffects (above : List Link) (n : Node) : List Effect :=
  let callee := (Value.node n).part .callee
  if callee.isKind .name then
    atLine (callee.textAt .ident == "open" && !managed above) .unmanagedFile (.node n)
  else []

theorem callEffects_eq (above : List Link) (n : Node) :
    callEffects above n = openEffects above n ++ n.calledName.toList.map (.markUsed ·.ident) := by
  unfold callEffects openEffects Node.calledName
  by_cases hname : ((Value.node n).part .callee).isKind .name = true
  · obtain ⟨m, hm, -⟩ := Value.isKind_iff.mp hname
    simp only [if_pos hname]
    rw [hm]
    rfl
  · simp only [if_neg hname]
    split
    · next hattribute =>
      obtain ⟨m, hm, -⟩ := Value.isKind_iff.mp (Bool.and_eq_true_iff.mp hattribute).2
      rw [hm]
      rfl
    · rfl

theorem enterCallUnmarked_performs (above : List Link) (n : Node) :
    Performs (enterCallUnmarked above n) (openEffects above n) := by
  refine (reads_attr _ _).performs (performs_ite ?_ ?_)
  · refine (reads_textAttr _ _).performs ?_
    unfold checkOpen
    cases ((Value.node n).part .callee).textAt .ident == "open" with
    | false => exact performs_pure
    | true => exact (reads_isManaged above).performs (performs_reportIf _ _ _)
  · cases ((Value.node n).part .callee).isKind .attributeOf with
    | false => exact performs_pure
    | true =>
      have hreads := reads_discard (reads_attr ((Value.node n).part .callee) .value)
      exact fun a => ⟨fun b hb => (hreads.run hb).2, [], List.nil_prefix, hreads.unchanged a⟩

theorem enterCallUnmarked_safe (h : n.Sound) (hk : n.kind = .call)
    (hlinks : ∀ link ∈ above, link.node.Sound) : Safe (enterCallUnmarked above n) := by
  have hline := h.line (by rw [hk]; rfl) (c := .expression) rfl
  refine safe_node h hk (by decide) rfl fun c _ hc => ?_
  refine safe_ite (fun hname => ?_) fun _ => safe_when fun hattribute => ?_
  · refine (safe_ident hc (eq_of_beq hname)).bind (reads_textAttr _ _) (safe_when fun _ => ?_)
    exact (isManaged_safe hlinks).bind (reads_isManaged above) (safe_reportIf _ _ hline)
  · exact safe_discard (safe_attr hc (eq_of_beq hattribute) (p := .required) (by decide))

/-! ### Analyses that differ in the marks -/

def Analysis.unmarked (a : Analysis) : Analysis := { a with usedImports := [] }

theorem unmarked_bind (a : Analysis) (x : String) (k : Binding) :
    (a.bind x k).unmarked = (a.unmarked.bind x k).unmarked := by
  unfold Analysis.bind
  cases hcurrent : a.current with
  | global => simp [Analysis.unmarked, hcurrent]
  | level i => simp [Analysis.unmarked, hcurrent]

-- No effect looks at the marks but the report of unused imports.
theorem unmarked_apply (a : Analysis) {e : Effect} (he : e ≠ .reportUnusedImports) :
    (e.apply a).unmarked = (e.apply a.unmarked).unmarked := by
  cases e with
  | bind x k => exact unmarked_bind a x k
  | addReturn hasValue =>
    simp only [Effect.apply, Analysis.addReturn, Analysis.unmarked]
    split
    · rfl
    · split
      · rfl
      · split <;> rfl
  | checkReturns f line =>
    have hsame : a.unmarked.definition? f = a.definition? f := rfl
    simp only [Effect.apply, hsame]
    split
    · rfl
    · split <;> rfl
  | checkVariable x line =>
    have hsame : a.unmarked.classNames = a.classNames := rfl
    simp only [Effect.apply, hsame]
    split <;> rfl
  | checkDefined x line =>
    have hsame : a.unmarked.isDefined x = a.isDefined x := rfl
    simp only [Effect.apply, hsame]
    split <;> rfl
  | checkDepth line =>
    have hsame : a.unmarked.loopDepth = a.loopDepth := rfl
    simp only [Effect.apply, hsame]
    split <;> rfl
  | markUsed x =>
    have hsame : a.unmarked.isImported x = a.isImported x := rfl
    simp only [Effect.apply, Analysis.markUsed, hsame]
    split <;> rfl
  | store x =>
    have hsame : a.unmarked.currentScope = a.currentScope := rfl
    simp only [Effect.apply, hsame]
    split
    · rfl
    · exact unmarked_bind a x .assigned
  | reportUnusedImports => exact (he rfl).elim
  | _ => rfl

theorem nodup_usedImports_apply (e : Effect) (h : a.usedImports.Nodup) :
    (e.apply a).usedImports.Nodup := by
  cases he : e.isAboutImports with
  | false =>
    rw [(imports_apply a he).2]
    exact h
  | true =>
    cases e with
    | addImport y m => exact h
    | markUsed y =>
      simp only [Effect.apply, Analysis.markUsed]
      split
      · exact nodup_insertNew h
      · exact h
    | _ => cases he

theorem used_isImported_apply (e : Effect) (h : ∀ x ∈ a.usedImports, a.isImported x = true) :
    ∀ x ∈ (e.apply a).usedImports, (e.apply a).isImported x = true := by
  intro x hx
  have hbefore : a.isImported x = true := by
    rcases (mem_usedImports_apply a e).mp hx with hx | ⟨-, himported⟩
    · exact h x hx
    · exact himported
  obtain ⟨line, hmem⟩ := isImported_iff.mp hbefore
  exact isImported_iff.mpr ⟨line, (mem_imports_apply a e).mpr (.inl hmem)⟩

/-- The second analysis is the first but for marks that it lacks, all of them on names with the
property. -/
structure Behind (P : String → Prop) (a a' : Analysis) : Prop where
  same : a'.unmarked = a.unmarked
  distinct : a.usedImports.Nodup ∧ a'.usedImports.Nodup
  imported : ∀ x ∈ a.usedImports, a.isImported x = true
  marked : ∀ x ∈ a'.usedImports, x ∈ a.usedImports
  pending : ∀ x ∈ a.usedImports, x ∈ a'.usedImports ∨ P x

namespace Behind

theorem fresh : Behind (fun _ => False) {} {} where
  same := rfl
  distinct := ⟨List.nodup_nil, List.nodup_nil⟩
  imported _ hx := by cases hx
  marked _ hx := hx
  pending _ hx := .inl hx

theorem mono {Q : String → Prop} (h : Behind P a a') (hPQ : ∀ x, P x → Q x) : Behind Q a a' where
  same := h.same
  distinct := h.distinct
  imported := h.imported
  marked := h.marked
  pending x hx := (h.pending x hx).imp_right (hPQ x)

theorem agree {β : Type} (h : Behind P a a') (f : Analysis → β) (hf : ∀ c, f c.unmarked = f c) :
    f a' = f a := by
  rw [← hf a', h.same, hf a]

theorem isImported_eq (h : Behind P a a') (x : String) : a'.isImported x = a.isImported x :=
  h.agree (·.isImported x) fun _ => rfl

theorem apply (h : Behind P a a') {e : Effect} (he : e ≠ .reportUnusedImports) :
    Behind (fun x => P x ∧ e ≠ .markUsed x) (e.apply a) (e.apply a') where
  same := by rw [unmarked_apply a he, unmarked_apply a' he, h.same]
  distinct := ⟨nodup_usedImports_apply e h.distinct.1, nodup_usedImports_apply e h.distinct.2⟩
  imported := used_isImported_apply e h.imported
  marked x hx := by
    rw [mem_usedImports_apply, h.isImported_eq] at hx
    exact (mem_usedImports_apply a e).mpr (hx.imp_left (h.marked x))
  pending x hx := by
    rw [mem_usedImports_apply a', h.isImported_eq]
    rcases (mem_usedImports_apply a e).mp hx with hx | hmark
    · rcases h.pending x hx with hx' | hP
      · exact .inl (.inl hx')
      · by_cases hmark : e = .markUsed x
        · exact .inl (.inr ⟨hmark, h.imported x hx⟩)
        · exact .inr ⟨hP, hmark⟩
    · exact .inl (.inr hmark)

theorem after (h : Behind P a a') {es : List Effect} (hes : .reportUnusedImports ∉ es) :
    Behind (fun x => P x ∧ .markUsed x ∉ es) (a.after es) (a'.after es) := by
  induction es generalizing P a a' with
  | nil => exact h.mono fun x hP => ⟨hP, List.not_mem_nil⟩
  | cons e es ih =>
    rw [List.mem_cons, not_or] at hes
    refine (ih (h.apply (Ne.symm hes.1)) hes.2).mono ?_
    rintro x ⟨⟨hP, hfirst⟩, hlater⟩
    refine ⟨hP, fun hmem => ?_⟩
    rcases List.mem_cons.mp hmem with rfl | hmem
    · exact hfirst rfl
    · exact hlater hmem

theorem markFirst (h : Behind P a a') (x : String) :
    Behind (fun y => P y ∨ y = x) ((Effect.markUsed x).apply a) a' where
  same := by
    rw [h.same]
    simp only [Effect.apply, Analysis.markUsed]
    split <;> rfl
  distinct := ⟨nodup_usedImports_apply _ h.distinct.1, h.distinct.2⟩
  imported := used_isImported_apply _ h.imported
  marked y hy := (mem_usedImports_apply a _).mpr (.inl (h.marked y hy))
  pending y hy := by
    rcases (mem_usedImports_apply a _).mp hy with hy | ⟨hmark, -⟩
    · exact (h.pending y hy).imp_right .inl
    · injection hmark with hmark
      exact .inr (.inr hmark.symm)

theorem mem_iff (h : Behind P a a') (hP : ∀ x, ¬ P x) : x ∈ a'.usedImports ↔ x ∈ a.usedImports :=
  ⟨h.marked x, fun hx => (h.pending x hx).resolve_right (hP x)⟩

theorem reportUnusedImports (h : Behind P a a') (hP : ∀ x, ¬ P x) :
    Behind P a.reportUnusedImports a'.reportUnusedImports where
  same := by
    have hcontains : ∀ x, a'.usedImports.contains x = a.usedImports.contains x := by
      intro x
      rw [Bool.eq_iff_iff, List.contains_iff_mem, List.contains_iff_mem, h.mem_iff hP]
    have himports : a'.imports = a.imports := h.agree Analysis.imports fun _ => rfl
    have hissues : a'.issues = a.issues := h.agree Analysis.issues fun _ => rfl
    have hunused : a'.reportUnusedImports.issues = a.reportUnusedImports.issues := by
      simp only [Analysis.reportUnusedImports, hcontains, himports, hissues]
    have hrest := congrArg (fun c : Analysis => { c with issues := a.reportUnusedImports.issues })
      h.same
    change { a'.unmarked with issues := a'.reportUnusedImports.issues } = _
    rw [hunused]
    exact hrest
  distinct := h.distinct
  imported := h.imported
  marked := h.marked
  pending := h.pending

end Behind

/-! ### One step of the two traversals -/

theorem markUsed_mem_entering : .markUsed x ∈ entering above n ↔ n.marks x = true := by
  rw [← markUsed_mem_principal, ← filter_entering above n, List.mem_filter]
  exact (and_iff_left rfl).symm

theorem reportUnusedImports_not_mem_entering (above : List Link) (n : Node) :
    .reportUnusedImports ∉ entering above n := by
  intro hmem
  have hprincipal : .reportUnusedImports ∈ principal n := by
    rw [← filter_entering above n]
    exact List.mem_filter.mpr ⟨hmem, rfl⟩
  exact possibleAt_of_mem_principal _ hprincipal

theorem Behind.functionsKnown (h : Behind P a a') (ha : FunctionsKnown a) : FunctionsKnown a' := by
  have hvalid : ValidFunctions a' ↔ ValidFunctions a :=
    iff_of_eq (h.agree ValidFunctions fun _ => rfl)
  have hcurrent : a'.currentFunction = a.currentFunction := h.agree _ fun _ => rfl
  have hfunctions : a'.functions = a.functions := h.agree _ fun _ => rfl
  exact ⟨hvalid.mpr ha.valid, hcurrent ▸ hfunctions ▸ ha.current⟩

theorem Behind.canLeave (h : Behind P a a') (ha : CanLeave n a) : CanLeave n a' := by
  have hscopes : a'.scopes = a.scopes := h.agree _ fun _ => rfl
  have hvalid : ValidFunctions a' ↔ ValidFunctions a :=
    iff_of_eq (h.agree ValidFunctions fun _ => rfl)
  have hfunctions : a'.functions = a.functions := h.agree _ fun _ => rfl
  exact ⟨hscopes ▸ ha.scope, hvalid.mpr ha.valid, hfunctions ▸ ha.known⟩

theorem Behind.entering (h : Behind P a a') (above : List Link) (n : Node) :
    Behind (fun x => P x ∧ n.marks x = false) (a.after (entering above n))
      (a'.after (entering above n)) := by
  refine (h.after (reportUnusedImports_not_mem_entering above n)).mono ?_
  rintro x ⟨hP, hmark⟩
  exact ⟨hP, Bool.eq_false_iff.mpr fun hm => hmark (markUsed_mem_entering.mpr hm)⟩

theorem Behind.enteringCall (h : Behind P a a') (above : List Link) (hk : n.kind = .call) :
    Behind (fun x => P x ∨ ∃ m, n.calledName = some m ∧ m.ident = x)
      (a.after (Lint.entering above n)) (a'.after (openEffects above n)) := by
  have hentering : Lint.entering above n = openEffects above n ++
      n.calledName.toList.map (.markUsed ·.ident) := by
    rw [Lint.entering, hk]
    exact callEffects_eq above n
  have hnothing : .reportUnusedImports ∉ openEffects above n := by
    intro hmem
    refine reportUnusedImports_not_mem_entering above n ?_
    rw [hentering]
    exact List.mem_append_left _ hmem
  have hopened := (h.after hnothing).mono fun x hx => hx.1
  rw [hentering, Analysis.after_append]
  cases hm : n.calledName with
  | none => exact hopened.mono fun x hP => .inl hP
  | some m =>
    refine (hopened.markFirst m.ident).mono fun x hx => hx.imp_right ?_
    rintro rfl
    exact ⟨m, rfl, rfl⟩

/-- Entering a node without the mark of a call. A name that is read is not missing afterwards, and
only the name that a call goes through can be newly missing. -/
theorem enter_behind (h : n.Sound) (hlinks : ∀ link ∈ above, link.node.Sound)
    (habove : n.kind = .program ∨ above ≠ []) (ha : FunctionsKnown a) (hbehind : Behind P a a')
    (hrun : Runs (enter above n) a () b) :
    ∃ b', Runs (enterUnmarked above n) a' () b' ∧
      Behind (fun x => P x ∧ n.uses x = false ∨
        n.kind = .call ∧ ∃ m, n.calledName = some m ∧ m.ident = x) b b' := by
  obtain rfl := (enter_performs above n).run hrun
  unfold enterUnmarked
  by_cases hk : n.kind = .call
  · rw [if_pos hk]
    obtain ⟨_, b', hb'⟩ := enterCallUnmarked_safe h hk hlinks a'
    refine ⟨b', hb', ?_⟩
    obtain rfl := (enterCallUnmarked_performs above n).run hb'
    refine (hbehind.enteringCall above hk).mono fun x hx => ?_
    have huses : n.uses x = false := by simp [Node.uses, Node.isLoad, hk]
    exact hx.imp (fun hP => ⟨hP, huses⟩) fun hm => ⟨hk, hm⟩
  · rw [if_neg hk]
    obtain ⟨b', hb'⟩ := enter_runs h hlinks habove (hbehind.functionsKnown ha)
    refine ⟨b', hb', ?_⟩
    obtain rfl := (enter_performs above n).run hb'
    refine (hbehind.entering above n).mono ?_
    rintro x ⟨hP, hmarks⟩
    exact .inl ⟨hP, (Bool.or_eq_false_iff.mp hmarks).1⟩

theorem Behind.leaving (h : Behind P a a') (hP : n.kind = .program → ∀ x, ¬ P x)
    (previous : ScopeRef) :
    Behind P (a.after (leaving n previous)) (a'.after (leaving n previous)) := by
  by_cases hk : n.kind = .program
  · rw [Lint.leaving, hk]
    exact h.reportUnusedImports (hP hk)
  · refine (h.after ?_).mono fun x hx => hx.1
    unfold Lint.leaving
    cases hkind : n.kind with
    | program => exact (hk hkind).elim
    | _ => simp

/-! ### The two traversals -/

theorem called_below {m : Node} (hk : n.kind = .call) (hm : n.calledName = some m) :
    ∃ c ∈ n.branches, m ∈ c.preorder := by
  have hroot : ⟨⟨[], n⟩, []⟩ ∈ n.occurrences := mem_visited.mpr (.inl rfl)
  obtain ⟨u, hu, rfl, hbelow⟩ := called_occurs hroot hk hm
  rcases mem_visited.mp hu with rfl | ⟨i, c, hc, hu⟩
  · exact (not_precedes_self _ hbelow).elim
  · exact ⟨c, List.mem_of_getElem? hc, mem_preorder_of_visited hu⟩

def Unread (n : Node) (x : String) : Prop := ∀ m ∈ n.preorder, m.uses x = false

theorem unread_iff (h : n.Plain) :
    Unread n x ↔ n.uses x = false ∧ ∀ c ∈ n.branches, Unread c x := by
  rw [Unread, preorder_eq, List.forall_mem_cons, List.forall_mem_flatMap, branches_of_plain h]
  rfl

/-- The traversal that leaves out the marks of calls follows a visit of the tree, and a name that is
read in the tree is not missing afterwards. -/
def Follows (above : List Link) (n : Node) : Prop :=
  ∀ P a a' b, FunctionsKnown a → (n.kind = .program → ∀ x, ¬ P x) → Behind P a a' →
    Runs (visit above n) a () b →
    ∃ b', Runs (traverse enterUnmarked above n) a' () b' ∧
      Behind (fun x => P x ∧ Unread n x) b b'

theorem visitsAll_follows {cs : List Node} (hcs : ∀ c ∈ cs, Follows above c)
    (hkinds : ∀ c ∈ cs, c.kind ≠ .program) (ha : FunctionsKnown a) (hbehind : Behind P a a')
    (hrun : VisitsAll above cs a b) :
    ∃ b', TraversesAll enterUnmarked above cs a' b' ∧
      Behind (fun x => P x ∧ ∀ c ∈ cs, Unread c x) b b' := by
  induction cs generalizing P a a' with
  | nil =>
    rw [show b = a from hrun]
    exact ⟨a', rfl, hbehind.mono fun x hP => ⟨hP, List.forall_mem_nil _⟩⟩
  | cons c cs ih =>
    obtain ⟨m, hc, hrest⟩ := hrun
    obtain ⟨hfirst, hlater⟩ := List.forall_mem_cons.mp hcs
    obtain ⟨hkind, hkinds⟩ := List.forall_mem_cons.mp hkinds
    obtain ⟨m', hm', hbetween⟩ := hfirst P a a' m ha (fun hk => (hkind hk).elim) hbehind hc
    obtain ⟨b', hb', hend⟩ := ih hlater hkinds (ha.visit hc) hbetween hrest
    refine ⟨b', ⟨m', hm', hb'⟩, hend.mono ?_⟩
    rintro x ⟨⟨hP, hunread⟩, hcs⟩
    exact ⟨hP, List.forall_mem_cons.mpr ⟨hunread, hcs⟩⟩

theorem visit_follows (h : n.Sound) (hlinks : ∀ link ∈ above, link.node.Sound)
    (habove : n.kind = .program ∨ above ≠ [])
    (hcalls : ∀ m ∈ n.preorder, m.kind = .call → ∀ k ∈ m.calledName, k.isLoad = true) :
    Follows above n := by
  induction n using branch_induction generalizing above with
  | step n ih =>
    intro P a a' b ha hP hbehind hrun
    obtain ⟨m, m', henter, hbranches, hleave⟩ := (runs_visit n).mp hrun
    obtain ⟨c, hc, hentered⟩ := enter_behind h hlinks habove ha hbehind henter
    have hknown : FunctionsKnown m := (enter_performs above n).run henter ▸ ha.entering above n
    have hbelow : ∀ d ∈ n.branches, Follows (⟨n, none⟩ :: above) d := by
      intro d hd
      have hchild := branches_subset hd
      refine ih d hd (h.child hchild) (List.forall_mem_cons.mpr ⟨h, hlinks⟩)
        (.inr (List.cons_ne_nil _ _)) fun k hk => hcalls k (mem_preorder_of_child hchild hk)
    have hkinds : ∀ d ∈ n.branches, d.kind ≠ .program := fun d hd hk =>
      h.conforms.category_child (branches_subset hd) (by rw [hk]; rfl)
    obtain ⟨c', hc', hvisited⟩ := visitsAll_follows hbelow hkinds hknown hentered hbranches
    -- The name that a call goes through is read below the call, so it is missing no more.
    have hcaught : Behind (fun x => P x ∧ Unread n x) m' c' := by
      refine hvisited.mono ?_
      rintro x ⟨⟨hP, huses⟩ | ⟨hk, k, hcalled, rfl⟩, hunread⟩
      · exact ⟨hP, (unread_iff h.plain).mpr ⟨huses, hunread⟩⟩
      · obtain ⟨d, hd, hmem⟩ := called_below hk hcalled
        have hload := hcalls n (mem_preorder_self n) hk k hcalled
        have hread := hunread d hd k hmem
        rw [Node.uses, hload, beq_self_eq_true] at hread
        cases hread
    have hprevious : a'.current = a.current := hbehind.agree Analysis.current fun _ => rfl
    obtain ⟨b', hb'⟩ := leave_runs h
      (hcaught.canLeave (canLeave_of_visitsAll ha henter hbranches)) a'.current
    refine ⟨b', (runs_traverse n).mpr ⟨c, c', hc, hc', hb'⟩, ?_⟩
    rw [(leave_performs n _).run hb', (leave_performs n _).run hleave, hprevious]
    exact hcaught.leaving (fun hk x hx => hP hk x hx.1) a.current

theorem callsRead_preorder (h : n.Plain) (hcalls : n.CallsRead) :
    ∀ m ∈ n.preorder, m.kind = .call → ∀ k ∈ m.calledName, k.isLoad = true := by
  rw [← occurrences_nodes h, List.forall_mem_map]
  exact hcalls

theorem Behind.reportUnused (h : Behind P a a') :
    a'.reportUnused = { a.reportUnused with usedImports := a'.usedImports } :=
  congrArg (fun c : Analysis => { c.reportUnused with usedImports := a'.usedImports }) h.same

/-- Where the names through which calls go are read, an analysis that leaves out the marks of calls
gives the same issues and the same state. The used imports, kept without repetition, are the same
up to their order. -/
theorem call_marks_redundant {n : Node} (h : n.WellFormed) (hcalls : n.CallsRead) :
    ∃ a b, analysisBy enter n = .ok a ∧ analysis n = .ok a ∧ analysisBy enterUnmarked n = .ok b ∧
      b.issues = a.issues ∧ b = { a with usedImports := b.usedImports } ∧
      b.usedImports.Perm a.usedImports := by
  obtain ⟨a, ha, hanalysis⟩ := analysis_eq h
  have hfollows := visit_follows h.2 (List.forall_mem_nil _) (.inl h.1)
    (callsRead_preorder h.2.plain hcalls)
  obtain ⟨b, hb, hbehind⟩ := hfollows _ {} {} a .fresh (fun _ _ => id) .fresh ha
  have hinspect : (do traverse enterUnmarked [] n; modify (·.reportUnused) : Check Unit).apply {} =
      (.ok (), b.reportUnused) := runs_seq.mpr ⟨b, hb, runs_modify.mpr rfl⟩
  refine ⟨_, b.reportUnused, (analysisBy_enter n).trans hanalysis, hanalysis, ?_, ?_,
    hbehind.reportUnused, ?_⟩
  · rw [analysisBy, hinspect]
  · rw [hbehind.reportUnused]
  · refine (List.perm_ext_iff_of_nodup hbehind.distinct.2 hbehind.distinct.1).mpr fun x => ?_
    exact hbehind.mem_iff fun x hx => hx.1

def callsWithin : Node := treeOf "import m, f, u\nm.p(k=lambda: f(u=1))(open(f))\n"

theorem call_marks_redundant_callsWithin :
    callsWithin.WellFormed ∧ callsWithin.CallsRead ∧
      ∃ b, analysisBy enterUnmarked callsWithin = .ok b ∧
        b.issues =
          [⟨.severalImports, some 1⟩, ⟨.unmanagedFile, some 2⟩, ⟨.unusedImport "u", some 1⟩] ∧
        b.usedImports.Perm ["m", "f"] := by
  have hevaluated : callsWithin.WellFormed ∧ callsWithin.CallsRead ∧
      (analysis callsWithin).toOption.map (fun a => (a.issues, a.usedImports)) =
        some ([⟨.severalImports, some 1⟩, ⟨.unmanagedFile, some 2⟩, ⟨.unusedImport "u", some 1⟩],
          ["m", "f"]) := by
    decide +kernel
  obtain ⟨hformed, hcalls, hmarked⟩ := hevaluated
  obtain ⟨a, b, -, ha, hb, hissues, -, hused⟩ := call_marks_redundant hformed hcalls
  rw [ha] at hmarked
  obtain ⟨hmarkedIssues, hmarkedNames⟩ := Prod.mk.inj (Option.some.inj hmarked)
  exact ⟨hformed, hcalls, b, hb, hissues.trans hmarkedIssues, hmarkedNames ▸ hused⟩

end CodeLint.Lint
