import CodeLint.Proofs.LocalChecks
import CodeLint.Proofs.UnusedImports

/-!
Where issues come from. In the analysis of a well-formed tree every name that an issue mentions is
a name of the tree, and its line is that of a node of the tree. Imports and assignments are reported
long after they were met, so the records that keep their names and lines are part of the invariant.
-/

namespace CodeLint.Tree.Node

open CodeLint.Lint

def Names (t : Node) (x : String) : Prop :=
  ∃ m ∈ t.preorder, ∃ l ∈ nameLabels, (Value.node m).textAt l = x

def HasLine (t : Node) (line : Line) : Prop := line.isSome = true ∧ ∃ m ∈ t.preorder, m.line? = line

end CodeLint.Tree.Node

namespace CodeLint.Lint

open CodeLint.Tree

variable {t n m : Node} {a : Analysis} {v : Value} {es : List Effect}

def Finding.names : Finding → List String
  | undefinedVariable x | unusedVariable x | unusedImport x | builtInRedefined x | constantName x
  | variableName x | className x | functionName x | missingDocstring x | mutableDefault x
  | mixedReturns x | lambdaAssigned x => [x]
  | argumentName x f | restArgumentName x f | restKeywordName x f | keywordOnlyName x f => [x, f]
  | _ => []

def Finding.ArisesIn (t : Node) (f : Finding) : Prop :=
  f.isNote = false ∧ ∀ x ∈ f.names, t.Names x

def Issue.ArisesIn (t : Node) (i : Issue) : Prop := i.finding.ArisesIn t ∧ t.HasLine i.line

def Effect.ArisesIn (t : Node) : Effect → Prop
  | report f line => f.ArisesIn t ∧ t.HasLine line
  | addImport x line | noteAssignment x line | checkReturns x line | checkVariable x line
  | checkDefined x line => t.Names x ∧ t.HasLine line
  | checkDepth line => t.HasLine line
  | _ => True

structure Analysis.ArisesIn (t : Node) (a : Analysis) : Prop where
  issues : ∀ i ∈ a.issues, i.ArisesIn t
  imports : ∀ e ∈ a.imports, t.Names e.1 ∧ t.HasLine e.2
  assignments : ∀ e ∈ a.assignments, t.Names e.1 ∧ t.HasLine e.2

/-! ### Effects on the records -/

theorem arisesIn_single {f : Finding} {x : String} (hnote : f.isNote = false) (hf : f.names = [x])
    (hx : t.Names x) : f.ArisesIn t := by
  refine ⟨hnote, fun y hy => ?_⟩
  rw [hf, List.mem_singleton] at hy
  rwa [hy]

theorem arisesIn_plain {f : Finding} (hnote : f.isNote = false) (hf : f.names = []) :
    f.ArisesIn t := by
  refine ⟨hnote, fun y hy => ?_⟩
  rw [hf] at hy
  cases hy

namespace Analysis.ArisesIn

theorem report (h : a.ArisesIn t) {is : List Issue} (his : ∀ i ∈ is, i.ArisesIn t) :
    ArisesIn t { a with issues := a.issues ++ is } where
  issues i hi := (List.mem_append.mp hi).elim (h.issues i) (his i)
  imports := h.imports
  assignments := h.assignments

theorem bind (h : a.ArisesIn t) (x : String) (k : Binding) : (a.bind x k).ArisesIn t := by
  unfold Analysis.bind
  cases a.current <;> exact ⟨h.issues, h.imports, h.assignments⟩

theorem apply (h : a.ArisesIn t) {e : Effect} (he : e.ArisesIn t) : (e.apply a).ArisesIn t := by
  have hreport : ∀ f line, f.ArisesIn t → t.HasLine line → (a.report f line).ArisesIn t :=
    fun f line hf hline => h.report fun i hi => by
      rw [List.mem_singleton.mp hi]
      exact ⟨hf, hline⟩
  cases e with
  | report f line => exact hreport f line he.1 he.2
  | addImport x line =>
    refine ⟨h.issues, fun e hmem => ?_, h.assignments⟩
    rcases mem_insertNew.mp hmem with rfl | hmem
    · exact he
    · exact h.imports e hmem
  | bind x k => exact h.bind x k
  | addReturn hasValue =>
    simp only [Effect.apply, Analysis.addReturn]
    split
    · exact h
    · split
      · exact h
      · split
        · exact ⟨h.issues, h.imports, h.assignments⟩
        · exact h
  | checkReturns f line =>
    simp only [Effect.apply]
    split
    · exact h
    · split
      · exact hreport _ line (arisesIn_single rfl rfl he.1) he.2
      · exact h
  | noteAssignment x line =>
    refine ⟨h.issues, h.imports, fun e hmem => ?_⟩
    rcases Ordered.mem_put hmem with rfl | hmem
    · exact he
    · exact h.assignments e hmem
  | checkVariable x line | checkDefined x line =>
    simp only [Effect.apply]
    split
    · exact h
    · exact hreport _ line (arisesIn_single rfl rfl he.1) he.2
  | checkDepth line =>
    simp only [Effect.apply]
    split
    · exact hreport _ line (arisesIn_plain rfl rfl) he
    · exact h
  | markUsed x =>
    simp only [Effect.apply, Analysis.markUsed]
    split <;> exact ⟨h.issues, h.imports, h.assignments⟩
  | store x =>
    simp only [Effect.apply]
    split
    · exact h
    · exact h.bind x .assigned
  | reportUnusedImports =>
    refine h.report fun i hi => ?_
    obtain ⟨e, he, rfl⟩ := List.mem_map.mp hi
    obtain ⟨hname, hline⟩ := h.imports e (List.mem_filter.mp he).1
    exact ⟨arisesIn_single rfl rfl hname, hline⟩
  | _ => exact ⟨h.issues, h.imports, h.assignments⟩

theorem after (h : a.ArisesIn t) (hes : ∀ e ∈ es, e.ArisesIn t) : (a.after es).ArisesIn t := by
  induction es generalizing a with
  | nil => exact h
  | cons e es ih =>
    exact ih (h.apply (hes e List.mem_cons_self)) fun f hf => hes f (List.mem_cons_of_mem e hf)

theorem reportUnused (h : a.ArisesIn t) : a.reportUnused.ArisesIn t := by
  refine h.report fun i hi => ?_
  obtain ⟨e, he, rfl⟩ := List.mem_map.mp hi
  obtain ⟨hname, hline⟩ := h.assignments e (List.mem_filter.mp he).1
  exact ⟨arisesIn_single rfl rfl hname, hline⟩

end Analysis.ArisesIn

/-! ### Values that stand in the tree -/

theorem mem_eachLeaves {vs : List Value} (h : m ∈ Value.eachLeaves vs) :
    ∃ c ∈ vs.filterMap Value.node?, m ∈ c.leaves := by
  induction vs with
  | nil => cases h
  | cons v vs ih =>
    cases v with
    | node c =>
      rw [Value.eachLeaves, List.mem_append] at h
      rcases h with h | h
      · exact ⟨c, List.mem_cons_self, h⟩
      · obtain ⟨d, hd, hm⟩ := ih h
        exact ⟨d, List.mem_cons_of_mem c hd, hm⟩
    | atom c => exact ih h
    | list us => exact ih h

theorem mem_fieldLeaves {fs : List Field} (h : m ∈ Field.leaves fs) :
    ∃ c ∈ fs.flatMap (·.value.nodes), m ∈ c.leaves := by
  induction fs with
  | nil => cases h
  | cons f fs ih =>
    cases f with
    | mk l v =>
      rw [Field.leaves] at h
      rw [List.flatMap_cons]
      by_cases hl : l = .elements
      · rw [if_pos hl] at h
        cases v with
        | list vs =>
          obtain ⟨c, hc, hm⟩ := mem_eachLeaves h
          exact ⟨c, List.mem_append_left _ hc, hm⟩
        | atom c => cases h
        | node c => cases h
      · rw [if_neg hl] at h
        obtain ⟨c, hc, hm⟩ := ih h
        exact ⟨c, List.mem_append_right _ hc, hm⟩

theorem mem_leaves (h : m ∈ n.leaves) : m ∈ n.preorder ∧ m.kind = .name := by
  induction n using child_induction with
  | step n ih =>
    cases n with
    | mk kind place fields =>
      rw [Node.leaves] at h
      by_cases hname : kind = .name
      · rw [if_pos hname, List.mem_singleton] at h
        rw [h]
        exact ⟨mem_preorder_self _, hname⟩
      · rw [if_neg hname] at h
        by_cases hseq : kind = .tupleLit ∨ kind = .listLit
        · rw [if_pos hseq] at h
          obtain ⟨c, hc, hm⟩ := mem_fieldLeaves h
          obtain ⟨hbelow, hkind⟩ := ih c hc hm
          exact ⟨mem_preorder_of_child hc hbelow, hkind⟩
        · rw [if_neg hseq] at h
          cases h

def Stands (t : Node) (v : Value) : Prop :=
  ∃ m, v = .node m ∧ m ∈ t.preorder ∧ m.kind.category.hasLine = true

namespace Stands

theorem names (h : Stands t v) {l : Label} (hl : l ∈ Node.nameLabels) : t.Names (v.textAt l) := by
  obtain ⟨m, rfl, hm, -⟩ := h
  exact ⟨m, hm, l, hl, rfl⟩

theorem hasLine (ht : t.Sound) (h : Stands t v) : t.HasLine v.line := by
  obtain ⟨m, rfl, hm, hcategory⟩ := h
  exact ⟨(ht m hm).line hcategory, m, hm, rfl⟩

theorem of_kind {k : Kind} (hn : n ∈ t.preorder) (hk : n.kind = k)
    (hcategory : k.category.hasLine = true) : Stands t (.node n) :=
  ⟨n, rfl, hn, hk ▸ hcategory⟩

theorem of_fits {c : Category} (hn : n ∈ t.preorder) (hv : (Content.node c).Fits v)
    (hmem : ∀ m, v = .node m → m ∈ n.children) (hc : c.hasLine = true) : Stands t v := by
  obtain ⟨m, rfl, hcategory, -⟩ := hv.node
  have hbelow := mem_preorder_of_child (hmem m rfl) (mem_preorder_self m)
  exact ⟨m, rfl, mem_preorder_trans hn hbelow, by rw [hcategory, hc]⟩

theorem member {k : Kind} {l : Label} {c : Category} (ht : t.Sound) (hn : n ∈ t.preorder)
    (hk : n.kind = k) (hv : v ∈ (Value.node n).membersAt l) (hl : (l, .many) ∈ k.layout)
    (hcontent : k.content l = .node c) (hc : c.hasLine = true) : Stands t v := by
  have hfits := fits_of_mem_membersAt (ht.below hn) hk hl hv
  rw [hcontent] at hfits
  refine of_fits hn hfits (fun m hm => ?_) hc
  subst hm
  exact mem_children_of_mem_membersAt hv

theorem rest {l : Label} (ht : t.Sound) (hn : n ∈ t.preorder) (hk : n.kind = .parameters)
    (hv : v ∈ restParameter ((Value.node n).part l)) (hl : (l, .optional) ∈ Kind.parameters.layout)
    (hcontent : Kind.parameters.content l = .node .parameter) : Stands t v := by
  unfold restParameter at hv
  split at hv
  · cases hv
  · next hfalsy =>
    rw [List.mem_singleton.mp hv]
    rcases (ht.below hn).optional hk hl with hnone | hfits
    · exact (hfalsy (isFalsy_of_isNone hnone)).elim
    · rw [hcontent] at hfits
      refine of_fits hn hfits (fun m hm => mem_children_of_part (l := l) ?_) rfl
      rw [hm]
      exact List.mem_singleton_self m

theorem leaf {v : Value} (hn : n ∈ t.preorder) (hv : ∀ c, v = .node c → c ∈ n.children)
    (hm : m ∈ v.leaves) : Stands t (.node m) := by
  cases v with
  | node c =>
    obtain ⟨hbelow, hkind⟩ := mem_leaves hm
    have hin := mem_preorder_of_child (hv c rfl) hbelow
    exact of_kind (mem_preorder_trans hn hin) hkind rfl
  | atom a => cases hm
  | list vs => cases hm

end Stands

/-! ### What a node gives rise to -/

def Arise (t : Node) (es : List Effect) : Prop := ∀ e ∈ es, e.ArisesIn t

theorem arise_atLine (ht : t.Sound) (hv : Stands t v) {f : Finding} (hf : f.ArisesIn t)
    (found : Bool) : Arise t (atLine found f v) := by
  cases found with
  | false => exact List.forall_mem_nil _
  | true => exact List.forall_mem_singleton.mpr ⟨hf, hv.hasLine ht⟩

theorem arise_statement (ht : t.Sound) (hv : Stands t v) : Arise t (statementEffects v) := by
  unfold statementEffects
  split
  · next hassign =>
    obtain ⟨s, rfl, hk⟩ := Value.isKind_iff.mp hassign
    obtain ⟨_, hsame, hs, -⟩ := hv
    cases hsame
    refine List.forall_mem_flatMap.mpr fun target htarget => ?_
    have hstands : Stands t target := .member ht hs hk htarget (by decide) rfl rfl
    unfold constantEffects
    split
    · refine List.forall_mem_cons.mpr ⟨trivial, arise_atLine ht hstands ?_ _⟩
      exact arisesIn_single rfl rfl (hstands.names (by decide))
    · exact List.forall_mem_nil _
  · exact List.forall_mem_nil _

theorem arise_items (ht : t.Sound) (hn : n ∈ t.preorder) (hk : n.isImport = true) :
    Arise t (importEffects n) := by
  refine List.forall_mem_flatMap.mpr fun item hitem => ?_
  have hboth : Stands t (.node n) ∧ Stands t item := by
    rcases Bool.or_eq_true_iff.mp hk with hk | hk
    all_goals
      have hkind := eq_of_beq hk
      exact ⟨.of_kind hn hkind rfl, .member ht hn hkind hitem (by decide) rfl rfl⟩
  obtain ⟨hstands, hitem⟩ := hboth
  have hname : t.Names (importName item) := by
    unfold importName
    split
    · exact hitem.names (by decide)
    · exact hitem.names (l := .otherName) (by decide)
  exact List.forall_mem_cons.mpr
    ⟨⟨hname, hstands.hasLine ht⟩, List.forall_mem_singleton.mpr trivial⟩

theorem arise_signature (ht : t.Sound) (hn : n ∈ t.preorder) (hk : n.kind = .functionDef)
    {f : String} (hf : t.Names f) :
    Arise t (signatureEffects n f ((Value.node n).part .positional)) := by
  have hstands : Stands t (.node n) := .of_kind hn hk rfl
  obtain ⟨p, hp, hcategory, -⟩ :=
    ((ht.below hn).required hk (l := .positional) (by decide)).node
  have hparams : p.kind = .parameters := Kind.eq_of_only (by rw [hcategory]; rfl)
  have hchild : p ∈ n.children := mem_children_of_part (l := .positional) (by
    rw [hp]
    exact List.mem_singleton_self p)
  have hmem : p ∈ t.preorder :=
    mem_preorder_trans hn (mem_preorder_of_child hchild (mem_preorder_self p))
  -- Every check of a parameter reports the parameter and the function at the parameter.
  have hparameter : ∀ (allowed : List String) (finding : String → Finding),
      (∀ x, (finding x).isNote = false ∧ (finding x).names = [x, f]) → ∀ v, Stands t v →
        Arise t (parameterEffects allowed finding v) := by
    intro allowed finding hfinding v hv
    obtain ⟨hnote, hnames⟩ := hfinding (v.textAt .argument)
    refine arise_atLine ht hv ⟨hnote, ?_⟩ _
    rw [hnames]
    exact List.forall_mem_cons.mpr
      ⟨hv.names (by decide), List.forall_mem_singleton.mpr hf⟩
  rw [hp]
  simp only [Arise, signatureEffects, List.forall_mem_append, List.forall_mem_flatMap]
  refine ⟨⟨⟨⟨?_, ?_⟩, ?_⟩, ?_⟩, ?_⟩
  · exact fun v hv => hparameter _ _ (fun x => ⟨rfl, rfl⟩) v
      (.member ht hmem hparams hv (by decide) rfl rfl)
  · exact fun v hv => hparameter _ _ (fun x => ⟨rfl, rfl⟩) v
      (.rest ht hmem hparams hv (by decide) rfl)
  · exact fun v hv => hparameter _ _ (fun x => ⟨rfl, rfl⟩) v
      (.rest ht hmem hparams hv (by decide) rfl)
  · exact fun v hv => hparameter _ _ (fun x => ⟨rfl, rfl⟩) v
      (.member ht hmem hparams hv (by decide) rfl rfl)
  · exact fun v _ => arise_atLine ht hstands (arisesIn_single rfl rfl hf) _

theorem mem_members_of_item {i : Nat} (h : v.item i = .node m) : .node m ∈ v.members := by
  cases v with
  | list vs =>
    rw [Value.item, Value.items, List.getD_eq_getElem?_getD] at h
    cases hget : vs[i]? with
    | none =>
      rw [hget] at h
      cases h
    | some u =>
      rw [hget] at h
      exact h ▸ List.mem_of_getElem? hget
  | atom c => cases h
  | node c => cases h

theorem arise_lambda (ht : t.Sound) (hn : n ∈ t.preorder) (hk : n.kind = .assign) :
    Arise t (lambdaEffects n) := by
  have hstands : Stands t (.node n) := .of_kind hn hk rfl
  simp only [lambdaEffects]
  split
  · split
    · split
      · next hname =>
        obtain ⟨m, hm, -⟩ := Value.isKind_iff.mp hname
        have htarget : Stands t (((Value.node n).part .targets).item 0) := by
          rw [hm]
          exact .member ht hn hk (mem_members_of_item hm) (by decide) rfl rfl
        exact List.forall_mem_singleton.mpr
          ⟨arisesIn_single rfl rfl (htarget.names (by decide)), hstands.hasLine ht⟩
      · exact List.forall_mem_nil _
    · exact List.forall_mem_nil _
  · exact List.forall_mem_nil _

theorem arise_leaf (ht : t.Sound) (hm : Stands t (.node m)) (atModule : Bool) :
    Arise t (leafEffects atModule m) := by
  have hname : t.Names m.ident := hm.names (by decide)
  have hline := hm.hasLine ht
  have hvariable : Arise t (variableEffects atModule m.ident (.node m)) := by
    unfold variableEffects
    split
    · exact arise_atLine ht hm (arisesIn_single rfl rfl hname) _
    · split
      · exact List.forall_mem_singleton.mpr ⟨hname, hline⟩
      · exact List.forall_mem_nil _
  have hbound : Arise t [.bind m.ident .assigned, .noteAssignment m.ident m.line?] :=
    List.forall_mem_cons.mpr ⟨trivial, List.forall_mem_singleton.mpr ⟨hname, hline⟩⟩
  have hmodule : Arise t (if atModule then [.noteConstant m.ident m.line?] else []) := by
    cases atModule with
    | false => exact List.forall_mem_nil _
    | true => exact List.forall_mem_singleton.mpr trivial
  simp only [Arise, leafEffects, List.forall_mem_append]
  exact ⟨⟨⟨arise_atLine ht hm (arisesIn_single rfl rfl hname) _, hvariable⟩, hbound⟩, hmodule⟩

theorem arise_name (ht : t.Sound) (hn : Stands t (.node n)) : Arise t (nameEffects n) := by
  unfold nameEffects
  split
  · simp only [Arise, List.forall_mem_cons]
    exact ⟨⟨hn.names (by decide), hn.hasLine ht⟩, trivial, trivial, List.forall_mem_nil _⟩
  · split
    · exact List.forall_mem_singleton.mpr trivial
    · exact List.forall_mem_nil _

theorem arise_call (ht : t.Sound) (hn : Stands t (.node n)) (above : List Link) :
    Arise t (callEffects above n) := by
  simp only [callEffects]
  split
  · refine List.forall_mem_append.mpr ⟨?_, List.forall_mem_singleton.mpr trivial⟩
    exact arise_atLine ht hn (arisesIn_plain rfl rfl) _
  · split
    · exact List.forall_mem_singleton.mpr trivial
    · exact List.forall_mem_nil _

theorem arise_chain (ht : t.Sound) (hn : Stands t (.node n)) (i : Nat) (operators : List Value) :
    Arise t (chainEffects n i operators) := by
  induction operators generalizing i with
  | nil => exact List.forall_mem_nil _
  | cons operator rest ih =>
    have hplain : ∀ (f : Finding) (found : Bool), f.isNote = false → f.names = [] →
        Arise t (atLine found f (.node n)) :=
      fun f found hnote hf => arise_atLine ht hn (arisesIn_plain hnote hf) found
    simp only [Arise, chainEffects, comparisonEffects, List.forall_mem_append]
    refine ⟨⟨?_, ?_⟩, ih (i + 1)⟩
    · split
      · exact List.forall_mem_append.mpr ⟨hplain _ _ rfl rfl, hplain _ _ rfl rfl⟩
      · exact List.forall_mem_nil _
    · split
      · exact hplain _ _ rfl rfl
      · exact List.forall_mem_nil _

theorem arise_handler (ht : t.Sound) (hv : Stands t v) : Arise t (handlerEffects v) := by
  refine List.forall_mem_append.mpr ⟨arise_atLine ht hv (arisesIn_plain rfl rfl) _, ?_⟩
  split
  · exact List.forall_mem_singleton.mpr ⟨arisesIn_plain rfl rfl, hv.hasLine ht⟩
  · exact arise_atLine ht hv (arisesIn_plain rfl rfl) _

theorem entering_arises (ht : t.Sound) (above : List Link) (hn : n ∈ t.preorder) :
    Arise t (entering above n) := by
  have hstands : n.kind.category.hasLine = true → Stands t (.node n) := fun hc => ⟨n, rfl, hn, hc⟩
  unfold entering
  cases hk : n.kind with
  | program =>
    refine List.forall_mem_cons.mpr ⟨trivial, List.forall_mem_flatMap.mpr fun v hv => ?_⟩
    exact arise_statement ht (.member ht hn hk hv (by decide) rfl rfl)
  | importStmt =>
    rw [hk] at hstands
    refine List.forall_mem_append.mpr ⟨?_, arise_items ht hn (by rw [Node.isImport, hk]; rfl)⟩
    exact arise_atLine ht (hstands rfl) (arisesIn_plain rfl rfl) _
  | importFrom => exact arise_items ht hn (by rw [Node.isImport, hk]; rfl)
  | classDef =>
    rw [hk] at hstands
    simp only [Arise, classEffects, List.forall_mem_append, List.forall_mem_cons]
    refine ⟨⟨⟨trivial, trivial, List.forall_mem_nil _⟩, ?_⟩, trivial, List.forall_mem_nil _⟩
    exact arise_atLine ht (hstands rfl)
      (arisesIn_single rfl rfl ((hstands rfl).names (by decide))) _
  | functionDef =>
    rw [hk] at hstands
    have htitle : t.Names n.title := (hstands rfl).names (by decide)
    simp only [Arise, functionEffects, List.forall_mem_append, List.forall_mem_cons,
      List.forall_mem_map]
    refine ⟨⟨⟨⟨?_, ?_⟩, arise_signature ht hn hk htitle⟩, trivial, trivial, trivial,
      List.forall_mem_nil _⟩, fun _ _ => trivial⟩
    · exact arise_atLine ht (hstands rfl) (arisesIn_single rfl rfl htitle) _
    · exact arise_atLine ht (hstands rfl) (arisesIn_single rfl rfl htitle) _
  | returnStmt => exact List.forall_mem_singleton.mpr trivial
  | assign =>
    refine List.forall_mem_append.mpr ⟨arise_lambda ht hn hk, ?_⟩
    refine List.forall_mem_flatMap.mpr fun m hm => arise_leaf ht ?_ _
    obtain ⟨v, hv, hm⟩ := List.mem_flatMap.mp hm
    exact .leaf hn (fun c hc => mem_children_of_mem_membersAt (hc ▸ hv)) hm
  | name =>
    rw [hk] at hstands
    exact arise_name ht (hstands rfl)
  | globalStmt | nonlocalStmt => exact List.forall_mem_map.mpr fun _ _ => trivial
  | forLoop =>
    rw [hk] at hstands
    simp only [Arise, forEffects, loopEffects, List.forall_mem_append, List.forall_mem_cons,
      List.forall_mem_flatMap]
    refine ⟨⟨trivial, (hstands rfl).hasLine ht, List.forall_mem_nil _⟩, trivial, fun m hm => ?_⟩
    refine arise_leaf ht (.leaf hn (fun c hc => mem_children_of_part (l := .target) ?_) hm) _
    rw [hc]
    exact List.mem_singleton_self c
  | whileLoop =>
    rw [hk] at hstands
    simp only [Arise, whileEffects, loopEffects, List.forall_mem_append, List.forall_mem_cons]
    exact ⟨⟨⟨trivial, (hstands rfl).hasLine ht, List.forall_mem_nil _⟩,
      arise_atLine ht (hstands rfl) (arisesIn_plain rfl rfl) _⟩, trivial, List.forall_mem_nil _⟩
  | compare =>
    rw [hk] at hstands
    exact arise_chain ht (hstands rfl) 0 _
  | binOp =>
    rw [hk] at hstands
    exact arise_atLine ht (hstands rfl) (arisesIn_plain rfl rfl) _
  | tryStmt =>
    refine List.forall_mem_flatMap.mpr fun v hv => arise_handler ht ?_
    exact .member ht hn hk hv (by decide) rfl rfl
  | call =>
    rw [hk] at hstands
    exact arise_call ht (hstands rfl) above
  | _ => exact List.forall_mem_nil _

theorem leaving_arises (ht : t.Sound) (hn : n ∈ t.preorder) (previous : ScopeRef) :
    Arise t (leaving n previous) := by
  unfold leaving
  cases hk : n.kind with
  | functionDef =>
    have hstands : Stands t (.node n) := .of_kind hn hk rfl
    simp only [Arise, List.forall_mem_cons]
    exact ⟨trivial, ⟨hstands.names (by decide), hstands.hasLine ht⟩, trivial,
      List.forall_mem_nil _⟩
  | program | classDef => exact List.forall_mem_singleton.mpr trivial
  | forLoop | whileLoop =>
    exact List.forall_mem_cons.mpr ⟨trivial, List.forall_mem_singleton.mpr trivial⟩
  | _ => exact List.forall_mem_nil _

/-- The issues of a tree mention only its names and its lines. -/
theorem issues_arise (h : n.WellFormed) :
    ∃ a, analysis n = .ok a ∧ ∀ i ∈ a.issues, i.ArisesIn n := by
  obtain ⟨b, hb, ha⟩ := analysis_eq h
  have hnode : ∀ o ∈ n.occurrences, o.node ∈ n.preorder := by
    intro o ho
    rw [← occurrences_nodes h.2.plain]
    exact List.mem_map_of_mem ho
  have hkeeps : Keeps n.occurrences fun _ _ a => a.ArisesIn n := by
    constructor
    · intro seen o later a hall ha
      exact ha.after (entering_arises h.2 _ (hnode o (by simp [hall])))
    · intro first seen o a c ho _ hc
      exact hc.after (leaving_arises h.2 (hnode o ho) a.current)
  have hfresh : Analysis.ArisesIn n {} := ⟨by simp, by simp, by simp⟩
  exact ⟨_, ha, (invariant_of_visit hkeeps hb hfresh).reportUnused.issues⟩

end CodeLint.Lint
