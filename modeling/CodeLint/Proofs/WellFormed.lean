import CodeLint.Proofs.Occurrence

/-!
Trees as a parser builds them. Every field of a node is one that its kind has, and holds what the
grammar of trees says: a text, a number, a plain value, or nodes of one category. Fields that must
be there are there, nodes that stand in the source have a line, and a comparison has as many
operators as operands on the right.
-/

namespace CodeLint.Tree

inductive Category
  | module
  | statement
  | expression
  | pattern
  | context
  | boolOperator
  | operator
  | unaryOperator
  | comparison
  | handler
  | parameters
  | parameter
  | importItem
  | keyword
  | comprehension
  | withItem
  | matchCase
  | typeIgnore
  deriving DecidableEq

def Kind.category : Kind → Category
  | .program | .interactive | .expression | .functionType => .module
  | .annAssign | .assertStmt | .assign | .asyncFor | .asyncFunctionDef | .asyncWith | .augAssign
  | .classDef | .deleteStmt | .expr | .forLoop | .functionDef | .globalStmt | .ifStmt
  | .importStmt | .importFrom | .matchStmt | .nonlocalStmt | .raiseStmt | .returnStmt | .tryStmt
  | .tryStar | .whileLoop | .withStmt | .breakStmt | .continueStmt | .passStmt => .statement
  | .attributeOf | .await | .binOp | .boolOp | .call | .compare | .constant | .dictLit | .dictComp
  | .formattedValue | .generatorExp | .ifExp | .joinedStr | .lambda | .listLit | .listComp | .name
  | .namedExpr | .setLit | .setComp | .slice | .starred | .subscript | .tupleLit | .unaryOp
  | .yield | .yieldFrom => .expression
  | .matchAs | .matchClass | .matchMapping | .matchOr | .matchSequence | .matchSingleton
  | .matchStar | .matchValue => .pattern
  | .load | .store | .del => .context
  | .andOp | .orOp => .boolOperator
  | .add | .bitAnd | .bitOr | .bitXor | .div | .floorDiv | .lShift | .matMult | .mod | .mult | .pow
  | .rShift | .sub => .operator
  | .invert | .notOp | .uAdd | .uSub => .unaryOperator
  | .eq | .gt | .gtE | .isIn | .isSame | .isNotSame | .lt | .ltE | .notEq | .notIn => .comparison
  | .exceptHandler => .handler
  | .parameters => .parameters
  | .parameter => .parameter
  | .importItem => .importItem
  | .keyword => .keyword
  | .comprehension => .comprehension
  | .withItem => .withItem
  | .matchCase => .matchCase
  | .typeIgnore => .typeIgnore

def Category.only? : Category → Option Kind
  | .handler => some .exceptHandler
  | .parameters => some .parameters
  | .parameter => some .parameter
  | .importItem => some .importItem
  | .withItem => some .withItem
  | _ => none

theorem Kind.eq_of_only {k k' : Kind} (h : k.category.only? = some k') : k = k' := by
  cases k with
  | exceptHandler | parameters | parameter | importItem | withItem => exact Option.some.inj h
  | _ => cases h

def Category.hasLine : Category → Bool
  | .statement | .expression | .pattern | .handler | .parameter | .importItem | .keyword => true
  | _ => false

inductive Content
  | text
  | number
  | plain
  | node (c : Category)
  | nodeOrNone (c : Category)

def Kind.content (k : Kind) : Label → Content
  | .argument | .otherName | .attrName | .ident | .package | .name | .rest | .typeComment | .tag
  | .kind | .keywordNames => .text
  | .names =>
    match k with
    | .importStmt | .importFrom => .node .importItem
    | _ => .text
  | .lineNumber | .level | .simple | .conversion | .isAsync => .number
  | .value =>
    match k with
    | .constant | .matchSingleton => .plain
    | _ => .node .expression
  | .body | .otherwise =>
    match k with
    | .lambda | .ifExp | .expression => .node .expression
    | _ => .node .statement
  | .finalBody => .node .statement
  | .context => .node .context
  | .operator =>
    match k with
    | .boolOp => .node .boolOperator
    | .unaryOp => .node .unaryOperator
    | _ => .node .operator
  | .operators => .node .comparison
  | .positional =>
    match k with
    | .call => .node .expression
    | .parameters => .node .parameter
    | _ => .node .parameters
  | .positionalOnly | .keywordOnly | .restPositional | .restKeywords => .node .parameter
  | .keywords => .node .keyword
  | .generators => .node .comprehension
  | .handlers => .node .handler
  | .items => .node .withItem
  | .cases => .node .matchCase
  | .pattern | .patterns | .keywordPatterns => .node .pattern
  | .keys =>
    match k with
    | .dictLit => .nodeOrNone .expression
    | _ => .node .expression
  | .keywordDefaults => .nodeOrNone .expression
  | .ignoredTypes => .node .typeIgnore
  | _ => .node .expression

def Content.accepts : Content → Value → Bool
  | .text, .atom (.str _) => true
  | .number, .atom (.int _) => true
  | .plain, .atom _ => true
  | .node c, .node n => n.kind.category == c
  | .nodeOrNone c, .node n => n.kind.category == c
  | .nodeOrNone _, .atom .none => true
  | _, _ => false

def Presence.accepts (c : Content) : Presence → Value → Bool
  | .required, v => c.accepts v
  | .optional, v => v.isNone || c.accepts v
  | .many, .list vs => vs.all c.accepts
  | .many, _ => false

namespace Node

structure Conforms (n : Node) : Prop where
  fields : ∀ f ∈ n.fields, ∃ e ∈ n.kind.layout, e.1 = f.label ∧
    e.2.accepts (n.kind.content f.label) f.value = true
  present : ∀ e ∈ n.kind.layout, e.2 ≠ .optional → ∃ f ∈ n.fields, f.label = e.1
  line : n.kind.category.hasLine = true → n.line?.isSome = true
  chain : n.kind = .compare → ((Value.node n).part .operators).items.length =
    ((Value.node n).part .comparators).items.length

instance (n : Node) : Decidable n.Conforms :=
  decidable_of_iff
    ((∀ f ∈ n.fields, ∃ e ∈ n.kind.layout, e.1 = f.label ∧
        e.2.accepts (n.kind.content f.label) f.value = true) ∧
      (∀ e ∈ n.kind.layout, e.2 ≠ .optional → ∃ f ∈ n.fields, f.label = e.1) ∧
      (n.kind.category.hasLine = true → n.line?.isSome = true) ∧
      (n.kind = .compare → ((Value.node n).part .operators).items.length =
        ((Value.node n).part .comparators).items.length))
    ⟨fun ⟨hf, hp, hl, hc⟩ => ⟨hf, hp, hl, hc⟩, fun h => ⟨h.fields, h.present, h.line, h.chain⟩⟩

def Sound (n : Node) : Prop := ∀ m ∈ n.preorder, m.Conforms

instance (n : Node) : Decidable n.Sound := inferInstanceAs (Decidable (∀ m ∈ n.preorder, _))

/-- The tree of a whole module as a parser builds it. -/
def WellFormed (n : Node) : Prop := n.kind = .program ∧ n.Sound

instance (n : Node) : Decidable n.WellFormed := inferInstanceAs (Decidable (_ ∧ _))

def nameLabels : List Label := [.ident, .name, .otherName, .argument]

/-- Names and lines as a parser gives them: no space in a name, and no line behind the last one. -/
structure Legible (last : Nat) (n : Node) : Prop where
  names : ∀ m ∈ n.preorder, ∀ f ∈ m.fields, f.label ∈ nameLabels → ' ' ∉ f.value.text.toList
  lines : ∀ m ∈ n.preorder, ∀ i ∈ m.line?, 0 ≤ i ∧ i ≤ last

end Node

/-! ### Reading sound trees -/

theorem layout_unique {k : Kind} {l : Label} {p q : Presence} (hp : (l, p) ∈ k.layout)
    (hq : (l, q) ∈ k.layout) : p = q := by
  have hall : ∀ k : Kind, ∀ e ∈ k.layout, ∀ f ∈ k.layout, e.1 = f.1 → e.2 = f.2 := by
    intro k
    cases k <;> decide
  exact hall k _ hp _ hq rfl

theorem Node.Conforms.part {n : Node} (h : n.Conforms) {l : Label} {p : Presence}
    (hl : (l, p) ∈ n.kind.layout) :
    ((Value.node n).part? l).isSome = true ∧
      p.accepts (n.kind.content l) ((Value.node n).part l) = true := by
  simp only [Value.part, Value.part?, Node.get?]
  cases hfind : n.fields.find? (·.label == l) with
  | some f =>
    obtain ⟨e, he, hlabel, haccepts⟩ := h.fields f (List.mem_of_find?_eq_some hfind)
    have hf : f.label = l :=
      beq_iff_eq.mp (List.find?_some (p := fun f : Field => f.label == l) hfind)
    rw [hf] at hlabel haccepts
    have hpresence : p = e.2 := layout_unique hl (hlabel ▸ he)
    exact ⟨rfl, by rw [hpresence]; exact haccepts⟩
  | none =>
    -- Only an optional field can be left out, and it then counts as holding nothing.
    have hoptional : p = .optional := by
      refine Decidable.byContradiction fun hp => ?_
      obtain ⟨f, hf, hlabel⟩ := h.present (l, p) hl hp
      exact List.find?_eq_none.mp hfind f hf (beq_iff_eq.mpr hlabel)
    rw [hoptional] at hl ⊢
    have hleft : n.kind.isOptional l = true := List.contains_iff_mem.mpr hl
    simp [hleft, Presence.accepts, Value.isNone, Atom.isNone]

theorem mem_children_of_part {n m : Node} {l : Label} (hm : m ∈ ((Value.node n).part l).nodes) :
    m ∈ n.children := by
  simp only [Value.part, Value.part?, Node.get?] at hm
  cases hfind : n.fields.find? (·.label == l) with
  | some f =>
    rw [hfind] at hm
    exact List.mem_flatMap.mpr ⟨f, List.mem_of_find?_eq_some hfind, hm⟩
  | none =>
    rw [hfind] at hm
    cases hopt : n.kind.isOptional l <;> simp [hopt, Value.nodes] at hm

theorem mem_children_of_mem_membersAt {n m : Node} {l : Label}
    (hm : .node m ∈ (Value.node n).membersAt l) : m ∈ n.children := by
  refine mem_children_of_part (l := l) ?_
  unfold Value.membersAt at hm
  cases hpart : (Value.node n).part l with
  | list vs =>
    rw [hpart] at hm
    exact List.mem_filterMap.mpr ⟨.node m, hm, rfl⟩
  | node c =>
    rw [hpart] at hm
    cases hm
  | atom c =>
    rw [hpart] at hm
    cases c <;> simp [Value.members] at hm

def Content.Fits (c : Content) (v : Value) : Prop := c.accepts v = true ∧ ∀ m ∈ v.nodes, m.Sound

theorem accepts_list (c : Content) (us : List Value) : c.accepts (.list us) = false := by
  cases c <;> rfl

theorem Content.Fits.isText {v : Value} (h : Content.text.Fits v) : v.isText = true := by
  have haccepts := h.1
  unfold Content.accepts at haccepts
  split at haccepts <;> simp_all [Value.isText]

theorem Content.Fits.node {c : Category} {v : Value} (h : (Content.node c).Fits v) :
    ∃ m, v = .node m ∧ m.kind.category = c ∧ m.Sound := by
  obtain ⟨haccepts, hsound⟩ := h
  cases v with
  | node m => exact ⟨m, rfl, eq_of_beq haccepts, hsound m List.mem_cons_self⟩
  | atom a => cases haccepts
  | list vs => cases haccepts

theorem Kind.content_ne_module (k : Kind) (l : Label) :
    k.content l ≠ .node .module ∧ k.content l ≠ .nodeOrNone .module := by
  unfold Kind.content
  repeat' split
  all_goals exact ⟨nofun, nofun⟩

theorem Presence.accepts_node {c : Content} {p : Presence} {v : Value} {m : Node}
    (h : p.accepts c v = true) (hm : m ∈ v.nodes) : c.accepts (.node m) = true := by
  cases v with
  | atom a => cases hm
  | node n =>
    rw [List.mem_singleton.mp hm]
    cases p with
    | required => exact h
    | optional => exact h
    | many => cases h
  | list vs =>
    cases p with
    | many =>
      obtain ⟨v, hv, hnode⟩ := List.mem_filterMap.mp hm
      cases v with
      | node n =>
        cases hnode
        exact List.all_eq_true.mp h _ hv
      | atom a => cases hnode
      | list us => cases hnode
    | required =>
      rw [Presence.accepts, accepts_list] at h
      cases h
    | optional =>
      rw [Presence.accepts, accepts_list] at h
      cases h

theorem Node.Conforms.category_child {n m : Node} (h : n.Conforms) (hm : m ∈ n.children) :
    m.kind.category ≠ .module := by
  obtain ⟨f, hf, hmem⟩ := List.mem_flatMap.mp hm
  obtain ⟨e, -, -, haccepts⟩ := h.fields f hf
  have hcontent := Presence.accepts_node haccepts hmem
  obtain ⟨hnode, hoptional⟩ := n.kind.content_ne_module f.label
  intro hmodule
  cases hc : n.kind.content f.label with
  | node c =>
    rw [hc] at hcontent
    exact hnode (by rw [hc, ← hmodule, eq_of_beq hcontent])
  | nodeOrNone c =>
    rw [hc] at hcontent
    exact hoptional (by rw [hc, ← hmodule, eq_of_beq hcontent])
  | text | number | plain =>
    rw [hc] at hcontent
    cases hcontent

namespace Node.Sound

variable {n m : Node} {k : Kind} {l : Label} {p : Presence}

theorem conforms (h : n.Sound) : n.Conforms :=
  h n (Lint.mem_preorder_self n)

theorem child (h : n.Sound) (hm : m ∈ n.children) : m.Sound :=
  fun c hc => h c (Lint.mem_preorder_of_child hm hc)

theorem below (h : n.Sound) (hm : m ∈ n.preorder) : m.Sound :=
  fun c hc => h c (Lint.mem_preorder_trans hm hc)

theorem part (h : n.Sound) (l : Label) : ∀ m ∈ ((Value.node n).part l).nodes, m.Sound :=
  fun _ hm => h.child (mem_children_of_part hm)

theorem isSome_part (h : n.Sound) (hk : n.kind = k) (hl : (l, p) ∈ k.layout) :
    ((Value.node n).part? l).isSome = true := by
  subst hk
  exact (h.conforms.part hl).1

theorem required (h : n.Sound) (hk : n.kind = k) (hl : (l, .required) ∈ k.layout) :
    (k.content l).Fits ((Value.node n).part l) := by
  subst hk
  exact ⟨(h.conforms.part hl).2, h.part l⟩

theorem optional (h : n.Sound) (hk : n.kind = k) (hl : (l, .optional) ∈ k.layout) :
    ((Value.node n).part l).isNone = true ∨ (k.content l).Fits ((Value.node n).part l) := by
  subst hk
  exact (Bool.or_eq_true_iff.mp (h.conforms.part hl).2).imp_right fun haccepts =>
    ⟨haccepts, h.part l⟩

theorem many (h : n.Sound) (hk : n.kind = k) (hl : (l, .many) ∈ k.layout) :
    ∃ vs, (Value.node n).part l = .list vs ∧ ∀ v ∈ vs, (k.content l).Fits v := by
  subst hk
  have haccepts := (h.conforms.part hl).2
  have hsound := h.part l
  cases hpart : (Value.node n).part l with
  | atom a =>
    rw [hpart] at haccepts
    cases haccepts
  | node m =>
    rw [hpart] at haccepts
    cases haccepts
  | list vs =>
    rw [hpart] at haccepts hsound
    refine ⟨vs, rfl, fun v hv => ?_⟩
    have haccept := List.all_eq_true.mp haccepts v hv
    refine ⟨haccept, fun m hm => ?_⟩
    cases v with
    | atom a => cases hm
    | node c =>
      rw [List.mem_singleton.mp hm]
      exact hsound c (List.mem_filterMap.mpr ⟨.node c, hv, rfl⟩)
    | list us =>
      rw [accepts_list] at haccept
      cases haccept

theorem line {c : Category} (h : n.Sound) (hn : n.kind.category = c) (hc : c.hasLine = true) :
    (Value.node n).line.isSome = true :=
  h.conforms.line (hn ▸ hc)

theorem not_reaches_below (h : n.Sound) (hm : m ∈ n.branches) : ¬ m.Reaches .program := by
  induction m using Lint.branch_induction generalizing n with
  | step m ih =>
    have hchild := Lint.branches_subset hm
    rw [Lint.reaches_iff]
    rintro (hk | ⟨c, hc, hreaches⟩)
    · exact h.conforms.category_child hchild (by rw [hk]; rfl)
    · exact ih c hc (h.child hchild) hc hreaches

theorem plain (h : n.Sound) : n.Plain := by
  intro c hc hd
  have htexts : ∀ e ∈ c.kind.layout, c.kind.content e.1 = .text := by
    cases hk : c.kind with
    | globalStmt | nonlocalStmt => exact List.forall_mem_singleton.mpr rfl
    | _ =>
      rw [hk] at hd
      cases hd
  rw [List.isEmpty_iff, Node.children, List.flatMap_eq_nil_iff]
  intro f hf
  obtain ⟨e, he, hlabel, haccepts⟩ := (h c hc).fields f hf
  refine List.eq_nil_iff_forall_not_mem.mpr fun d hd => ?_
  have hcontent := Presence.accepts_node haccepts hd
  rw [← hlabel, htexts e he] at hcontent
  cases hcontent

end Node.Sound

theorem Node.Legible.textAt {last : Nat} {n m : Node} (h : n.Legible last) (hm : m ∈ n.preorder)
    {l : Label} (hl : l ∈ Node.nameLabels) : ' ' ∉ ((Value.node m).textAt l).toList := by
  simp only [Value.textAt, Value.part, Value.part?, Node.get?]
  cases hfind : m.fields.find? (·.label == l) with
  | some f =>
    have hlabel : f.label = l :=
      beq_iff_eq.mp (List.find?_some (p := fun f : Field => f.label == l) hfind)
    exact h.names m hm f (List.mem_of_find?_eq_some hfind) (hlabel ▸ hl)
  | none =>
    dsimp only
    split <;> exact List.not_mem_nil

end CodeLint.Tree
