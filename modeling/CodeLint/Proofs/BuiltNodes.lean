import CodeLint.Proofs.WellFormed
import CodeLint.Source.Grammar.Rule

/-!
Building sound and legible nodes. A node is sound if each of its fields is one that its kind has and
holds what it should, made of sound nodes, and if no field is left out that must be there. Which
fields a kind has is looked up, so for a given kind only what the fields hold is left to show.
-/

namespace CodeLint.Tree

open CodeLint.Source CodeLint.Source.Grammar

def complete (k : Kind) (fs : List Field) : Bool :=
  k.layout.all fun e => e.2 == .optional || fs.any (·.label == e.1)

variable {k : Kind} {l : Label} {c : Category} {n : Node} {ns : List Node} {fs gs : List Field}
  {f : Field} {p : Place} {o : Option Node} {context : Kind}

def Kind.takesOne (k : Kind) (l : Label) : Bool := k.layout.any fun e => e.1 == l && e.2 != .many

def Kind.takesMany (k : Kind) (l : Label) : Bool := k.layout.any fun e => e.1 == l && e.2 == .many

theorem conforms_mk (hcomplete : complete k fs = true)
    (hline : k.category.hasLine = true → p.line.isSome = true)
    (hchain : k = .compare → ((Value.node (.mk k p fs)).part .operators).items.length =
      ((Value.node (.mk k p fs)).part .comparators).items.length)
    (hlayout : ∀ f ∈ fs, ∃ e ∈ k.layout, e.1 = f.label ∧
      e.2.accepts (k.content f.label) f.value = true) : (Node.mk k p fs).Conforms := by
  refine ⟨hlayout, fun e he hpresence => ?_, hline, hchain⟩
  have hfield := List.all_eq_true.mp hcomplete e he
  rw [Bool.or_eq_true, beq_iff_eq, List.any_eq_true] at hfield
  obtain ⟨f, hf, hlabel⟩ := hfield.resolve_left hpresence
  exact ⟨f, hf, beq_iff_eq.mp hlabel⟩

/-! ### What a change of context keeps -/

theorem withContext_kind (n : Node) : (withContext context n).kind = n.kind := by
  cases n with
  | mk k p fs =>
    rw [withContext]
    split <;> rfl

theorem label_fieldsWithContext (k : Kind) (fs : List Field) :
    (fieldsWithContext context k fs).map Field.label = fs.map Field.label := by
  induction fs with
  | nil => rfl
  | cons f fs ih =>
    cases f with
    | mk l v =>
      rw [fieldsWithContext]
      split
      · rw [List.map_cons, List.map_cons, ih]; rfl
      · split
        · rw [List.map_cons, List.map_cons, ih]; rfl
        · rw [List.map_cons, List.map_cons, ih]

theorem accepts_valueWithContext (context : Kind) (content : Content) (v : Value) :
    content.accepts (valueWithContext context v) = content.accepts v := by
  cases v with
  | atom a => rw [valueWithContext]
  | node n =>
    rw [valueWithContext]
    cases content <;> simp [Content.accepts, withContext_kind]
  | list vs => rw [valueWithContext, accepts_list, accepts_list]

theorem all_valuesWithContext (context : Kind) (content : Content) (vs : List Value) :
    (valuesWithContext context vs).all content.accepts = vs.all content.accepts := by
  induction vs with
  | nil => rfl
  | cons v vs ih =>
    have hv := accepts_valueWithContext context content v
    cases v with
    | node n =>
      rw [valueWithContext] at hv
      rw [valuesWithContext, List.all_cons, List.all_cons, ih, hv]
    | atom a => rw [valuesWithContext, List.all_cons, List.all_cons, ih]; simp
    | list us => rw [valuesWithContext, List.all_cons, List.all_cons, ih]; simp

theorem presence_valueWithContext (context : Kind) (content : Content) (presence : Presence)
    (v : Value) :
    presence.accepts content (valueWithContext context v) = presence.accepts content v := by
  have hv := accepts_valueWithContext context content v
  cases presence with
  | required => exact hv
  | optional =>
    cases v with
    | atom a => rw [valueWithContext]
    | node n => simp only [Presence.accepts, hv]; rfl
    | list vs => simp only [Presence.accepts, hv]; rfl
  | many =>
    cases v with
    | atom a => rw [valueWithContext]
    | node n => rfl
    | list vs => exact all_valuesWithContext context content vs

theorem complete_congr (h : gs.map Field.label = fs.map Field.label) :
    complete k gs = complete k fs := by
  have hany (hs : List Field) (l : Label) :
      hs.any (·.label == l) = (hs.map Field.label).any (· == l) := by
    rw [List.any_map]
    rfl
  simp only [complete, hany, h]

theorem Node.Conforms.complete (h : n.Conforms) : complete n.kind n.fields = true := by
  refine List.all_eq_true.mpr fun e he => ?_
  rw [Bool.or_eq_true, beq_iff_eq, List.any_eq_true]
  by_cases hpresence : e.2 = .optional
  · exact .inl hpresence
  · obtain ⟨f, hf, hlabel⟩ := h.present e he hpresence
    exact .inr ⟨f, hf, beq_iff_eq.mpr hlabel⟩

theorem text_valueWithContext (context : Kind) (v : Value) :
    (valueWithContext context v).text = v.text := by
  cases v with
  | atom a => rw [valueWithContext]
  | node n => rw [valueWithContext]; rfl
  | list vs => rw [valueWithContext]; rfl

def isTarget (k : Kind) : Prop :=
  k = .name ∨ k = .tupleLit ∨ k = .listLit ∨ k = .starred ∨ k = .attributeOf ∨ k = .subscript

theorem takesOne_context {k : Kind} (hk : isTarget k) : k.takesOne .context = true := by
  rcases hk with rfl | rfl | rfl | rfl | rfl | rfl <;> rfl

/-! ### Clean nodes -/

/-- The last line that a parse can reach. It is the same throughout a parse, also for the
expressions inside its texts. -/
class LineLimit where
  last : Nat

variable [LineLimit]

def InLimit (line : Int) : Prop := 0 ≤ line ∧ line ≤ LineLimit.last

def Place.Sited (p : Place) : Prop := ∃ line, p.line = some line ∧ InLimit line

structure Clean (n : Node) : Prop where
  sound : n.Sound
  legible : n.Legible LineLimit.last

structure Built (c : Category) (n : Node) : Prop extends Clean n where
  category : n.kind.category = c

/-- A field that a kind has, made of clean nodes. If it holds a name, there is no space in it. -/
structure Suits (k : Kind) (f : Field) : Prop where
  layout : ∃ e ∈ k.layout, e.1 = f.label ∧ e.2.accepts (k.content f.label) f.value = true
  below : ∀ m ∈ f.value.nodes, Clean m
  name : f.label ∈ Node.nameLabels → ' ' ∉ f.value.text.toList

def AllSuit (k : Kind) (fs : List Field) : Prop := ∀ f ∈ fs, Suits k f

theorem clean_mk (hcomplete : complete k fs = true)
    (hline : k.category.hasLine = true → p.line.isSome = true) (hplace : ∀ i ∈ p.line, InLimit i)
    (hchain : k = .compare → ((Value.node (.mk k p fs)).part .operators).items.length =
      ((Value.node (.mk k p fs)).part .comparators).items.length)
    (hsuit : AllSuit k fs) : Clean (.mk k p fs) := by
  have hbelow {m : Node} (hm : m ∈ (Node.mk k p fs).children.flatMap Node.preorder) :
      ∃ child, Clean child ∧ m ∈ child.preorder := by
    obtain ⟨child, hchild, hm⟩ := List.mem_flatMap.mp hm
    obtain ⟨f, hf, hnode⟩ := List.mem_flatMap.mp hchild
    exact ⟨child, (hsuit f hf).below child hnode, hm⟩
  refine ⟨fun m hm => ?_, fun m hm => ?_, fun m hm => ?_⟩
  all_goals
    rw [Lint.preorder_eq] at hm
    rcases List.mem_cons.mp hm with rfl | hm
  · exact conforms_mk hcomplete hline hchain fun f hf => (hsuit f hf).layout
  · obtain ⟨child, hchild, hm⟩ := hbelow hm
    exact hchild.sound m hm
  · exact fun f hf => (hsuit f hf).name
  · obtain ⟨child, hchild, hm⟩ := hbelow hm
    exact hchild.legible.names m hm
  · exact hplace
  · obtain ⟨child, hchild, hm⟩ := hbelow hm
    exact hchild.legible.lines m hm

theorem built_sited (hcategory : k.category = c) (hcomplete : complete k fs = true) (hp : p.Sited)
    (hchain : k = .compare → ((Value.node (.mk k p fs)).part .operators).items.length =
      ((Value.node (.mk k p fs)).part .comparators).items.length)
    (hsuit : AllSuit k fs) : Built c (build k fs p) := by
  obtain ⟨line, hline, hlimit⟩ := hp
  refine ⟨clean_mk hcomplete (fun _ => by rw [hline]; rfl) (fun i hi => ?_) hchain hsuit, hcategory⟩
  rw [hline] at hi
  exact Option.some.inj hi ▸ hlimit

theorem built_build (hcategory : k.category = c) (hcomplete : complete k fs = true)
    (hkind : (k == .compare) = false) (hp : p.Sited) (hsuit : AllSuit k fs) :
    Built c (build k fs p) :=
  built_sited hcategory hcomplete hp (fun h => absurd (beq_iff_eq.mpr h) (by simp [hkind])) hsuit

theorem built_part (hcategory : k.category = c) (hcomplete : complete k fs = true)
    (hline : c.hasLine = false) (hkind : (k == .compare) = false) (hsuit : AllSuit k fs) :
    Built c (.mk k {} fs) :=
  ⟨clean_mk hcomplete (fun h => absurd ((hcategory ▸ hline).symm.trans h) Bool.false_ne_true) nofun
    (fun h => absurd (beq_iff_eq.mpr h) (by simp [hkind])) hsuit, hcategory⟩

theorem allSuit_nil : AllSuit k [] := fun _ hf => absurd hf List.not_mem_nil

theorem Suits.cons (hf : Suits k f) (hfs : AllSuit k fs) : AllSuit k (f :: fs) :=
  List.forall_mem_cons.mpr ⟨hf, hfs⟩

theorem Suits.only (hf : Suits k f) : AllSuit k [f] := hf.cons allSuit_nil

theorem AllSuit.append (hfs : AllSuit k fs) (hgs : AllSuit k gs) : AllSuit k (fs ++ gs) :=
  List.forall_mem_append.mpr ⟨hfs, hgs⟩

theorem built_bare (hcategory : k.category = c) (hlayout : k.layout = [])
    (hline : c.hasLine = false) (hkind : (k == .compare) = false) : Built c (bare k) :=
  built_part hcategory (by rw [complete, hlayout]; rfl) hline hkind allSuit_nil

/-! ### Fields -/

theorem suits_one {v : Value} (hl : k.takesOne l = true) (haccepts : (k.content l).accepts v = true)
    (hbelow : ∀ m ∈ v.nodes, Clean m) (hname : l ∈ Node.nameLabels → ' ' ∉ v.text.toList) :
    Suits k (.mk l v) := by
  obtain ⟨e, he, htest⟩ := List.any_eq_true.mp hl
  obtain ⟨hlabel, hpresence⟩ := Bool.and_eq_true_iff.mp htest
  refine ⟨⟨e, he, beq_iff_eq.mp hlabel, ?_⟩, hbelow, hname⟩
  cases hp : e.2 with
  | required => exact haccepts
  | optional => exact Bool.or_eq_true_iff.mpr (.inr haccepts)
  | many =>
    rw [hp] at hpresence
    cases hpresence

theorem suits_many {vs : List Value} (hl : k.takesMany l = true)
    (haccepts : ∀ v ∈ vs, (k.content l).accepts v = true)
    (hbelow : ∀ v ∈ vs, ∀ m ∈ v.nodes, Clean m) : Suits k (.mk l (.list vs)) := by
  obtain ⟨e, he, htest⟩ := List.any_eq_true.mp hl
  obtain ⟨hlabel, hpresence⟩ := Bool.and_eq_true_iff.mp htest
  refine ⟨⟨e, he, beq_iff_eq.mp hlabel, ?_⟩, fun m hm => ?_, fun _ => List.not_mem_nil⟩
  · rw [beq_iff_eq.mp hpresence]
    exact List.all_eq_true.mpr haccepts
  · obtain ⟨v, hv, hnode⟩ := List.mem_filterMap.mp hm
    cases v with
    | node m' =>
      cases hnode
      exact hbelow _ hv m (List.mem_singleton.mpr rfl)
    | atom a => cases hnode
    | list vs => cases hnode

theorem suits_node (hl : k.takesOne l = true) (hcontent : k.content l = .node c) (hn : Built c n) :
    Suits k (nodeField l n) := by
  refine suits_one hl ?_ (fun m hm => ?_) fun _ => List.not_mem_nil
  · rw [hcontent]
    exact beq_iff_eq.mpr hn.category
  · rw [List.mem_singleton.mp hm]
    exact hn.toClean

theorem suits_list (hl : k.takesMany l = true) (hcontent : k.content l = .node c)
    (hns : ∀ n ∈ ns, Built c n) : Suits k (listField l ns) := by
  refine suits_many hl (fun v hv => ?_) fun v hv m hm => ?_
  · obtain ⟨n, hn, rfl⟩ := List.mem_map.mp hv
    rw [hcontent]
    exact beq_iff_eq.mpr (hns n hn).category
  · obtain ⟨n, hn, rfl⟩ := List.mem_map.mp hv
    rw [List.mem_singleton.mp hm]
    exact (hns n hn).toClean

theorem suits_gaps {vs : List Value} (hl : k.takesMany l = true)
    (hcontent : k.content l = .nodeOrNone c)
    (hvs : ∀ v ∈ vs, v = .atom .none ∨ ∃ n, v = .node n ∧ Built c n) :
    Suits k (.mk l (.list vs)) := by
  refine suits_many hl (fun v hv => ?_) fun v hv m hm => ?_
  · rw [hcontent]
    rcases hvs v hv with rfl | ⟨n, rfl, hn⟩
    · rfl
    · exact beq_iff_eq.mpr hn.category
  · rcases hvs v hv with rfl | ⟨n, rfl, hn⟩
    · cases hm
    · rw [List.mem_singleton.mp hm]
      exact hn.toClean

theorem suits_text (hl : k.takesOne l = true) (hcontent : k.content l = .text) {s : String}
    (hs : l ∈ Node.nameLabels → ' ' ∉ s.toList) : Suits k (textField l s) :=
  suits_one hl (by rw [hcontent]; rfl) nofun hs

theorem suits_texts (hl : k.takesMany l = true) (hcontent : k.content l = .text)
    {α : Type} (xs : List α) (g : α → String) :
    Suits k (.mk l (.list (xs.map fun x => .atom (.str (g x))))) := by
  refine suits_many hl (fun v hv => ?_) fun v hv m hm => ?_
  · obtain ⟨x, -, rfl⟩ := List.mem_map.mp hv
    rw [hcontent]
    rfl
  · obtain ⟨x, -, rfl⟩ := List.mem_map.mp hv
    cases hm

theorem suits_number (hl : k.takesOne l = true) (hcontent : k.content l = .number) (i : Int) :
    Suits k (atomField l (.int i)) :=
  suits_one hl (by rw [hcontent]; rfl) nofun fun _ => List.not_mem_nil

theorem suits_plain (hl : k.takesOne l = true) (hcontent : k.content l = .plain)
    (hother : l ∉ Node.nameLabels) (a : Atom) : Suits k (atomField l a) :=
  suits_one hl (by rw [hcontent]; rfl) nofun fun hname => absurd hname hother

theorem suits_optional (hl : k.takesOne l = true) (hcontent : k.content l = .node c)
    (ho : ∀ n ∈ o, Built c n) : AllSuit k (optionalField l o) := by
  cases o with
  | none => exact allSuit_nil
  | some n => exact (suits_node hl hcontent (ho n rfl)).only

theorem suits_optionalText (hl : k.takesOne l = true) (hcontent : k.content l = .text)
    {o : Option String} (ho : l ∈ Node.nameLabels → ∀ s ∈ o, ' ' ∉ s.toList) :
    AllSuit k (optionalText l o) := by
  cases o with
  | none => exact allSuit_nil
  | some s => exact (suits_text hl hcontent fun hl => ho hl s rfl).only

/-! ### Nodes that several rules build -/

theorem built_load : Built .context (bare .load) := built_bare rfl rfl rfl rfl

theorem built_store : Built .context (bare .store) := built_bare rfl rfl rfl rfl

theorem built_del : Built .context (bare .del) := built_bare rfl rfl rfl rfl

theorem built_nameNode (hcontext : Built .context (bare context)) {t : Token}
    (hp : (placeOf t).Sited) (ht : ' ' ∉ (nameText t).toList) :
    Built .expression (nameNode context t) :=
  built_build rfl rfl rfl hp
    ((suits_text rfl rfl fun _ => ht).cons (suits_node rfl rfl hcontext).only)

theorem built_constant (a : Atom) (hp : p.Sited) :
    Built .expression (constantNode a p) :=
  built_build rfl rfl rfl hp (suits_plain rfl rfl (by decide) a).only

theorem built_tuple (hcontext : Built .context (bare context)) (hns : ∀ n ∈ ns, Built .expression n)
    (hp : p.Sited) : Built .expression (tupleOf context ns p) :=
  built_build rfl rfl rfl hp ((suits_list rfl rfl hns).cons (suits_node rfl rfl hcontext).only)

theorem built_listLit (hcontext : Built .context (bare context))
    (hns : ∀ n ∈ ns, Built .expression n) (hp : p.Sited) :
    Built .expression (listOf context ns p) :=
  built_build rfl rfl rfl hp ((suits_list rfl rfl hns).cons (suits_node rfl rfl hcontext).only)

theorem built_starred (hcontext : Built .context (bare context)) (hn : Built .expression n)
    (hp : p.Sited) : Built .expression (starredOf context n p) :=
  built_build rfl rfl rfl hp ((suits_node rfl rfl hn).cons (suits_node rfl rfl hcontext).only)

theorem built_attribute (hcontext : Built .context (bare context)) (hn : Built .expression n)
    (t : Token) (hp : p.Sited) : Built .expression (attributeNode context n t p) :=
  built_build rfl rfl rfl hp ((suits_node rfl rfl hn).cons
    ((suits_text rfl rfl fun h => absurd h (by decide)).cons (suits_node rfl rfl hcontext).only))

theorem built_subscript {slice : Node} (hcontext : Built .context (bare context))
    (hn : Built .expression n) (hslice : Built .expression slice) (hp : p.Sited) :
    Built .expression (subscriptNode context n slice p) :=
  built_build rfl rfl rfl hp ((suits_node rfl rfl hn).cons
    ((suits_node rfl rfl hslice).cons (suits_node rfl rfl hcontext).only))

theorem built_call {args keywords : List Node} (hn : Built .expression n)
    (hargs : ∀ m ∈ args, Built .expression m) (hkeywords : ∀ m ∈ keywords, Built .keyword m)
    (hp : p.Sited) : Built .expression (callNode n args keywords p) :=
  built_build rfl rfl rfl hp ((suits_node rfl rfl hn).cons
    ((suits_list rfl rfl hargs).cons (suits_list rfl rfl hkeywords).only))

theorem built_program (hns : ∀ n ∈ ns, Built .statement n) :
    Built .module (.mk .program {} [listField .body ns, listField .ignoredTypes []]) :=
  built_part rfl rfl rfl rfl ((suits_list rfl rfl hns).cons
    (suits_list rfl rfl fun _ hn => absurd hn List.not_mem_nil).only)

/-! ### Expressions read as targets -/

theorem Clean.suit {k : Kind} {p : Place} {fs : List Field} (h : Clean (.mk k p fs)) :
    AllSuit k fs := by
  refine fun f hf => ⟨h.sound.conforms.fields f hf, fun m hm => ?_, ?_⟩
  · have hchild : m ∈ (Node.mk k p fs).children := List.mem_flatMap.mpr ⟨f, hf, hm⟩
    have hbelow {m' : Node} (hm' : m' ∈ m.preorder) := Lint.mem_preorder_of_child hchild hm'
    exact ⟨h.sound.child hchild, fun m' hm' => h.legible.names m' (hbelow hm'),
      fun m' hm' => h.legible.lines m' (hbelow hm')⟩
  · exact h.legible.names _ (Lint.mem_preorder_self _) f hf

mutual
theorem withContext_clean (hcontext : Built .context (bare context)) :
    ∀ n : Node, Clean n → Clean (withContext context n)
  | .mk k p fs, h => by
    rw [withContext]
    split
    · next hk =>
      have hself := h.sound.conforms
      have hsuit : AllSuit k (fieldsWithContext context k fs) :=
        fieldsWithContext_suit hcontext hk fs h.suit
      have hcomplete : complete k (fieldsWithContext context k fs) = true := by
        rw [complete_congr (label_fieldsWithContext k fs)]
        exact hself.complete
      refine clean_mk hcomplete hself.line (h.legible.lines _ (Lint.mem_preorder_self _))
        (fun hcompare => ?_) hsuit
      rcases hk with rfl | rfl | rfl | rfl | rfl | rfl <;> cases hcompare
    · exact h
theorem fieldsWithContext_suit (hcontext : Built .context (bare context)) {k : Kind}
    (hk : isTarget k) : ∀ fs, AllSuit k fs → AllSuit k (fieldsWithContext context k fs)
  | [], _ => allSuit_nil
  | .mk l v :: fs, h => by
    obtain ⟨hf, hfs⟩ := List.forall_mem_cons.mp h
    have hrest := fieldsWithContext_suit hcontext hk fs hfs
    rw [fieldsWithContext]
    split
    · next hl =>
      subst hl
      exact (suits_node (takesOne_context hk) rfl hcontext).cons hrest
    · split
      · obtain ⟨e, he, hlabel, haccepts⟩ := hf.layout
        refine Suits.cons ⟨⟨e, he, hlabel, ?_⟩, ?_, fun hl => ?_⟩ hrest
        · exact (presence_valueWithContext context _ e.2 v).trans haccepts
        · exact valueWithContext_clean hcontext v hf.below
        · rw [Field.value, text_valueWithContext]
          exact hf.name hl
      · exact hf.cons hrest
theorem valueWithContext_clean (hcontext : Built .context (bare context)) :
    ∀ v : Value, (∀ m ∈ v.nodes, Clean m) → ∀ m ∈ (valueWithContext context v).nodes, Clean m
  | .atom a, _ => nofun
  | .node n, h => by
    intro m hm
    rw [List.mem_singleton.mp hm]
    exact withContext_clean hcontext n (h n (List.mem_singleton.mpr rfl))
  | .list vs, h => valuesWithContext_clean hcontext vs h
theorem valuesWithContext_clean (hcontext : Built .context (bare context)) :
    ∀ vs : List Value, (∀ m ∈ (Value.list vs).nodes, Clean m) →
      ∀ m ∈ (Value.list (valuesWithContext context vs)).nodes, Clean m
  | [], _ => nofun
  | .node n :: vs, h => by
    obtain ⟨hn, hvs⟩ := List.forall_mem_cons.mp h
    exact List.forall_mem_cons.mpr
      ⟨withContext_clean hcontext n hn, valuesWithContext_clean hcontext vs hvs⟩
  | .atom a :: vs, h => valuesWithContext_clean hcontext vs h
  | .list us :: vs, h => valuesWithContext_clean hcontext vs h
end

theorem built_withContext (hcontext : Built .context (bare context)) (hn : Built c n) :
    Built c (withContext context n) :=
  ⟨withContext_clean hcontext n hn.toClean,
    (congrArg Kind.category (withContext_kind n)).trans hn.category⟩

end CodeLint.Tree
