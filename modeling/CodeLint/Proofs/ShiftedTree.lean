import CodeLint.Proofs.Effect
import CodeLint.Proofs.WellFormed

/-!
Trees that stand some lines further down. Shifting adds a number to every line of a tree, also where
a line is written in a field. The shape of the tree and all names in it stay as they are, so reading
a part of a shifted tree gives the part shifted.
-/

namespace CodeLint.Tree

def shiftLine (k : Int) (line : Option Int) : Option Int := line.map (· + k)

def Place.shift (k : Int) (p : Place) : Place := { p with line := shiftLine k p.line }

def Value.shiftNumber (k : Int) : Value → Value
  | .atom (.int i) => .atom (.int (i + k))
  | v => v

mutual
def Node.shift (k : Int) : Node → Node
  | .mk kind place fields => .mk kind (place.shift k) (Field.shiftAll k fields)
def Field.shiftAll (k : Int) : List Field → List Field
  | [] => []
  | .mk l v :: fs =>
    .mk l (if l = .lineNumber then (v.shift k).shiftNumber k else v.shift k) :: Field.shiftAll k fs
def Value.shift (k : Int) : Value → Value
  | .atom a => .atom a
  | .node n => .node (n.shift k)
  | .list vs => .list (Value.shiftAll k vs)
def Value.shiftAll (k : Int) : List Value → List Value
  | [] => []
  | v :: vs => v.shift k :: Value.shiftAll k vs
end

def Field.shift (k : Int) : Field → Field
  | .mk l v => .mk l (if l = .lineNumber then (v.shift k).shiftNumber k else v.shift k)

variable {k : Int} {n : Node} {v : Value} {l : Label}

theorem Field.shiftAll_eq (fs : List Field) : Field.shiftAll k fs = fs.map (Field.shift k) := by
  induction fs with
  | nil => rfl
  | cons f fs ih =>
    cases f with
    | mk l v => rw [Field.shiftAll, ih]; rfl

theorem Value.shiftAll_eq (vs : List Value) : Value.shiftAll k vs = vs.map (Value.shift k) := by
  induction vs with
  | nil => rfl
  | cons v vs ih => rw [Value.shiftAll, ih]; rfl

@[simp] theorem Field.label_shift (f : Field) : (f.shift k).label = f.label := by
  cases f; rfl

@[simp] theorem Node.kind_shift (n : Node) : (n.shift k).kind = n.kind := by
  cases n; rw [Node.shift]; rfl

@[simp] theorem Node.line?_shift (n : Node) : (n.shift k).line? = shiftLine k n.line? := by
  cases n; rw [Node.shift]; rfl

theorem Node.fields_shift (n : Node) : (n.shift k).fields = n.fields.map (Field.shift k) := by
  cases n
  rw [Node.shift, Field.shiftAll_eq]
  rfl

@[simp] theorem Value.shift_atom (a : Atom) : (Value.atom a).shift k = .atom a := by
  rw [Value.shift]

@[simp] theorem Value.shift_node (n : Node) : (Value.node n).shift k = .node (n.shift k) := by
  rw [Value.shift]

@[simp] theorem Value.shift_list (vs : List Value) :
    (Value.list vs).shift k = .list (vs.map (Value.shift k)) := by
  rw [Value.shift, Value.shiftAll_eq]

/-! ### Reading a shifted tree -/

theorem Node.get?_shift (n : Node) (hl : l ≠ .lineNumber) :
    (n.shift k).get? l = (n.get? l).map (Value.shift k) := by
  have hlabel : (fun f : Field => f.label == l) ∘ Field.shift k = fun f => f.label == l := by
    funext f
    simp
  simp only [Node.get?, Node.fields_shift, Node.kind_shift, List.find?_map, hlabel]
  cases hfind : n.fields.find? (·.label == l) with
  | some f =>
    have hf : f.label = l :=
      beq_iff_eq.mp (List.find?_some (p := fun f : Field => f.label == l) hfind)
    cases f with
    | mk l' v =>
      have hne : l' ≠ .lineNumber := fun h => hl (hf.symm.trans h)
      simp [Field.shift, Field.value, hne]
  | none =>
    simp only [Option.map_none]
    split <;> simp

theorem Value.part_shift (v : Value) (hl : l ≠ .lineNumber) :
    (v.shift k).part l = (v.part l).shift k := by
  cases v with
  | node n =>
    simp only [Value.shift_node, Value.part, Value.part?, Node.get?_shift n hl]
    cases n.get? l <;> simp
  | atom a => simp [Value.part, Value.part?]
  | list vs => simp [Value.part, Value.part?]

@[simp] theorem Value.isKind_shift (v : Value) (kind : Kind) :
    (v.shift k).isKind kind = v.isKind kind := by
  cases v <;> simp [Value.isKind]

@[simp] theorem Value.isKindIn_shift (v : Value) (kinds : List Kind) :
    (v.shift k).isKindIn kinds = v.isKindIn kinds := by
  cases v <;> simp [Value.isKindIn]

@[simp] theorem Value.isNone_shift (v : Value) : (v.shift k).isNone = v.isNone := by
  cases v <;> simp [Value.isNone]

@[simp] theorem Value.isFalsy_shift (v : Value) : (v.shift k).isFalsy = v.isFalsy := by
  cases v <;> simp [Value.isFalsy]

@[simp] theorem Value.isText_shift (v : Value) : (v.shift k).isText = v.isText := by
  cases v <;> simp [Value.isText]

@[simp] theorem Value.text_shift (v : Value) : (v.shift k).text = v.text := by
  cases v <;> simp [Value.text]

@[simp] theorem Value.line_shift (v : Value) : (v.shift k).line = shiftLine k v.line := by
  cases v <;> simp [Value.line, shiftLine]

@[simp] theorem Value.members_shift (v : Value) :
    (v.shift k).members = v.members.map (Value.shift k) := by
  cases v with
  | atom a => cases a <;> simp [Value.members]
  | node n => simp [Value.members]
  | list vs => simp [Value.members]

@[simp] theorem Value.items_shift (v : Value) :
    (v.shift k).items = v.items.map (Value.shift k) := by
  cases v <;> simp [Value.items]

@[simp] theorem Value.item_shift (v : Value) (i : Nat) :
    (v.shift k).item i = (v.item i).shift k := by
  simp only [Value.item, Value.items_shift, List.getD_eq_getElem?_getD, List.getElem?_map]
  cases v.items[i]? <;> simp

@[simp] theorem Value.nodes_shift (v : Value) :
    (v.shift k).nodes = v.nodes.map (Node.shift k) := by
  cases v with
  | atom a => simp [Value.nodes]
  | node n => simp [Value.nodes]
  | list vs =>
    simp only [Value.shift_list, Value.nodes, List.filterMap_map, List.map_filterMap]
    congr 1
    funext v
    cases v <;> simp [Value.node?]

theorem Value.membersAt_shift (v : Value) (hl : l ≠ .lineNumber) :
    (v.shift k).membersAt l = (v.membersAt l).map (Value.shift k) := by
  rw [Value.membersAt, Value.part_shift v hl, Value.members_shift, Value.membersAt]

theorem Value.textAt_shift (v : Value) (hl : l ≠ .lineNumber) :
    (v.shift k).textAt l = v.textAt l := by
  rw [Value.textAt, Value.part_shift v hl, Value.text_shift, Value.textAt]

/-! ### Nodes below -/

theorem Value.nodes_shiftNumber (v : Value) : (v.shiftNumber k).nodes = v.nodes := by
  unfold Value.shiftNumber
  split <;> rfl

theorem Field.nodes_shift (f : Field) :
    (f.shift k).value.nodes = f.value.nodes.map (Node.shift k) := by
  cases f with
  | mk l v =>
    simp only [Field.shift, Field.value]
    split
    · rw [Value.nodes_shiftNumber, Value.nodes_shift]
    · exact Value.nodes_shift v

theorem Node.children_shift (n : Node) : (n.shift k).children = n.children.map (Node.shift k) := by
  rw [Node.children, Node.fields_shift, Node.children, List.flatMap_map, List.map_flatMap]
  simp only [Field.nodes_shift]

theorem Node.branches_shift (n : Node) : (n.shift k).branches = n.branches.map (Node.shift k) := by
  rw [Node.branches, Node.branches, Node.kind_shift, Node.children_shift]
  split <;> rfl

theorem Node.preorder_shift (n : Node) : (n.shift k).preorder = n.preorder.map (Node.shift k) := by
  induction n using Lint.child_induction with
  | step n ih =>
    have hbelow : n.children.map (fun c => (c.shift k).preorder) =
        n.children.map (fun c => c.preorder.map (Node.shift k)) := List.map_congr_left ih
    rw [Lint.preorder_eq, Lint.preorder_eq n, Node.children_shift, List.map_cons, List.flatMap_map,
      List.map_flatMap, List.flatMap_def, List.flatMap_def, hbelow]

@[simp] theorem Node.contains_shift (n : Node) (kind : Kind) :
    (n.shift k).contains kind = n.contains kind := by
  rw [Node.contains, Node.preorder_shift, List.any_map]
  simp [Node.contains, Function.comp_def]

/-! ### The shape of a shifted tree -/

theorem Content.accepts_shift (c : Content) (v : Value) : c.accepts (v.shift k) = c.accepts v := by
  cases v with
  | atom a => rw [Value.shift_atom]
  | node n => cases c <;> simp [Content.accepts]
  | list vs => rw [Value.shift_list, accepts_list, accepts_list]

theorem Content.accepts_shiftNumber (c : Content) (v : Value) :
    c.accepts (v.shiftNumber k) = c.accepts v := by
  unfold Value.shiftNumber
  split
  · cases c <;> rfl
  · rfl

theorem Presence.accepts_shift (c : Content) (p : Presence) (v : Value) :
    p.accepts c (v.shift k) = p.accepts c v := by
  cases p with
  | required => exact Content.accepts_shift c v
  | optional => simp only [Presence.accepts, Value.isNone_shift, Content.accepts_shift]
  | many =>
    cases v with
    | list vs =>
      simp [Presence.accepts, List.all_map, Function.comp_def, Content.accepts_shift]
    | atom a => simp
    | node n => simp [Presence.accepts]

theorem Presence.accepts_shiftNumber (c : Content) (p : Presence) (v : Value) :
    p.accepts c (v.shiftNumber k) = p.accepts c v := by
  have hnumber := Content.accepts_shiftNumber (k := k) c v
  unfold Value.shiftNumber at hnumber ⊢
  split at hnumber
  · cases p with
    | required => exact hnumber
    | optional => simp only [Presence.accepts, hnumber]; rfl
    | many => rfl
  · rfl

theorem Node.Conforms.shift (h : n.Conforms) : (n.shift k).Conforms where
  fields f hf := by
    rw [Node.fields_shift] at hf
    obtain ⟨g, hg, rfl⟩ := List.mem_map.mp hf
    obtain ⟨e, he, hlabel, haccepts⟩ := h.fields g hg
    refine ⟨e, by rwa [Node.kind_shift], by rw [hlabel, Field.label_shift], ?_⟩
    rw [Node.kind_shift, Field.label_shift]
    cases g with
    | mk l v =>
      simp only [Field.shift, Field.value]
      split
      · rw [Presence.accepts_shiftNumber, Presence.accepts_shift]
        exact haccepts
      · rw [Presence.accepts_shift]
        exact haccepts
  present e he hp := by
    rw [Node.kind_shift] at he
    obtain ⟨f, hf, hlabel⟩ := h.present e he hp
    refine ⟨f.shift k, ?_, by rw [Field.label_shift, hlabel]⟩
    rw [Node.fields_shift]
    exact List.mem_map_of_mem hf
  line hl := by
    rw [Node.kind_shift] at hl
    rw [Node.line?_shift, shiftLine, Option.isSome_map]
    exact h.line hl
  chain hk := by
    rw [Node.kind_shift] at hk
    rw [← Value.shift_node, Value.part_shift _ (by decide), Value.part_shift _ (by decide),
      Value.items_shift, Value.items_shift, List.length_map, List.length_map]
    exact h.chain hk

theorem Node.WellFormed.shift (h : n.WellFormed) (k : Int) : (n.shift k).WellFormed := by
  refine ⟨by rw [Node.kind_shift, h.1], fun m hm => ?_⟩
  rw [Node.preorder_shift] at hm
  obtain ⟨c, hc, rfl⟩ := List.mem_map.mp hm
  exact (h.2 c hc).shift

end CodeLint.Tree
