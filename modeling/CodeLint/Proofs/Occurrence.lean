import CodeLint.Proofs.Names

/-!
Where the nodes of a tree stand. A position lists the child numbers on the way down from the root,
so one node may occur at several positions. `visited` gives the occurrences that a traversal
enters, parents before their children and children in order; each knows the spots above it. A
traversal does not go below a global or nonlocal statement, which holds nothing but names.
-/

namespace CodeLint.Lint

open CodeLint.Tree

structure Spot where
  position : List Nat
  node : Node

/-- A node of a tree at its position, with the spots above it, innermost first. -/
structure Occurrence extends Spot where
  above : List Spot

def Spot.link (s : Spot) : Link := ⟨s.node, none⟩

mutual
def visited (above : List Spot) (position : List Nat) : Node → List Occurrence
  | .mk kind place fields =>
    ⟨⟨position, .mk kind place fields⟩, above⟩ ::
      if descends kind then
        visitedFields (⟨position, .mk kind place fields⟩ :: above) position 0 fields
      else []
def visitedFields (above : List Spot) (position : List Nat) (k : Nat) :
    List Field → List Occurrence
  | [] => []
  | .mk _ v :: fs =>
    visitedValue above position k v ++ visitedFields above position (k + v.nodes.length) fs
def visitedValue (above : List Spot) (position : List Nat) (k : Nat) : Value → List Occurrence
  | .atom _ => []
  | .node n => visited above (position ++ [k]) n
  | .list vs => visitedEach above position k vs
def visitedEach (above : List Spot) (position : List Nat) (k : Nat) :
    List Value → List Occurrence
  | [] => []
  | .node n :: vs =>
    visited above (position ++ [k]) n ++ visitedEach above position (k + 1) vs
  | _ :: vs => visitedEach above position k vs
end

end CodeLint.Lint

namespace CodeLint.Tree.Node

open CodeLint.Lint

def occurrences (n : Node) : List Occurrence := visited [] [] n

def branches (n : Node) : List Node := if descends n.kind then n.children else []

def Reaches (n : Node) (k : Kind) : Prop := ∃ o ∈ n.occurrences, o.node.kind = k

instance (n : Node) (k : Kind) : Decidable (n.Reaches k) :=
  inferInstanceAs (Decidable (∃ o ∈ n.occurrences, o.node.kind = k))

def Plain (n : Node) : Prop := ∀ m ∈ n.preorder, descends m.kind = false → m.children.isEmpty = true

instance (n : Node) : Decidable n.Plain :=
  inferInstanceAs (Decidable (∀ m ∈ n.preorder, _))

end CodeLint.Tree.Node

namespace CodeLint.Lint

open CodeLint.Tree

def visitedIn (above : List Spot) (position : List Nat) (k : Nat) : List Node → List Occurrence
  | [] => []
  | c :: cs => visited above (position ++ [k]) c ++ visitedIn above position (k + 1) cs

variable {above : List Spot} {p q r : List Nat} {k : Nat} {n : Node}

theorem visitedIn_append (above : List Spot) (p : List Nat) (k : Nat) (cs ds : List Node) :
    visitedIn above p k (cs ++ ds) =
      visitedIn above p k cs ++ visitedIn above p (k + cs.length) ds := by
  induction cs generalizing k with
  | nil => rfl
  | cons c cs ih =>
    rw [List.cons_append, visitedIn, visitedIn, ih (k + 1), List.append_assoc, List.length_cons,
      Nat.add_right_comm, Nat.add_assoc]

theorem visitedEach_eq (above : List Spot) (p : List Nat) (k : Nat) (vs : List Value) :
    visitedEach above p k vs = visitedIn above p k (vs.filterMap Value.node?) := by
  induction vs generalizing k with
  | nil => rfl
  | cons v vs ih =>
    cases v with
    | node n =>
      rw [visitedEach, ih (k + 1)]
      rfl
    | atom c =>
      rw [visitedEach, ih k]
      · rfl
      · simp
    | list us =>
      rw [visitedEach, ih k]
      · rfl
      · simp

theorem visitedValue_eq (above : List Spot) (p : List Nat) (k : Nat) (v : Value) :
    visitedValue above p k v = visitedIn above p k v.nodes := by
  cases v with
  | atom c => rfl
  | node n =>
    rw [visitedValue, Value.nodes, visitedIn, visitedIn, List.append_nil]
  | list vs =>
    rw [visitedValue, visitedEach_eq]
    rfl

theorem visitedFields_eq (above : List Spot) (p : List Nat) (k : Nat) (fs : List Field) :
    visitedFields above p k fs = visitedIn above p k (fs.flatMap (·.value.nodes)) := by
  induction fs generalizing k with
  | nil => rfl
  | cons f fs ih =>
    cases f with
    | mk l v =>
      rw [visitedFields, visitedValue_eq, ih, List.flatMap_cons, visitedIn_append]
      rfl

theorem visited_eq (above : List Spot) (p : List Nat) (n : Node) :
    visited above p n = ⟨⟨p, n⟩, above⟩ :: visitedIn (⟨p, n⟩ :: above) p 0 n.branches := by
  cases n with
  | mk kind place fields =>
    rw [visited, Node.branches, Node.kind]
    split
    · rw [visitedFields_eq]
      rfl
    · rfl

-- A node is reached through lists of fields and of values, so the induction on a tree is carried
-- out once for all of them and then used as an induction on children.
mutual
theorem child_induction {P : Node → Prop} (step : ∀ n, (∀ c ∈ n.children, P c) → P n) :
    ∀ n, P n
  | .mk kind place fields => step (.mk kind place fields) (child_induction_fields step fields)
theorem child_induction_fields {P : Node → Prop} (step : ∀ n, (∀ c ∈ n.children, P c) → P n) :
    ∀ fs : List Field, ∀ c ∈ fs.flatMap (·.value.nodes), P c
  | [] => by simp
  | .mk l v :: fs => by
    intro c hc
    rcases List.mem_append.mp hc with hv | hfs
    · exact child_induction_value step v c hv
    · exact child_induction_fields step fs c hfs
theorem child_induction_value {P : Node → Prop} (step : ∀ n, (∀ c ∈ n.children, P c) → P n) :
    ∀ v : Value, ∀ c ∈ v.nodes, P c
  | .atom _ => by simp [Value.nodes]
  | .node n => by
    intro c hc
    rw [List.mem_singleton.mp hc]
    exact child_induction step n
  | .list vs => child_induction_each step vs
theorem child_induction_each {P : Node → Prop} (step : ∀ n, (∀ c ∈ n.children, P c) → P n) :
    ∀ vs : List Value, ∀ c ∈ vs.filterMap Value.node?, P c
  | [] => by simp
  | .node n :: vs => by
    intro c hc
    rcases List.mem_cons.mp hc with hn | hvs
    · rw [hn]
      exact child_induction step n
    · exact child_induction_each step vs c hvs
  | .atom _ :: vs => child_induction_each step vs
  | .list _ :: vs => child_induction_each step vs
end

theorem branches_subset {c : Node} (hc : c ∈ n.branches) : c ∈ n.children := by
  unfold Node.branches at hc
  split at hc
  · exact hc
  · cases hc

theorem branch_induction {P : Node → Prop} (step : ∀ n, (∀ c ∈ n.branches, P c) → P n) (n : Node) :
    P n :=
  child_induction (fun n ih => step n fun c hc => ih c (branches_subset hc)) n

theorem mem_visitedIn {o : Occurrence} {cs : List Node} :
    o ∈ visitedIn above p k cs ↔
      ∃ i c, cs[i]? = some c ∧ o ∈ visited above (p ++ [k + i]) c := by
  induction cs generalizing k with
  | nil => simp [visitedIn]
  | cons c cs ih =>
    rw [visitedIn, List.mem_append, ih]
    constructor
    · rintro (h | ⟨i, d, hd, h⟩)
      · exact ⟨0, c, rfl, h⟩
      · exact ⟨i + 1, d, hd, by rwa [Nat.add_assoc, Nat.add_comm 1] at h⟩
    · rintro ⟨i, d, hd, h⟩
      cases i with
      | zero =>
        cases hd
        exact Or.inl h
      | succ i =>
        exact Or.inr ⟨i, d, hd, by rwa [Nat.add_assoc, Nat.add_comm 1]⟩

theorem mem_visited {o : Occurrence} :
    o ∈ visited above p n ↔ o = ⟨⟨p, n⟩, above⟩ ∨
      ∃ i c, n.branches[i]? = some c ∧ o ∈ visited (⟨p, n⟩ :: above) (p ++ [i]) c := by
  rw [visited_eq, List.mem_cons, mem_visitedIn]
  simp only [Nat.zero_add]

theorem visited_induction {P : List Spot → List Nat → Node → Occurrence → Prop}
    (here : ∀ above p n, P above p n ⟨⟨p, n⟩, above⟩)
    (down : ∀ above p n i c o, n.branches[i]? = some c →
      P (⟨p, n⟩ :: above) (p ++ [i]) c o → P above p n o)
    {o : Occurrence} (h : o ∈ visited above p n) : P above p n o := by
  induction n using branch_induction generalizing above p with
  | step n ih =>
    rcases mem_visited.mp h with rfl | ⟨i, c, hc, h⟩
    · exact here above p n
    · exact down above p n i c o hc (ih c (List.mem_of_getElem? hc) h)

/-! ### The nodes that a traversal enters -/

theorem visitedIn_nodes {cs : List Node}
    (hcs : ∀ c ∈ cs, ∀ above p, (visited above p c).map (·.node) = c.occurrences.map (·.node)) :
    (visitedIn above p k cs).map (·.node) = cs.flatMap (·.occurrences.map (·.node)) := by
  induction cs generalizing k with
  | nil => rfl
  | cons c cs ih =>
    rw [visitedIn, List.map_append, hcs c List.mem_cons_self,
      ih fun d hd => hcs d (List.mem_cons_of_mem c hd), List.flatMap_cons]

/-- Which nodes are entered does not depend on where the tree stands. -/
theorem visited_nodes (above : List Spot) (p : List Nat) (n : Node) :
    (visited above p n).map (·.node) = n.occurrences.map (·.node) := by
  induction n using branch_induction generalizing above p with
  | step n ih =>
    have hbelow : ∀ c ∈ n.branches, ∀ above p,
        (visited above p c).map (·.node) = c.occurrences.map (·.node) :=
      fun c hc above p => ih c hc above p
    rw [Node.occurrences, visited_eq above, visited_eq [], List.map_cons, List.map_cons,
      visitedIn_nodes hbelow, visitedIn_nodes hbelow]

theorem reaches_iff_visited {k : Kind} (above : List Spot) (p : List Nat) (n : Node) :
    n.Reaches k ↔ ∃ o ∈ visited above p n, o.node.kind = k := by
  have hnodes := visited_nodes above p n
  constructor
  · rintro ⟨o, ho, hk⟩
    obtain ⟨o', ho', hn⟩ := List.mem_map.mp (hnodes ▸ List.mem_map_of_mem ho)
    exact ⟨o', ho', by rw [hn, hk]⟩
  · rintro ⟨o, ho, hk⟩
    obtain ⟨o', ho', hn⟩ := List.mem_map.mp (hnodes ▸ List.mem_map_of_mem ho)
    exact ⟨o', ho', by rw [hn, hk]⟩

theorem reaches_iff {k : Kind} :
    n.Reaches k ↔ n.kind = k ∨ ∃ c ∈ n.branches, c.Reaches k := by
  constructor
  · rintro ⟨o, ho, hk⟩
    rcases mem_visited.mp ho with rfl | ⟨i, c, hc, ho⟩
    · exact .inl hk
    · exact .inr ⟨c, List.mem_of_getElem? hc, (reaches_iff_visited _ _ c).mpr ⟨o, ho, hk⟩⟩
  · rintro (hk | ⟨c, hc, hr⟩)
    · exact ⟨_, mem_visited.mpr (.inl rfl), hk⟩
    · obtain ⟨i, hi⟩ := List.mem_iff_getElem?.mp hc
      obtain ⟨o, ho, hk⟩ := (reaches_iff_visited [⟨[], n⟩] ([] ++ [i]) c).mp hr
      exact ⟨o, mem_visited.mpr (.inr ⟨i, c, hi, ho⟩), hk⟩

theorem elements_eq (vs : List Value) :
    Value.elements vs = (vs.filterMap Value.node?).flatMap Node.preorder := by
  induction vs with
  | nil => rfl
  | cons v vs ih =>
    cases v with
    | node n =>
      rw [Value.elements, ih]
      rfl
    | atom c =>
      rw [Value.elements, ih]
      · rfl
      · simp
    | list us =>
      rw [Value.elements, ih]
      · rfl
      · simp

theorem preorder_eq (n : Node) : n.preorder = n :: n.children.flatMap Node.preorder := by
  have hvalue : ∀ v : Value, v.preorder = v.nodes.flatMap Node.preorder := by
    intro v
    cases v with
    | atom c => rfl
    | node n => rw [Value.preorder, Value.nodes, List.flatMap_singleton]
    | list vs =>
      rw [Value.preorder, elements_eq]
      rfl
  have hfields : ∀ fs, Field.preorder fs = (fs.flatMap (·.value.nodes)).flatMap Node.preorder := by
    intro fs
    induction fs with
    | nil => rfl
    | cons f fs ih =>
      cases f with
      | mk l v => rw [Field.preorder, ih, hvalue, List.flatMap_cons, List.flatMap_append]; rfl
  cases n with
  | mk kind place fields =>
    rw [Node.preorder, hfields]
    rfl

theorem mem_preorder_self (n : Node) : n ∈ n.preorder := by
  rw [preorder_eq]
  exact List.mem_cons_self

theorem mem_preorder_of_child {c m : Node} (hc : c ∈ n.children) (hm : m ∈ c.preorder) :
    m ∈ n.preorder := by
  rw [preorder_eq]
  exact List.mem_cons_of_mem _ (List.mem_flatMap.mpr ⟨c, hc, hm⟩)

theorem mem_preorder_trans {m c : Node} (hm : m ∈ n.preorder) (hc : c ∈ m.preorder) :
    c ∈ n.preorder := by
  induction n using child_induction with
  | step n ih =>
    rw [preorder_eq, List.mem_cons] at hm
    rcases hm with rfl | hm
    · exact hc
    · obtain ⟨d, hd, hm⟩ := List.mem_flatMap.mp hm
      exact mem_preorder_of_child hd (ih d hd hm)

theorem mem_preorder_of_visited {o : Occurrence} (h : o ∈ visited above p n) :
    o.node ∈ n.preorder := by
  refine visited_induction (P := fun _ _ n o => o.node ∈ n.preorder) ?_ ?_ h
  · exact fun _ _ n => mem_preorder_self n
  · exact fun _ _ n i c o hc ho =>
      mem_preorder_of_child (branches_subset (List.mem_of_getElem? hc)) ho

theorem branches_of_plain (h : n.Plain) : n.branches = n.children := by
  unfold Node.branches
  split
  · rfl
  · next hd =>
    have hempty := h n (mem_preorder_self n) (by simpa using hd)
    exact (List.isEmpty_iff.mp hempty).symm

theorem occurrences_nodes (h : n.Plain) : n.occurrences.map (·.node) = n.preorder := by
  induction n using branch_induction with
  | step n ih =>
    have hchildren : ∀ c ∈ n.branches, c.occurrences.map (·.node) = c.preorder :=
      fun c hc => ih c hc fun m hm => h m (mem_preorder_of_child (branches_subset hc) hm)
    rw [Node.occurrences, visited_eq, List.map_cons,
      visitedIn_nodes fun c _ above p => visited_nodes above p c, preorder_eq n,
      ← branches_of_plain h, List.flatMap_def, List.flatMap_def, List.map_congr_left hchildren]

theorem reaches_iff_contains (h : n.Plain) (k : Kind) : n.Reaches k ↔ n.contains k = true := by
  rw [Node.contains, ← occurrences_nodes h]
  simp [Node.Reaches]

/-! ### The order of positions -/

/-- A position comes before another when it lies above it or in an earlier branch. -/
def Precedes : List Nat → List Nat → Prop
  | _, [] => False
  | [], _ :: _ => True
  | i :: p, j :: q => i < j ∨ i = j ∧ Precedes p q

def decidePrecedes : (p q : List Nat) → Decidable (Precedes p q)
  | [], [] => .isFalse id
  | _ :: _, [] => .isFalse id
  | [], _ :: _ => .isTrue trivial
  | i :: p, j :: q =>
    have := decidePrecedes p q
    inferInstanceAs (Decidable (i < j ∨ i = j ∧ Precedes p q))

instance (p q : List Nat) : Decidable (Precedes p q) := decidePrecedes p q

theorem precedes_append (p q r : List Nat) : Precedes (p ++ q) (p ++ r) ↔ Precedes q r := by
  induction p with
  | nil => rfl
  | cons i p ih => simp [Precedes, ih]

theorem precedes_below (p : List Nat) (i : Nat) (q : List Nat) : Precedes p (p ++ i :: q) := by
  induction p with
  | nil => trivial
  | cons j p ih => exact Or.inr ⟨rfl, ih⟩

theorem precedes_branch (p q r : List Nat) {i j : Nat} (h : i < j) :
    Precedes (p ++ i :: q) (p ++ j :: r) := by
  rw [precedes_append]
  exact Or.inl h

theorem not_precedes_self (p : List Nat) : ¬ Precedes p p := by
  induction p with
  | nil => exact id
  | cons i p ih => simp [Precedes, ih]

theorem Precedes.trans (hp : Precedes p q) (hq : Precedes q r) : Precedes p r := by
  induction p generalizing q r with
  | nil =>
    cases r with
    | nil => cases q <;> exact hq
    | cons j r => trivial
  | cons i p ih =>
    cases q with
    | nil => exact hp.elim
    | cons j q =>
      cases r with
      | nil => exact hq.elim
      | cons l r =>
        rcases hp with hij | ⟨rfl, hp⟩
        · rcases hq with hjl | ⟨rfl, hq⟩
          · exact Or.inl (Nat.lt_trans hij hjl)
          · exact Or.inl hij
        · rcases hq with hjl | ⟨rfl, hq⟩
          · exact Or.inl hjl
          · exact Or.inr ⟨rfl, ih hp hq⟩

theorem visited_extends {o : Occurrence} (h : o ∈ visited above p n) :
    ∃ r, o.position = p ++ r := by
  refine visited_induction (P := fun _ p _ o => ∃ r, o.position = p ++ r) ?_ ?_ h
  · exact fun _ p _ => ⟨[], (List.append_nil p).symm⟩
  · rintro _ p _ i _ o - ⟨r, hr⟩
    exact ⟨i :: r, by rw [hr, List.append_assoc]; rfl⟩

theorem visitedIn_extends {o : Occurrence} {cs : List Node} (h : o ∈ visitedIn above p k cs) :
    ∃ i r, k ≤ i ∧ o.position = p ++ i :: r := by
  obtain ⟨i, c, -, ho⟩ := mem_visitedIn.mp h
  obtain ⟨r, hr⟩ := visited_extends ho
  exact ⟨k + i, r, Nat.le_add_right k i, by rw [hr, List.append_assoc]; rfl⟩

theorem visited_ordered (above : List Spot) (p : List Nat) (n : Node) :
    (visited above p n).Pairwise fun o u => Precedes o.position u.position := by
  induction n using branch_induction generalizing above p with
  | step n ih =>
    have hbelow : ∀ (cs : List Node) k, (∀ c ∈ cs, c ∈ n.branches) →
        (visitedIn (⟨p, n⟩ :: above) p k cs).Pairwise
          fun o u => Precedes o.position u.position := by
      intro cs
      induction cs with
      | nil => exact fun _ _ => List.Pairwise.nil
      | cons c cs hcs =>
        intro k hc
        refine List.pairwise_append.mpr ⟨ih c (hc c List.mem_cons_self) _ _,
          hcs (k + 1) fun d hd => hc d (List.mem_cons_of_mem c hd), ?_⟩
        intro o ho u hu
        obtain ⟨r, hr⟩ := visited_extends ho
        obtain ⟨i, t, hi, ht⟩ := visitedIn_extends hu
        rw [hr, ht, List.append_assoc]
        exact precedes_branch p r t hi
    rw [visited_eq, List.pairwise_cons]
    refine ⟨fun o ho => ?_, hbelow n.branches 0 fun c hc => hc⟩
    obtain ⟨i, r, -, hr⟩ := visitedIn_extends ho
    rw [hr]
    exact precedes_below p i r

theorem above_extends {o : Occurrence} (h : o ∈ n.occurrences) :
    ∀ s ∈ o.above, ∃ i r, o.position = s.position ++ i :: r := by
  have hspots : ∀ s ∈ o.above, s ∈ ([] : List Spot) ∨ ∃ i r, o.position = s.position ++ i :: r := by
    refine (visited_induction (P := fun above p _ o => (∃ r, o.position = p ++ r) ∧
      ∀ s ∈ o.above, s ∈ above ∨ ∃ i r, o.position = s.position ++ i :: r) ?_ ?_ h).2
    · exact fun _ p _ => ⟨⟨[], (List.append_nil p).symm⟩, fun _ hs => .inl hs⟩
    · rintro above p n i _ o - ⟨⟨r, hr⟩, hs⟩
      have hposition : o.position = p ++ i :: r := by rw [hr, List.append_assoc]; rfl
      refine ⟨⟨_, hposition⟩, fun s hmem => ?_⟩
      rcases hs s hmem with hs | hs
      · rcases List.mem_cons.mp hs with rfl | hs
        · exact .inr ⟨i, r, hposition⟩
        · exact .inl hs
      · exact .inr hs
  exact fun s hs => (hspots s hs).resolve_left List.not_mem_nil

theorem above_precedes {o : Occurrence} (h : o ∈ n.occurrences) :
    ∀ s ∈ o.above, Precedes s.position o.position := by
  intro s hs
  obtain ⟨i, r, hposition⟩ := above_extends h s hs
  rw [hposition]
  exact precedes_below s.position i r

theorem above_occurs {o : Occurrence} (h : o ∈ n.occurrences) :
    ∀ s ∈ o.above, ∃ u ∈ n.occurrences, u.toSpot = s := by
  have hspots : ∀ s ∈ o.above, s ∈ ([] : List Spot) ∨ ∃ u ∈ n.occurrences, u.toSpot = s := by
    refine visited_induction (P := fun above p n o =>
      ∀ s ∈ o.above, s ∈ above ∨ ∃ u ∈ visited above p n, u.toSpot = s) ?_ ?_ h
    · exact fun _ _ _ _ hs => .inl hs
    · intro above p n i c o hc ih s hs
      rcases ih s hs with hs | ⟨u, hu, rfl⟩
      · rcases List.mem_cons.mp hs with rfl | hs
        · exact .inr ⟨⟨⟨p, n⟩, above⟩, mem_visited.mpr (.inl rfl), rfl⟩
        · exact .inl hs
      · exact .inr ⟨u, mem_visited.mpr (.inr ⟨i, c, hc, hu⟩), rfl⟩
  exact fun s hs => (hspots s hs).resolve_left List.not_mem_nil

theorem branch_occurs {o : Occurrence} {c : Node} (ho : o ∈ n.occurrences)
    (hc : c ∈ o.node.branches) :
    ∃ u ∈ n.occurrences, u.node = c ∧ Precedes o.position u.position := by
  revert c
  refine visited_induction (P := fun above p n o => ∀ {c}, c ∈ o.node.branches →
    ∃ u ∈ visited above p n, u.node = c ∧ Precedes o.position u.position) ?_ ?_ ho
  · intro above p n c hc
    obtain ⟨i, hi⟩ := List.mem_iff_getElem?.mp hc
    exact ⟨⟨⟨p ++ [i], c⟩, ⟨p, n⟩ :: above⟩,
      mem_visited.mpr (.inr ⟨i, c, hi, mem_visited.mpr (.inl rfl)⟩), rfl, precedes_below p i []⟩
  · intro above p n i d o hd ih c hc
    obtain ⟨u, hu, hrest⟩ := ih hc
    exact ⟨u, mem_visited.mpr (.inr ⟨i, d, hd, hu⟩), hrest⟩

theorem mem_seen_iff {seen later : List Occurrence} {o u : Occurrence}
    (h : n.occurrences = seen ++ o :: later) :
    u ∈ seen ↔ u ∈ n.occurrences ∧ Precedes u.position o.position := by
  have hordered := visited_ordered [] [] n
  rw [← Node.occurrences, h, List.pairwise_append, List.pairwise_cons] at hordered
  obtain ⟨-, ⟨hlater, -⟩, hseen⟩ := hordered
  rw [h, List.mem_append, List.mem_cons]
  constructor
  · exact fun hu => ⟨.inl hu, hseen u hu o List.mem_cons_self⟩
  · rintro ⟨hu | rfl | hu, hp⟩
    · exact hu
    · exact (not_precedes_self _ hp).elim
    · exact (not_precedes_self _ (hp.trans (hlater u hu))).elim

end CodeLint.Lint
