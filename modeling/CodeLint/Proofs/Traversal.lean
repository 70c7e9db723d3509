import CodeLint.Proofs.Entering
import CodeLint.Proofs.Occurrence

/-!
The traversal as a whole. A visit enters a node, visits its branches one after the other and leaves
it. What one step keeps, a whole visit keeps: `invariant_of_visit` takes an invariant that may speak
of the occurrences entered so far and of the spots that are open, and carries it through a visit.
-/

namespace CodeLint.Lint

open CodeLint.Tree

variable {above : List Link} {a b : Analysis}

def Chain (R : Node → Analysis → Analysis → Prop) : List Node → Analysis → Analysis → Prop
  | [], a, b => b = a
  | c :: cs, a, b => ∃ m, R c a m ∧ Chain R cs m b

theorem chain_append {R : Node → Analysis → Analysis → Prop} {cs ds : List Node} :
    Chain R (cs ++ ds) a b ↔ ∃ m, Chain R cs a m ∧ Chain R ds m b := by
  induction cs generalizing a with
  | nil => simp [Chain]
  | cons c cs ih =>
    simp only [List.cons_append, Chain, ih]
    constructor
    · rintro ⟨m, hc, l, hcs, hds⟩
      exact ⟨l, ⟨m, hc, hcs⟩, hds⟩
    · rintro ⟨l, ⟨m, hc, hcs⟩, hds⟩
      exact ⟨m, hc, l, hcs, hds⟩

theorem Chain.mono {R S : Node → Analysis → Analysis → Prop} {cs : List Node}
    (h : Chain R cs a b) (hRS : ∀ c ∈ cs, ∀ a b, R c a b → S c a b) : Chain S cs a b := by
  induction cs generalizing a with
  | nil => exact h
  | cons c cs ih =>
    obtain ⟨m, hc, hcs⟩ := h
    exact ⟨m, hRS c List.mem_cons_self a m hc,
      ih hcs fun d hd => hRS d (List.mem_cons_of_mem c hd)⟩

theorem Chain.relates {R : Analysis → Analysis → Prop} {cs : List Node}
    (h : Chain (fun _ => R) cs a b) (refl : ∀ a, R a a)
    (trans : ∀ a b c, R a b → R b c → R a c) : R a b := by
  induction cs generalizing a with
  | nil =>
    rw [show b = a from h]
    exact refl a
  | cons c cs ih =>
    obtain ⟨m, hc, hcs⟩ := h
    exact trans a m b hc (ih hcs)

theorem runs_forM {f : Node → Check Unit} {cs : List Node} :
    Runs (cs.forM f) a () b ↔ Chain (fun c a b => Runs (f c) a () b) cs a b := by
  induction cs generalizing a with
  | nil => simp [Chain]
  | cons c cs ih =>
    change Runs (f c >>= fun _ => cs.forM f) a () b ↔ _
    simp only [runs_seq, ih, Chain]

/-! ### Traversals in general -/

mutual
def traverse (step : List Link → Node → Check Unit) (above : List Link) : Node → Check Unit
  | .mk kind place fields => do
    let n := Node.mk kind place fields
    let previous := (← get).current
    step above n
    if descends kind then traverseFields step (⟨n, none⟩ :: above) fields
    leave n previous
def traverseFields (step : List Link → Node → Check Unit) (above : List Link) :
    List Field → Check Unit
  | [] => pure ()
  | .mk _ v :: fs => do
    traverseValue step above v
    traverseFields step above fs
def traverseValue (step : List Link → Node → Check Unit) (above : List Link) : Value → Check Unit
  | .atom _ => pure ()
  | .node n => traverse step above n
  | .list vs => traverseEach step above vs
def traverseEach (step : List Link → Node → Check Unit) (above : List Link) :
    List Value → Check Unit
  | [] => pure ()
  | .node n :: vs => do
    traverse step above n
    traverseEach step above vs
  | _ :: vs => traverseEach step above vs
end

section Traverse

variable {step : List Link → Node → Check Unit}

theorem traverseEach_eq (step : List Link → Node → Check Unit) (above : List Link)
    (vs : List Value) :
    traverseEach step above vs = (vs.filterMap Value.node?).forM (traverse step above) := by
  induction vs with
  | nil => rfl
  | cons v vs ih =>
    cases v with
    | node n =>
      rw [traverseEach, ih]
      rfl
    | atom c =>
      rw [traverseEach, ih]
      · rfl
      · simp
    | list us =>
      rw [traverseEach, ih]
      · rfl
      · simp

theorem traverseFields_eq (step : List Link → Node → Check Unit) (above : List Link)
    (fs : List Field) :
    traverseFields step above fs = (fs.flatMap (·.value.nodes)).forM (traverse step above) := by
  have hvalue : ∀ v : Value, traverseValue step above v = v.nodes.forM (traverse step above) := by
    intro v
    cases v with
    | atom c => rfl
    | node n => simp [traverseValue, Value.nodes]
    | list vs => exact traverseEach_eq step above vs
  induction fs with
  | nil => rfl
  | cons f fs ih =>
    cases f with
    | mk l v =>
      rw [traverseFields, hvalue, ih, List.flatMap_cons]
      exact List.forM_append.symm

theorem traverse_eq (step : List Link → Node → Check Unit) (above : List Link) (n : Node) :
    traverse step above n = get >>= fun a => step above n >>= fun _ =>
      n.branches.forM (traverse step (⟨n, none⟩ :: above)) >>= fun _ => leave n a.current := by
  cases n with
  | mk kind place fields =>
    rw [traverse, Node.branches, Node.kind]
    cases descends kind with
    | true =>
      simp only [if_true, traverseFields_eq]
      rfl
    | false => simp

abbrev TraversesAll (step : List Link → Node → Check Unit) (above : List Link) :
    List Node → Analysis → Analysis → Prop :=
  Chain fun c a b => Runs (traverse step above c) a () b

theorem runs_traverse (n : Node) :
    Runs (traverse step above n) a () b ↔ ∃ m m', Runs (step above n) a () m ∧
      TraversesAll step (⟨n, none⟩ :: above) n.branches m m' ∧
      Runs (leave n a.current) m' () b := by
  rw [traverse_eq, runs_bind]
  simp only [runs_get, and_assoc, exists_and_left, exists_eq_left, runs_seq, runs_forM]

end Traverse

-- A visit is the traversal that enters each node.
mutual
theorem traverse_enter (above : List Link) : ∀ n, traverse enter above n = visit above n
  | .mk kind place fields => by rw [traverse, visit, traverseFields_enter]
theorem traverseFields_enter (above : List Link) :
    ∀ fs, traverseFields enter above fs = visitFields above fs
  | [] => rfl
  | .mk l v :: fs => by
    rw [traverseFields, visitFields, traverseValue_enter above v, traverseFields_enter above fs]
theorem traverseValue_enter (above : List Link) :
    ∀ v, traverseValue enter above v = visitValue above v
  | .atom c => rfl
  | .node n => by rw [traverseValue, visitValue, traverse_enter above n]
  | .list vs => by rw [traverseValue, visitValue, traverseEach_enter above vs]
theorem traverseEach_enter (above : List Link) :
    ∀ vs, traverseEach enter above vs = visitEach above vs
  | [] => rfl
  | .node n :: vs => by
    rw [traverseEach, visitEach, traverse_enter above n, traverseEach_enter above vs]
  | .atom c :: vs => by
    rw [traverseEach, visitEach, traverseEach_enter above vs] <;> simp
  | .list us :: vs => by
    rw [traverseEach, visitEach, traverseEach_enter above vs] <;> simp
end

/-! ### Visits -/

abbrev VisitsAll (above : List Link) : List Node → Analysis → Analysis → Prop :=
  Chain fun c a b => Runs (visit above c) a () b

theorem traverse_enter_eq (above : List Link) : traverse enter above = visit above :=
  funext (traverse_enter above)

theorem runs_visitFields (fs : List Field) :
    Runs (visitFields above fs) a () b ↔ VisitsAll above (fs.flatMap (·.value.nodes)) a b := by
  rw [← traverseFields_enter, traverseFields_eq, runs_forM, traverse_enter_eq]

theorem visit_eq (above : List Link) (n : Node) :
    visit above n = get >>= fun a => enter above n >>= fun _ =>
      n.branches.forM (visit (⟨n, none⟩ :: above)) >>= fun _ => leave n a.current := by
  rw [← traverse_enter_eq, traverse_eq, traverse_enter_eq]

theorem runs_visit (n : Node) :
    Runs (visit above n) a () b ↔ ∃ m m', Runs (enter above n) a () m ∧
      VisitsAll (⟨n, none⟩ :: above) n.branches m m' ∧ Runs (leave n a.current) m' () b := by
  rw [← traverse_enter, runs_traverse]
  simp only [TraversesAll, traverse_enter]

theorem visit_induction {P : List Link → Node → Analysis → Analysis → Prop}
    (step : ∀ above n a m,
      Chain (P (⟨n, none⟩ :: above)) n.branches (a.after (entering above n)) m →
        P above n a (m.after (leaving n a.current)))
    {n : Node} (h : Runs (visit above n) a () b) : P above n a b := by
  induction n using branch_induction generalizing above a b with
  | step n ih =>
    obtain ⟨m, m', he, hb, hl⟩ := (runs_visit n).mp h
    rw [(enter_performs above n).run he] at hb
    rw [(leave_performs n a.current).run hl]
    exact step above n a m' (hb.mono fun c hc a b => ih c hc)

theorem visit_relates {R : Analysis → Analysis → Prop} (refl : ∀ a, R a a)
    (trans : ∀ a b c, R a b → R b c → R a c)
    (enter : ∀ a above n, R a (a.after (entering above n)))
    (leave : ∀ a n previous, R a (a.after (leaving n previous)))
    {n : Node} (h : Runs (visit above n) a () b) : R a b := by
  refine visit_induction (P := fun _ _ a b => R a b) ?_ h
  intro above n a m hbranches
  exact trans _ _ _ (enter a above n)
    (trans _ _ _ (hbranches.relates refl trans) (leave m n a.current))

abbrev Invariant := List Occurrence → List Spot → Analysis → Prop

/-- An invariant that holds across every step of a traversal which enters the occurrences of `all`
one by one. Entering an occurrence adds it to those entered and opens its spot. Leaving it closes
the spot; the scope that was current on entering, `a.current`, becomes current again where the node
has opened one. -/
structure Keeps (all : List Occurrence) (I : Invariant) : Prop where
  enter : ∀ seen o later a, all = seen ++ o :: later → I seen o.above a →
    I (seen ++ [o]) (o.toSpot :: o.above) (a.after (entering (o.above.map Spot.link) o.node))
  leave : ∀ first seen o a c, o ∈ all → I first o.above a → I seen (o.toSpot :: o.above) c →
    I seen o.above (c.after (leaving o.node a.current))

def VisitKeeps (all : List Occurrence) (I : Invariant) (spots : List Spot) (p : List Nat)
    (n : Node) : Prop :=
  ∀ seen later a b, all = seen ++ visited spots p n ++ later →
    Runs (visit (spots.map Spot.link) n) a () b → I seen spots a →
    I (seen ++ visited spots p n) spots b

theorem visitsAll_keeps {all : List Occurrence} {I : Invariant} {spots : List Spot} {p : List Nat}
    {k : Nat} {cs : List Node} (hcs : ∀ c ∈ cs, ∀ p, VisitKeeps all I spots p c)
    {seen later : List Occurrence} (hall : all = seen ++ visitedIn spots p k cs ++ later)
    (h : VisitsAll (spots.map Spot.link) cs a b) (hI : I seen spots a) :
    I (seen ++ visitedIn spots p k cs) spots b := by
  induction cs generalizing k seen a with
  | nil =>
    rw [show b = a from h, visitedIn, List.append_nil]
    exact hI
  | cons c cs ih =>
    obtain ⟨m, hc, hrest⟩ := h
    have hfirst : all = seen ++ visited spots (p ++ [k]) c ++
        (visitedIn spots p (k + 1) cs ++ later) := by
      rw [hall, visitedIn, ← List.append_assoc, ← List.append_assoc]
    have hm := hcs c List.mem_cons_self (p ++ [k]) seen _ a m hfirst hc hI
    rw [visitedIn, ← List.append_assoc]
    refine ih (fun d hd => hcs d (List.mem_cons_of_mem c hd)) ?_ hrest hm
    rw [hfirst, ← List.append_assoc]

theorem visit_keeps {all : List Occurrence} {I : Invariant} (h : Keeps all I) (spots : List Spot)
    (p : List Nat) (n : Node) : VisitKeeps all I spots p n := by
  induction n using branch_induction generalizing spots p with
  | step n ih =>
    intro seen later a b hall hrun hI
    obtain ⟨m, m', he, hb, hl⟩ := (runs_visit n).mp hrun
    obtain rfl := (enter_performs _ n).run he
    rw [(leave_performs n a.current).run hl]
    -- The occurrences of the node are its own, which is seen after entering it, and those of the
    -- branches, which are seen after visiting them.
    rw [visited_eq] at hall ⊢
    have hfirst : all = seen ++ ⟨⟨p, n⟩, spots⟩ ::
        (visitedIn (⟨p, n⟩ :: spots) p 0 n.branches ++ later) := by
      rw [hall, List.append_assoc, List.cons_append]
    have hentered := h.enter seen ⟨⟨p, n⟩, spots⟩ _ a hfirst hI
    have hbranches : all = seen ++ [⟨⟨p, n⟩, spots⟩] ++
        visitedIn (⟨p, n⟩ :: spots) p 0 n.branches ++ later := by
      rw [hall, List.append_cons]
    have hbelow : I (seen ++ [⟨⟨p, n⟩, spots⟩] ++ visitedIn (⟨p, n⟩ :: spots) p 0 n.branches)
        (⟨p, n⟩ :: spots) m' :=
      visitsAll_keeps (fun c hc q => ih c hc (⟨p, n⟩ :: spots) q) hbranches hb hentered
    rw [List.append_assoc, List.singleton_append] at hbelow
    have hmem : (⟨⟨p, n⟩, spots⟩ : Occurrence) ∈ all := by simp [hall]
    exact h.leave seen _ _ a m' hmem hI hbelow

theorem invariant_of_visit {I : Invariant} {n : Node} (h : Keeps n.occurrences I)
    (hrun : Runs (visit [] n) {} () b) (hI : I [] [] {}) : I n.occurrences [] b :=
  visit_keeps h [] [] n [] [] {} b (List.append_nil _).symm hrun hI

/-! ### Two traversals side by side -/

/-- A relation between two analyses that is kept when one traversal takes a step at a node and the
other takes the same step at the image of that node. The links above are related on their own. -/
structure Mirrors (image : Node → Node) (Links : List Link → List Link → Prop)
    (R : Analysis → Analysis → Prop) : Prop where
  branches : ∀ n, (image n).branches = n.branches.map image
  below : ∀ above above' n, Links above above' →
    Links (⟨n, none⟩ :: above) (⟨image n, none⟩ :: above')
  enter : ∀ above above' n a a', Links above above' → R a a' →
    R (a.after (entering above n)) (a'.after (entering above' (image n)))
  leave : ∀ n a a' m m', R a a' → R m m' →
    R (m.after (leaving n a.current)) (m'.after (leaving (image n) a'.current))

namespace Mirrors

variable {image : Node → Node} {Links : List Link → List Link → Prop}
  {R : Analysis → Analysis → Prop} {above' : List Link} {a' b' : Analysis}

theorem chain {cs : List Node}
    (hcs : ∀ c ∈ cs, ∀ a a' b b', Runs (visit above c) a () b →
      Runs (visit above' (image c)) a' () b' → R a a' → R b b')
    (h : VisitsAll above cs a b) (h' : VisitsAll above' (cs.map image) a' b') (hR : R a a') :
    R b b' := by
  induction cs generalizing a a' with
  | nil =>
    rw [show b = a from h, show b' = a' from h']
    exact hR
  | cons c cs ih =>
    obtain ⟨m, hc, hrest⟩ := h
    obtain ⟨m', hc', hrest'⟩ := h'
    have hm := hcs c List.mem_cons_self a a' m m' hc hc' hR
    exact ih (fun d hd => hcs d (List.mem_cons_of_mem c hd)) hrest hrest' hm

theorem visit (h : Mirrors image Links R) {n : Node} (hlinks : Links above above')
    (hrun : Runs (Lint.visit above n) a () b) (hrun' : Runs (Lint.visit above' (image n)) a' () b')
    (hR : R a a') : R b b' := by
  induction n using branch_induction generalizing above above' a a' b b' with
  | step n ih =>
    obtain ⟨m, d, he, hb, hl⟩ := (runs_visit n).mp hrun
    obtain ⟨m', d', he', hb', hl'⟩ := (runs_visit (image n)).mp hrun'
    obtain rfl := (enter_performs above n).run he
    obtain rfl := (enter_performs above' (image n)).run he'
    rw [(leave_performs n a.current).run hl, (leave_performs (image n) a'.current).run hl']
    rw [h.branches n] at hb'
    have hentered := h.enter above above' n a a' hlinks hR
    have hinside : R d d' := chain
      (fun c hc _ _ _ _ hrun hrun' => ih c hc (h.below above above' n hlinks) hrun hrun')
      hb hb' hentered
    exact h.leave n a a' d d' hR hinside

theorem visitsAll (h : Mirrors image Links R) {cs : List Node} (hlinks : Links above above')
    (hruns : VisitsAll above cs a b) (hruns' : VisitsAll above' (cs.map image) a' b')
    (hR : R a a') : R b b' :=
  chain (fun _ _ _ _ _ _ hrun hrun' => h.visit hlinks hrun hrun') hruns hruns' hR

end Mirrors

end CodeLint.Lint
