import CodeLint.Proofs.Traversal

/-!
Records that a traversal fills. A record is a part of an analysis that changes in one way only: some
effects add an entry to it, and no other effect touches it. Where the entries of a node do not depend
on what stands above it, a visit adds the entries of all nodes, in the order in which the nodes stand
in the tree.
-/

namespace CodeLint.Lint

open CodeLint.Tree

/-- A part of an analysis to which effects add entries, at most one each. -/
structure Record (σ β : Type) where
  view : Analysis → σ
  add : σ → β → σ
  entryOf : Effect → Option β
  view_apply : ∀ a e, view (e.apply a) = (entryOf e).elim (view a) (add (view a))

namespace Record

variable {σ β : Type} (r : Record σ β) {a b : Analysis} {n : Node}

theorem view_after (a : Analysis) (es : List Effect) :
    r.view (a.after es) = (es.filterMap r.entryOf).foldl r.add (r.view a) := by
  induction es generalizing a with
  | nil => rfl
  | cons e es ih =>
    rw [Analysis.after_cons, ih, r.view_apply]
    cases he : r.entryOf e with
    | none => rw [List.filterMap_cons_none he, Option.elim_none]
    | some x => rw [List.filterMap_cons_some he, Option.elim_some, List.foldl_cons]

structure Fills (entries : Node → List β) : Prop where
  on_enter : ∀ above n, (entering above n).filterMap r.entryOf = entries n
  on_leave : ∀ n previous, (leaving n previous).filterMap r.entryOf = []

variable {r} {entries : Node → List β}

theorem Fills.view_enter (h : r.Fills entries) {above : List Link}
    (hrun : Runs (enter above n) a () b) : r.view b = (entries n).foldl r.add (r.view a) := by
  rw [(enter_performs above n).run hrun, r.view_after, h.on_enter]

theorem Fills.keeps (h : r.Fills entries) (all : List Occurrence) :
    Keeps all fun seen _ a =>
      r.view a = (seen.flatMap fun o => entries o.node).foldl r.add (r.view {}) where
  enter seen o later a _ ha := by
    rw [r.view_after, h.on_enter, ha, List.flatMap_append, List.foldl_append, List.flatMap_singleton]
  leave first seen o a c _ _ hc := by
    rw [r.view_after, h.on_leave, hc, List.foldl_nil]

theorem Fills.view_visit (h : r.Fills entries) (hplain : n.Plain)
    (hrun : Runs (visit [] n) {} () b) :
    r.view b = (n.preorder.flatMap entries).foldl r.add (r.view {}) := by
  have hview := invariant_of_visit (h.keeps n.occurrences) hrun rfl
  rw [hview, ← occurrences_nodes hplain, List.flatMap_map]

end Record

end CodeLint.Lint
