import CodeLint.Proofs.LocalChecks

/-!
Nested loops. The analysis counts the loops it is in: one more when it enters a loop, one less when
it leaves it, and nothing else touches the count. So the count is the number of loops above,
whatever stands between them, and a loop is reported when two or more are above it.
-/

namespace CodeLint.Lint

open CodeLint.Tree

/-- The kinds of loop that are counted. Asynchronous loops and comprehensions are not. -/
def isCounted : Kind → Bool
  | .forLoop | .whileLoop => true
  | _ => false

def loopsAmong (spots : List Spot) : Nat := spots.countP fun s => isCounted s.node.kind

def isDeep (o : Occurrence) : Bool := isCounted o.node.kind && decide (2 ≤ loopsAmong o.above)

def depthIssue (o : Occurrence) : Issue := ⟨.deepLoop, o.node.line?⟩

def deepLoops (os : List Occurrence) : List Issue := (os.filter isDeep).map depthIssue

/-! ### Effects apart from the count -/

def Effect.aboutDepth : Effect → Bool
  | enterLoop | leaveLoop | checkDepth _ => true
  | report f _ => f.code == "C0200"
  | _ => false

theorem aboutDepth_of_isQuiet (e : Effect) (he : e.isQuiet = true) : e.aboutDepth = false := by
  cases e with
  | report | enterLoop | leaveLoop | checkDepth => cases he
  | _ => rfl

theorem loopDepth_apply (a : Analysis) {e : Effect} (he : e.aboutDepth = false) :
    (e.apply a).loopDepth = a.loopDepth := by
  cases hlevel : e.isLevel with
  | true => exact (Disciplined.apply a hlevel).loopDepth
  | false =>
    cases e with
    | enterLoop | leaveLoop => cases he
    | useModuleScope | openScope | closeScope | setFunction => rfl
    | _ => cases hlevel

theorem withCode_depth_apply (a : Analysis) {e : Effect} (he : e.aboutDepth = false) :
    (e.apply a).withCode "C0200" = a.withCode "C0200" := by
  refine chosen_apply_of_not (p := fun f => f.code == "C0200") a fun f hf => ?_
  cases e with
  | report g line =>
    rw [show f = g from hf]
    exact he
  | checkReturns | checkVariable | checkDefined =>
    rw [hf]
    rfl
  | reportUnusedImports =>
    obtain ⟨x, rfl⟩ := hf
    rfl
  | checkDepth => cases he
  | _ => exact hf.elim

theorem depth_after (a : Analysis) {es : List Effect} (hes : ∀ e ∈ es, e.aboutDepth = false) :
    (a.after es).loopDepth = a.loopDepth ∧
      (a.after es).withCode "C0200" = a.withCode "C0200" := by
  induction es generalizing a with
  | nil => exact ⟨rfl, rfl⟩
  | cons e es ih =>
    have he := hes e List.mem_cons_self
    obtain ⟨hdepth, hissues⟩ := ih (e.apply a) fun f hf => hes f (List.mem_cons_of_mem e hf)
    exact ⟨hdepth.trans (loopDepth_apply a he), hissues.trans (withCode_depth_apply a he)⟩

/-! ### Entering and leaving -/

theorem aboutDepth_localReports (n : Node) : ∀ e ∈ localReports n, e.aboutDepth = false := by
  intro e he
  obtain ⟨f, line, rfl, hf⟩ := onlyReports_localReports
    (q := fun f => (f.code == "C0200") = false) (fun f hf _ => code_of_isLocal hf rfl)
    (fun _ => rfl) e he
  exact hf

theorem aboutDepth_entering (above : List Link) {n : Node} (hk : isCounted n.kind = false) :
    ∀ e ∈ entering above n, e.aboutDepth = false := by
  have hloop : ∀ k, n.kind = k → isCounted k = true → False := by
    intro k hkind hcounted
    rw [hkind, hcounted] at hk
    cases hk
  have hbefore : ∀ e ∈ beforeReports n, e.aboutDepth = false := by
    unfold beforeReports
    cases hkind : n.kind with
    | whileLoop => exact (hloop _ hkind rfl).elim
    | classDef => simp [Effect.aboutDepth]
    | _ => exact List.forall_mem_nil _
  have hafter : ∀ e ∈ afterReports above n, e.aboutDepth = false := by
    refine forall_mem_afterReports aboutDepth_of_isQuiet (fun _ => ⟨fun _ _ => rfl, fun _ _ => rfl⟩)
      (fun hkind => (hloop _ hkind rfl).elim) (fun _ => ?_) (fun _ => ⟨rfl, rfl⟩) fun _ _ => rfl
    exact forall_mem_callEffects aboutDepth_of_isQuiet (fun _ => rfl) above n
  rw [entering_eq, List.forall_mem_append, List.forall_mem_append]
  exact ⟨⟨hbefore, aboutDepth_localReports n⟩, hafter⟩

/-- A loop is counted and checked first, and the rest of what entering it does is not about the
count. -/
theorem entering_counted (above : List Link) {n : Node} (hk : isCounted n.kind = true) :
    ∃ es, entering above n = loopEffects n ++ es ∧ ∀ e ∈ es, e.aboutDepth = false := by
  cases hkind : n.kind with
  | forLoop =>
    refine ⟨_, by rw [entering, hkind, forEffects], ?_⟩
    refine List.forall_mem_cons.mpr ⟨rfl, List.forall_mem_flatMap.mpr fun m _ => ?_⟩
    exact forall_mem_leafEffects aboutDepth_of_isQuiet (fun _ _ => rfl) (fun _ _ => rfl) _ m
  | whileLoop =>
    refine ⟨_, by rw [entering, hkind, whileEffects, List.append_assoc], ?_⟩
    exact List.forall_mem_append.mpr
      ⟨forall_mem_atLine _ _ fun _ => rfl, List.forall_mem_singleton.mpr rfl⟩
  | _ =>
    rw [hkind] at hk
    cases hk

theorem depth_loopEffects (a : Analysis) (n : Node) :
    (a.after (loopEffects n)).loopDepth = a.loopDepth + 1 ∧
      (a.after (loopEffects n)).withCode "C0200" = a.withCode "C0200" ++
        if 2 ≤ a.loopDepth then [⟨.deepLoop, n.line?⟩] else [] := by
  simp only [loopEffects, Analysis.after_cons, Analysis.after_nil, Effect.apply]
  by_cases hdeep : 2 ≤ a.loopDepth
  · have hcount : 2 < a.loopDepth + 1 := by omega
    rw [if_pos hcount, if_pos hdeep]
    exact ⟨rfl, List.filter_append ..⟩
  · have hcount : ¬ 2 < a.loopDepth + 1 := by omega
    rw [if_neg hcount, if_neg hdeep, List.append_nil]
    exact ⟨rfl, rfl⟩

theorem depth_entering (a : Analysis) (above : List Link) (n : Node) :
    (a.after (entering above n)).loopDepth =
        a.loopDepth + (if isCounted n.kind then 1 else 0) ∧
      (a.after (entering above n)).withCode "C0200" = a.withCode "C0200" ++
        if isCounted n.kind && decide (2 ≤ a.loopDepth) then [⟨.deepLoop, n.line?⟩] else [] := by
  cases hk : isCounted n.kind with
  | false =>
    obtain ⟨hdepth, hissues⟩ := depth_after a (aboutDepth_entering above hk)
    refine ⟨hdepth, ?_⟩
    rw [hissues, Bool.false_and, if_neg Bool.false_ne_true, List.append_nil]
  | true =>
    obtain ⟨es, hentering, hes⟩ := entering_counted above hk
    obtain ⟨hcount, hreport⟩ := depth_loopEffects a n
    obtain ⟨hdepth, hissues⟩ := depth_after (a.after (loopEffects n)) hes
    rw [hentering, Analysis.after_append, hdepth, hissues, hcount, hreport]
    simp

theorem depth_leaving (a : Analysis) (n : Node) (previous : ScopeRef) :
    (a.after (leaving n previous)).loopDepth =
        a.loopDepth - (if isCounted n.kind then 1 else 0) ∧
      (a.after (leaving n previous)).withCode "C0200" = a.withCode "C0200" := by
  unfold leaving
  cases n.kind with
  | functionDef | program => exact depth_after a (by simp [Effect.aboutDepth])
  | _ => exact ⟨rfl, rfl⟩

/-! ### The reports of a visit -/

theorem loopsAmong_cons (s : Spot) (spots : List Spot) :
    loopsAmong (s :: spots) = loopsAmong spots + if isCounted s.node.kind then 1 else 0 :=
  List.countP_cons

-- The count is that of the open loops. A loop is among the open ones once it is entered, so those
-- above it are what the count was before.
theorem depth_keeps (all : List Occurrence) :
    Keeps all fun seen spots a =>
      a.loopDepth = loopsAmong spots ∧ a.withCode "C0200" = deepLoops seen where
  enter seen o later a _ h := by
    obtain ⟨hcount, hissues⟩ := h
    obtain ⟨hentered, hreported⟩ := depth_entering a (o.above.map Spot.link) o.node
    have hdeep : (isCounted o.node.kind && decide (2 ≤ a.loopDepth)) = isDeep o := by
      rw [hcount, isDeep]
    refine ⟨by rw [hentered, hcount, loopsAmong_cons], ?_⟩
    rw [hreported, hissues, hdeep, deepLoops, deepLoops, List.filter_append, List.map_append]
    cases hd : isDeep o with
    | true => simp [hd, depthIssue]
    | false => simp [hd]
  leave first seen o a c _ _ h := by
    obtain ⟨hcount, hissues⟩ := h
    obtain ⟨hleft, hsame⟩ := depth_leaving c o.node a.current
    refine ⟨?_, hsame.trans hissues⟩
    rw [hleft, hcount, loopsAmong_cons, Nat.add_sub_cancel]

/-- The reports of deep loops are, in order, those of the counted loops with two or more counted
loops above them, and in the end none is left counted. In a plain tree the occurrences are all nodes
of the tree, parents before their children. -/
theorem deep_loops_reported {n : Node} {a : Analysis} (h : Runs (visit [] n) {} () a) :
    a.withCode "C0200" = deepLoops n.occurrences ∧ a.loopDepth = 0 ∧
      (n.Plain → n.occurrences.map (·.node) = n.preorder) := by
  obtain ⟨hcount, hissues⟩ := invariant_of_visit (depth_keeps n.occurrences) h ⟨rfl, rfl⟩
  exact ⟨hissues, hcount, occurrences_nodes⟩

/-- A third loop in the else-branch of the second, which stands in an asynchronous loop in the
first. -/
def loopsAcross : Node :=
  treeOf "for a in b:\n async for c in d:\n  while e: 0\n  else:\n   for g in h: 0\n"

theorem deep_loops_reported_loopsAcross :
    ((visit [] loopsAcross).apply {}).1.isOk = true ∧ loopsAcross.Plain ∧
      ((visit [] loopsAcross).apply {}).2.withCode "C0200" = [⟨.deepLoop, some 5⟩] := by
  have hevaluated : ((visit [] loopsAcross).apply {}).1.isOk = true ∧ loopsAcross.Plain ∧
      deepLoops loopsAcross.occurrences = [⟨.deepLoop, some 5⟩] := by
    decide +kernel
  obtain ⟨hok, hplain, hdeep⟩ := hevaluated
  exact ⟨hok, hplain, (deep_loops_reported (runs_of_isOk hok)).1.trans hdeep⟩

end CodeLint.Lint
