import CodeLint.Proofs.Safe

/-!
Chains of comparisons. A chain has one operand more than it has operators. Each operator compares
the operand before it with the one after it, and what the chain is reported for is what these
comparisons are reported for on their own, one after the other.
-/

namespace CodeLint.Lint

open CodeLint.Tree

structure Comparison where
  left : Value
  operator : Value
  right : Value

namespace Comparison

def node (c : Comparison) (place : Place) : Node :=
  .mk .compare place
    [.mk .left c.left, .mk .operators (.list [c.operator]), .mk .comparators (.list [c.right])]

def isEquality (c : Comparison) : Bool := c.operator.isKind .eq || c.operator.isKind .notEq

def isIdentity (c : Comparison) : Bool := c.operator.isKind .isSame || c.operator.isKind .isNotSame

def hasConstant (test : Value → Bool) (c : Comparison) : Bool :=
  constantIs test c.left || constantIs test c.right

def issues (c : Comparison) (line : Line) : List Issue :=
  (if c.isEquality && c.hasConstant Value.isNone then [⟨.comparedToNone, line⟩] else []) ++
    (if c.isEquality && c.hasConstant isBoolValue then [⟨.comparedToBool, line⟩] else []) ++
    if c.isIdentity && callsType c.left && callsType c.right then [⟨.comparedTypes, line⟩] else []

end Comparison

end CodeLint.Lint

namespace CodeLint.Tree.Node

open CodeLint.Lint

def operators (n : Node) : List Value := (Value.node n).membersAt .operators

def operands (n : Node) : List Value :=
  (Value.node n).part .left :: (Value.node n).membersAt .comparators

def comparisons (n : Node) : List Comparison :=
  (n.operands.zip (n.operators.zip n.operands.tail)).map fun e => ⟨e.1, e.2.1, e.2.2⟩

structure IsChain (n : Node) : Prop where
  kind : n.kind = .compare
  left : (n.get? .left).isSome = true
  operators : ∃ os, n.get? .operators = some (.list os)
  comparators : ∃ vs, n.get? .comparators = some (.list vs)
  length : n.operands.length = n.operators.length + 1

theorem Sound.isChain {n : Node} (h : n.Sound) (hk : n.kind = .compare) : n.IsChain := by
  have hlist : ∀ l, (l, .many) ∈ Kind.layout .compare →
      ∃ vs, n.get? l = some (.list vs) ∧ (Value.node n).part l = .list vs := by
    intro l hl
    obtain ⟨vs, hvs, -⟩ := h.many hk hl
    obtain ⟨v, hv⟩ := Option.isSome_iff_exists.mp (h.isSome_part hk hl)
    have hpart : (Value.node n).part l = v := by rw [Value.part, hv, Option.getD_some]
    exact ⟨vs, by rw [← hvs, hpart]; exact hv, hvs⟩
  obtain ⟨os, hos, hparts⟩ := hlist .operators (by decide)
  obtain ⟨vs, hvs, hrights⟩ := hlist .comparators (by decide)
  have hchain := h.conforms.chain hk
  rw [hparts, hrights] at hchain
  refine ⟨hk, h.isSome_part hk (l := .left) (p := .required) (by decide), ⟨os, hos⟩, ⟨vs, hvs⟩, ?_⟩
  rw [Node.operands, Node.operators, Value.membersAt, Value.membersAt, hparts, hrights]
  exact congrArg (· + 1) hchain.symm

end CodeLint.Tree.Node

namespace CodeLint.Lint

open CodeLint.Tree

variable {n m : Node} {c : Comparison} {l : Label} {v : Value}

/-! ### The chain as a sequence of checks -/

theorem attr_eq_pure (h : n.get? l = some v) : attr (.node n) l = pure v := by
  simp only [attr, h]

theorem part_eq (h : n.get? l = some v) : (Value.node n).part l = v := by
  rw [Value.part, Value.part?, h, Option.getD_some]

theorem element_eq_pure {vs : List Value} {i : Nat} (hi : i < vs.length) :
    element (.list vs) i = pure (vs.getD i (.atom .none)) := by
  simp only [element, List.getD_eq_getElem?_getD, List.getElem?_eq_getElem hi, Option.getD_some]

theorem drop_eq_getD_cons {α : Type} (xs : List α) (d : α) {i : Nat} (hi : i < xs.length) :
    xs.drop i = xs.getD i d :: xs.drop (i + 1) := by
  rw [List.drop_eq_getElem_cons hi, List.getD_eq_getElem?_getD, List.getElem?_eq_getElem hi,
    Option.getD_some]

section Operands

variable {left : Value} {vs : List Value} (hleft : n.get? .left = some left)
  (hvs : n.get? .comparators = some (.list vs))
include hleft hvs

theorem operands_eq : n.operands = left :: vs := by
  rw [Node.operands, Value.membersAt, part_eq hleft, part_eq hvs]
  rfl

-- The checks find the left operand by the number of the operator, in one of two fields.
theorem readLeft_eq {i : Nat} (hi : i ≤ vs.length) :
    (if i == 0 then attr (.node n) .left else element (.list vs) (i - 1)) =
      pure (n.operands.getD i (.atom .none)) := by
  rw [operands_eq hleft hvs]
  cases i with
  | zero => exact attr_eq_pure hleft
  | succ i => exact element_eq_pure hi

/-- From the `i`-th operator on, the checks of the chain are those of the comparisons from there. -/
theorem checkComparisons_eq (i : Nat) (operators : List Value)
    (hi : i + operators.length < n.operands.length) :
    checkComparisons n i operators =
      ((n.operands.drop i).zip (operators.zip (n.operands.drop (i + 1)))).forM
        fun e => checkComparison n (pure e.1) e.2.1 e.2.2 := by
  have hlength : n.operands.length = vs.length + 1 := by
    rw [operands_eq hleft hvs, List.length_cons]
  induction operators generalizing i with
  | nil =>
    rw [List.zip_nil_left, List.zip_nil_right]
    rfl
  | cons operator rest ih =>
    rw [List.length_cons] at hi
    have hfirst := drop_eq_getD_cons n.operands (.atom .none) (show i < _ by omega)
    have hsecond := drop_eq_getD_cons n.operands (.atom .none) (show i + 1 < _ by omega)
    have hright : vs.getD i (.atom .none) = n.operands.getD (i + 1) (.atom .none) := by
      rw [operands_eq hleft hvs, List.getD_cons_succ]
    rw [checkComparisons, attr_eq_pure hvs, pure_bind, element_eq_pure (by omega), pure_bind,
      readLeft_eq hleft hvs (by omega), hright, ih (i + 1) (by omega), hfirst, hsecond,
      List.zip_cons_cons, List.zip_cons_cons, List.forM_eq_forM, List.forM_cons]

end Operands

theorem enterCompare_eq (h : n.IsChain) :
    enterCompare n =
      n.comparisons.forM fun c => checkComparison n (pure c.left) c.operator c.right := by
  obtain ⟨left, hleft⟩ := Option.isSome_iff_exists.mp h.left
  obtain ⟨os, hos⟩ := h.operators
  obtain ⟨vs, hvs⟩ := h.comparators
  have hlength := h.length
  have hoperators : n.operators = os := by
    rw [Node.operators, Value.membersAt, part_eq hos]
    rfl
  have hchain := checkComparisons_eq hleft hvs 0 os (by rw [← hoperators]; omega)
  rw [List.drop_zero, Nat.zero_add, List.drop_one] at hchain
  rw [enterCompare, membersAttr, attr_eq_pure hos, pure_bind, members, pure_bind, hchain,
    Node.comparisons, hoperators, List.forM_eq_forM, List.forM_eq_forM, List.forM_map]

/-! ### A comparison on its own -/

-- A node matters to the checks only by the line of the report.
theorem reportIf_congr (hk : n.kind = m.kind) (hline : n.line? = m.line?) (found : Bool)
    (f : Finding) : reportIf found f (.node n) = reportIf found f (.node m) := by
  simp only [reportIf, lineOf, hk, hline]

theorem checkComparison_congr (hk : n.kind = m.kind) (hline : n.line? = m.line?)
    (left : Check Value) (operator right : Value) :
    checkComparison n left operator right = checkComparison m left operator right := by
  simp only [checkComparison, checkEquality, checkIdentity, reportIf_congr hk hline]

theorem node_isChain (c : Comparison) (place : Place) : (c.node place).IsChain :=
  ⟨rfl, rfl, ⟨_, rfl⟩, ⟨_, rfl⟩, rfl⟩

theorem enter_comparison (above : List Link) (c : Comparison) (place : Place) :
    enter above (c.node place) =
      checkComparison (c.node place) (pure c.left) c.operator c.right := by
  change enterCompare (c.node place) = _
  rw [enterCompare_eq (node_isChain c place)]
  change (checkComparison (c.node place) (pure c.left) c.operator c.right >>= fun _ => pure ()) = _
  exact bind_pure _

theorem enter_chain (h : n.IsChain) (above : List Link) :
    enter above n = n.comparisons.forM fun c => enter above (c.node n.place) := by
  have henter : enter above n = enterCompare n := by
    rw [enter, h.kind]
  rw [henter, enterCompare_eq h]
  congr 1
  funext c
  rw [enter_comparison]
  exact checkComparison_congr (m := c.node n.place) h.kind rfl _ _ _

/-! ### The issues -/

def Analysis.adding (a : Analysis) (is : List Issue) : Analysis :=
  { a with issues := a.issues ++ is }

theorem adding_nil (a : Analysis) : a.adding [] = a := by
  rw [Analysis.adding, List.append_nil]

theorem adding_append (a : Analysis) (is js : List Issue) :
    a.adding (is ++ js) = (a.adding is).adding js := by
  simp only [Analysis.adding, List.append_assoc]

theorem after_atLine_adding (a : Analysis) (found : Bool) (f : Finding) (n : Node) :
    a.after (atLine found f (.node n)) = a.adding (if found then [⟨f, n.line?⟩] else []) := by
  cases found with
  | true => rfl
  | false => exact (adding_nil a).symm

theorem isKindIn_pair (v : Value) (k k' : Kind) :
    v.isKindIn [k, k'] = (v.isKind k || v.isKind k') := by
  cases v with
  | node m =>
    simp only [Value.isKindIn, Value.isKind, List.contains_cons, List.contains_nil, Bool.or_false]
  | atom c => rfl
  | list vs => rfl

theorem after_comparison (a : Analysis) (n : Node) (c : Comparison) :
    a.after (comparisonEffects n c.left c.operator c.right) = a.adding (c.issues n.line?) := by
  have hequality : c.operator.isKindIn [.eq, .notEq] = c.isEquality := isKindIn_pair _ _ _
  have hidentity : c.operator.isKindIn [.isSame, .isNotSame] = c.isIdentity := isKindIn_pair _ _ _
  have hfirst : a.after (if c.isEquality then
      atLine (c.hasConstant Value.isNone) .comparedToNone (.node n) ++
        atLine (c.hasConstant isBoolValue) .comparedToBool (.node n) else []) =
      a.adding
        ((if c.isEquality && c.hasConstant Value.isNone then [⟨.comparedToNone, n.line?⟩]
          else []) ++
          if c.isEquality && c.hasConstant isBoolValue then [⟨.comparedToBool, n.line?⟩]
          else []) := by
    cases c.isEquality with
    | false => exact (adding_nil a).symm
    | true =>
      simp only [if_true, Bool.true_and, Analysis.after_append, after_atLine_adding, adding_append]
  have hsecond : ∀ b : Analysis, b.after (if c.isIdentity then
      atLine (callsType c.left && callsType c.right) .comparedTypes (.node n) else []) =
      b.adding (if c.isIdentity && callsType c.left && callsType c.right then
        [⟨.comparedTypes, n.line?⟩] else []) := by
    intro b
    cases c.isIdentity with
    | false => exact (adding_nil b).symm
    | true => simp only [if_true, Bool.true_and, after_atLine_adding]
  rw [comparisonEffects, hequality, hidentity, Analysis.after_append, Comparison.issues,
    adding_append]
  exact (hsecond _).trans (congrArg (Analysis.adding · _) hfirst)

theorem comparison_adds {above : List Link} {place : Place} {a b : Analysis}
    (h : Runs (enter above (c.node place)) a () b) : b = a.adding (c.issues place.line) := by
  rw [enter_comparison] at h
  rw [(checkComparison_performs _ (reads_pure c.left) _ _).run h]
  exact after_comparison a (c.node place) c

theorem comparisons_add {above : List Link} {place : Place} {cs : List Comparison}
    {a b : Analysis} (h : Runs (cs.forM fun c => enter above (c.node place)) a () b) :
    b = a.adding (cs.flatMap (·.issues place.line)) := by
  induction cs generalizing a with
  | nil =>
    rw [(runs_pure.mp h).2]
    exact (adding_nil a).symm
  | cons c cs ih =>
    obtain ⟨d, hc, hcs⟩ := runs_seq.mp h
    rw [List.flatMap_cons, adding_append, ← comparison_adds hc]
    exact ih hcs

/-- Entering a chain of comparisons is entering its comparisons one after the other, each as a tree
of its own at the place of the chain, also where a check stops. So the chain adds the issues of its
comparisons in order and changes nothing else. A chain in a sound tree is always checked to the
end. -/
theorem chained_comparisons_decompose {n : Node} (h : n.IsChain) (above : List Link) :
    n.comparisons.length = n.operators.length ∧
    enter above n = n.comparisons.forM (fun c => enter above (c.node n.place)) ∧
    (∀ c : Comparison, ∀ a b, Runs (enter above (c.node n.place)) a () b →
      b = { a with issues := a.issues ++ c.issues n.line? }) ∧
    (∀ a b, Runs (enter above n) a () b →
      b = { a with issues := a.issues ++ n.comparisons.flatMap (·.issues n.line?) }) ∧
    (n.Sound → ∀ a, ∃ b, Runs (enter above n) a () b) := by
  refine ⟨?_, enter_chain h above, fun c a b => comparison_adds, fun a b hrun => ?_,
    fun hsound a => ?_⟩
  · have hlength := h.length
    simp only [Node.comparisons, List.length_map, List.length_zip, List.length_tail]
    omega
  · rw [enter_chain h above] at hrun
    exact comparisons_add hrun
  · rw [enter, h.kind]
    obtain ⟨_, b, hb⟩ := enterCompare_safe hsound h.kind a
    exact ⟨b, hb⟩

def mixedChain : Node :=
  ((treeOf "None == x != True is type(y) is type(z)\n").preorder.find?
    (·.kind == .compare)).getD default

theorem chained_comparisons_decompose_mixedChain :
    mixedChain.IsChain ∧ mixedChain.comparisons.length = 4 ∧
      ∀ above a, Runs (enter above mixedChain) a ()
        { a with issues := a.issues ++ [⟨.comparedToNone, some 1⟩, ⟨.comparedToBool, some 1⟩,
          ⟨.comparedTypes, some 1⟩] } := by
  have hevaluated : mixedChain.Sound ∧ mixedChain.kind = .compare ∧
      mixedChain.operators.length = 4 ∧
      mixedChain.comparisons.flatMap (·.issues mixedChain.line?) =
        [⟨.comparedToNone, some 1⟩, ⟨.comparedToBool, some 1⟩, ⟨.comparedTypes, some 1⟩] := by
    decide +kernel
  obtain ⟨hsound, hkind, hfour, hissues⟩ := hevaluated
  have hchain := hsound.isChain hkind
  obtain ⟨hlength, -⟩ := chained_comparisons_decompose hchain []
  refine ⟨hchain, hlength.trans hfour, fun above a => ?_⟩
  obtain ⟨-, -, -, hadds, hruns⟩ := chained_comparisons_decompose hchain above
  obtain ⟨b, hb⟩ := hruns hsound a
  have hadded := hadds a b hb
  rw [hissues] at hadded
  exact hadded ▸ hb

end CodeLint.Lint
