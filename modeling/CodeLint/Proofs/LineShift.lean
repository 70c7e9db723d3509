import CodeLint.Proofs.Origins
import CodeLint.Proofs.ShiftedTree
import Mathlib.Data.List.Basic

/-!
The analysis of a tree that stands some lines further down. Lines are kept in several records and
read back later, but nothing is decided by them. So the analysis of the shifted tree is the shifted
analysis: its issues are the same, in the same order, with their lines shifted.
-/

namespace CodeLint.Lint

open CodeLint.Tree CodeLint.Text

variable {k : Int}

/-! ### Shifted records -/

def Issue.shift (k : Int) (i : Issue) : Issue := { i with line := shiftLine k i.line }

def FunctionRecord.shift (k : Int) (r : FunctionRecord) : FunctionRecord :=
  { r with line := shiftLine k r.line }

def shiftEntry (k : Int) (e : String × Line) : String × Line := (e.1, shiftLine k e.2)

def Analysis.shift (k : Int) (a : Analysis) : Analysis :=
  { a with
    issues := a.issues.map (Issue.shift k)
    assignments := a.assignments.map (shiftEntry k)
    usages := a.usages.map (shiftEntry k)
    moduleLevel := a.moduleLevel.map (shiftEntry k)
    definitions := a.definitions.map (FunctionRecord.shift k)
    imports := a.imports.map (shiftEntry k) }

def Link.shift (k : Int) (link : Link) : Link := { link with node := link.node.shift k }

def Effect.shift (k : Int) : Effect → Effect
  | .report f line => .report f (shiftLine k line)
  | .noteConstant x line => .noteConstant x (shiftLine k line)
  | .addImport x line => .addImport x (shiftLine k line)
  | .define f line => .define f (shiftLine k line)
  | .checkReturns f line => .checkReturns f (shiftLine k line)
  | .noteAssignment x line => .noteAssignment x (shiftLine k line)
  | .checkVariable x line => .checkVariable x (shiftLine k line)
  | .checkDefined x line => .checkDefined x (shiftLine k line)
  | .noteUsage x line => .noteUsage x (shiftLine k line)
  | .checkDepth line => .checkDepth (shiftLine k line)
  | e => e

theorem shiftLine_injective (k : Int) : Function.Injective (shiftLine k) :=
  Option.map_injective fun i j (h : i + k = j + k) => by omega

theorem shiftEntry_injective (k : Int) : Function.Injective (shiftEntry k) := by
  intro e f h
  obtain ⟨hname, hline⟩ := Prod.mk.inj h
  exact Prod.ext hname (shiftLine_injective k hline)

theorem put_shift (x : String) (line : Line) (m : Ordered Line) :
    Ordered.put x (shiftLine k line) (m.map (shiftEntry k)) =
      (Ordered.put x line m).map (shiftEntry k) := by
  induction m with
  | nil => rfl
  | cons e m ih =>
    obtain ⟨y, old⟩ := e
    simp only [List.map_cons, shiftEntry, Ordered.put]
    split
    · rfl
    · rw [List.map_cons, ← ih]
      rfl

theorem has_shift (x : String) (m : Ordered Line) :
    Ordered.has x (m.map (shiftEntry k)) = Ordered.has x m := by
  simp [Ordered.has, List.any_map, Function.comp_def, shiftEntry]

theorem insertNew_shift (e : String × Line) (es : List (String × Line)) :
    insertNew (shiftEntry k e) (es.map (shiftEntry k)) = (insertNew e es).map (shiftEntry k) := by
  -- Entries are compared with their lines, and shifting keeps different lines different.
  have hcontains : (es.map (shiftEntry k)).contains (shiftEntry k e) = es.contains e := by
    rw [Bool.eq_iff_iff, List.contains_iff_mem, List.contains_iff_mem,
      List.mem_map_of_injective (shiftEntry_injective k)]
  rw [insertNew, hcontains, insertNew]
  split
  · rfl
  · simp

@[simp] theorem isImported_shift (a : Analysis) (x : String) :
    (a.shift k).isImported x = a.isImported x := by
  simp [Analysis.isImported, Analysis.shift, List.any_map, Function.comp_def, shiftEntry]

@[simp] theorem isDefined_shift (a : Analysis) (x : String) :
    (a.shift k).isDefined x = a.isDefined x := by
  simp only [Analysis.isDefined, isImported_shift]
  rfl

theorem bind_shift (a : Analysis) (x : String) (b : Binding) :
    (a.shift k).bind x b = (a.bind x b).shift k := by
  have hcurrent : (a.shift k).current = a.current := rfl
  unfold Analysis.bind
  rw [hcurrent]
  cases a.current <;> rfl

theorem report_shift (a : Analysis) (f : Finding) (line : Line) :
    (a.shift k).report f (shiftLine k line) = (a.report f line).shift k := by
  simp [Analysis.report, Analysis.shift, Issue.shift]

theorem definition?_shift (a : Analysis) (f : String) :
    (a.shift k).definition? f = (a.definition? f).map (FunctionRecord.shift k) := by
  have hfunctions : (a.shift k).functions = a.functions := rfl
  unfold Analysis.definition?
  rw [hfunctions]
  cases a.functions.get? f with
  | none => rfl
  | some i => simp [Analysis.shift]

theorem addReturn_shift (a : Analysis) (f : String) (hasValue : Bool) :
    (a.shift k).addReturn f hasValue = (a.addReturn f hasValue).shift k := by
  have hfunctions : (a.shift k).functions = a.functions := rfl
  unfold Analysis.addReturn
  rw [hfunctions]
  cases a.functions.get? f with
  | none => rfl
  | some i =>
    have hdefinitions : (a.definitions.map (FunctionRecord.shift k)).modify i
        (fun r => { r with returns := r.returns ++ [hasValue] }) =
          (a.definitions.modify i fun r => { r with returns := r.returns ++ [hasValue] }).map
            (FunctionRecord.shift k) := by
      refine List.ext_getElem? fun j => ?_
      simp only [List.getElem?_modify, List.getElem?_map]
      cases a.definitions[j]? with
      | none => rfl
      | some r => by_cases hij : i = j <;> simp [hij, FunctionRecord.shift]
    simp only [Analysis.shift, hdefinitions]

theorem apply_shift (e : Effect) (a : Analysis) :
    (e.shift k).apply (a.shift k) = (e.apply a).shift k := by
  cases e with
  | report f line => exact report_shift a f line
  | bind x b => exact bind_shift a x b
  | addImport x line =>
    have himports := insertNew_shift (k := k) (x, line) a.imports
    simp only [Effect.shift, Effect.apply, Analysis.shift, ← himports]
    rfl
  | noteConstant x line | noteAssignment x line | noteUsage x line =>
    simp only [Effect.shift, Effect.apply, Analysis.shift, put_shift]
  | define f line =>
    simp [Effect.shift, Effect.apply, Analysis.shift, Analysis.define, FunctionRecord.shift]
  | addReturn hasValue =>
    have hcurrent : (a.shift k).currentFunction = a.currentFunction := rfl
    simp only [Effect.shift, Effect.apply, hcurrent]
    split
    · rfl
    · split
      · rfl
      · exact addReturn_shift a _ hasValue
  | checkReturns f line =>
    simp only [Effect.shift, Effect.apply, definition?_shift]
    cases a.definition? f with
    | none => rfl
    | some r =>
      have hreturns : (r.shift k).returns = r.returns := rfl
      simp only [Option.map_some, hreturns]
      split
      · exact report_shift a _ line
      · rfl
  | checkVariable x line =>
    have hnames : (a.shift k).classNames = a.classNames := rfl
    simp only [Effect.shift, Effect.apply, hnames]
    split
    · rfl
    · exact report_shift a _ line
  | checkDefined x line =>
    simp only [Effect.shift, Effect.apply, isDefined_shift]
    split
    · rfl
    · exact report_shift a _ line
  | checkDepth line =>
    have hdepth : (a.shift k).loopDepth = a.loopDepth := rfl
    simp only [Effect.shift, Effect.apply, hdepth]
    split
    · exact report_shift a _ line
    · rfl
  | markUsed x =>
    simp only [Effect.shift, Effect.apply, Analysis.markUsed, isImported_shift]
    split <;> rfl
  | store x =>
    have hscope : (a.shift k).currentScope = a.currentScope := rfl
    simp only [Effect.shift, Effect.apply, hscope]
    split
    · rfl
    · exact bind_shift a x .assigned
  | reportUnusedImports =>
    simp [Effect.shift, Effect.apply, Analysis.reportUnusedImports, Analysis.shift, List.filter_map,
      Function.comp_def, shiftEntry, Issue.shift]
    rfl
  | _ => rfl

theorem after_shift (a : Analysis) (es : List Effect) :
    (a.shift k).after (es.map (Effect.shift k)) = (a.after es).shift k := by
  induction es generalizing a with
  | nil => rfl
  | cons e es ih => rw [List.map_cons, Analysis.after_cons, apply_shift, ih, Analysis.after_cons]

/-! ### Effects of shifted nodes -/

@[simp] theorem title_shift (n : Node) : (n.shift k).title = n.title := by
  rw [Node.title, ← Value.shift_node, Value.textAt_shift _ (by decide), Node.title]

@[simp] theorem ident_shift (n : Node) : (n.shift k).ident = n.ident := by
  rw [Node.ident, ← Value.shift_node, Value.textAt_shift _ (by decide), Node.ident]

@[simp] theorem importName_shift (item : Value) : importName (item.shift k) = importName item := by
  simp (disch := decide) only [importName, Value.part_shift, Value.textAt_shift, Value.isFalsy_shift,
    Value.text_shift]

theorem atLine_shift (found : Bool) (f : Finding) (v : Value) :
    atLine found f (v.shift k) = (atLine found f v).map (Effect.shift k) := by
  cases found <;> simp [atLine, Effect.shift]

theorem flatMap_shift {α : Type} {g : α → α} {es es' : α → List Effect}
    (h : ∀ x, es' (g x) = (es x).map (Effect.shift k)) (xs : List α) :
    (xs.map g).flatMap es' = (xs.flatMap es).map (Effect.shift k) := by
  rw [List.flatMap_map, List.map_flatMap]
  simp only [h]

theorem constantEffects_shift (v : Value) :
    constantEffects (v.shift k) = (constantEffects v).map (Effect.shift k) := by
  simp (disch := decide) only [constantEffects, Value.isKind_shift, Value.textAt_shift, atLine_shift,
    Value.line_shift]
  split <;> rfl

theorem statementEffects_shift (v : Value) :
    statementEffects (v.shift k) = (statementEffects v).map (Effect.shift k) := by
  simp (disch := decide) only [statementEffects, Value.isKind_shift, Value.membersAt_shift,
    flatMap_shift constantEffects_shift]
  split <;> rfl

theorem moduleEffects_shift (n : Node) :
    moduleEffects (n.shift k) = (moduleEffects n).map (Effect.shift k) := by
  simp (disch := decide) only [moduleEffects, ← Value.shift_node, Value.membersAt_shift,
    flatMap_shift statementEffects_shift]
  rfl

theorem importEffects_shift (n : Node) :
    importEffects (n.shift k) = (importEffects n).map (Effect.shift k) := by
  have hitem : ∀ item, itemEffects (n.shift k) (Value.shift k item) =
      (itemEffects n item).map (Effect.shift k) := by
    intro item
    simp [itemEffects, Effect.shift]
  simp (disch := decide) only [importEffects, ← Value.shift_node, Value.membersAt_shift]
  exact flatMap_shift hitem _

theorem severalEffects_shift (n : Node) :
    severalEffects (n.shift k) = (severalEffects n).map (Effect.shift k) := by
  simp (disch := decide) only [severalEffects, ← Value.shift_node, Value.membersAt_shift,
    List.length_map, atLine_shift]

theorem classEffects_shift (n : Node) :
    classEffects (n.shift k) = (classEffects n).map (Effect.shift k) := by
  simp only [classEffects, title_shift, ← Value.shift_node, atLine_shift, List.map_append]
  rfl

theorem documented_shift (n : Node) : documented (n.shift k) = documented n := by
  simp (disch := decide) only [documented, ← Value.shift_node, Value.part_shift, Value.item_shift,
    Value.isFalsy_shift, Value.isKind_shift, Value.isText_shift, Value.text_shift]

theorem restParameter_shift (p : Value) :
    restParameter (p.shift k) = (restParameter p).map (Value.shift k) := by
  simp only [restParameter, Value.isFalsy_shift]
  split <;> rfl

theorem parameterEffects_shift (allowed : List String) (finding : String → Finding) (p : Value) :
    parameterEffects allowed finding (p.shift k) =
      (parameterEffects allowed finding p).map (Effect.shift k) := by
  simp (disch := decide) only [parameterEffects, Value.textAt_shift, atLine_shift]

theorem signatureEffects_shift (n : Node) (f : String) (params : Value) :
    signatureEffects (n.shift k) f (params.shift k) =
      (signatureEffects n f params).map (Effect.shift k) := by
  have hdefault : ∀ v, defaultEffects f (n.shift k) (Value.shift k v) =
      (defaultEffects f n v).map (Effect.shift k) := by
    intro v
    simp only [defaultEffects, Value.isKindIn_shift, ← Value.shift_node, atLine_shift]
  simp (disch := decide) only [signatureEffects, Value.membersAt_shift, Value.part_shift,
    restParameter_shift, List.map_append, flatMap_shift (parameterEffects_shift _ _),
    flatMap_shift hdefault]

theorem parameterNames_shift (n : Node) : (n.shift k).parameterNames = n.parameterNames := by
  have htext : (fun p : Value => p.textAt .argument) ∘ Value.shift k =
      fun p => p.textAt .argument := by
    funext p
    exact Value.textAt_shift p (by decide)
  simp (disch := decide) only [Node.parameterNames, boundParameters, ← Value.shift_node,
    Value.part_shift, Value.membersAt_shift, restParameter_shift, List.map_append, List.map_map,
    htext]

theorem functionEffects_shift (n : Node) :
    functionEffects (n.shift k) = (functionEffects n).map (Effect.shift k) := by
  have hbind : (n.parameterNames.map fun x => Effect.bind x .param).map (Effect.shift k) =
      n.parameterNames.map fun x => Effect.bind x .param := by
    rw [List.map_map]
    rfl
  have hsignature := signatureEffects_shift (k := k) n n.title ((Value.node n).part .positional)
  rw [← Value.part_shift _ (by decide), Value.shift_node] at hsignature
  simp only [functionEffects, title_shift, documented_shift, parameterNames_shift, List.map_append,
    hbind, ← hsignature, ← atLine_shift, Value.shift_node, Node.line?_shift]
  rfl

theorem lambdaEffects_shift (n : Node) :
    lambdaEffects (n.shift k) = (lambdaEffects n).map (Effect.shift k) := by
  simp (disch := decide) only [lambdaEffects, ← Value.shift_node, Value.part_shift,
    Value.isKind_shift, Value.members_shift, List.length_map, Value.item_shift, Value.textAt_shift,
    Node.line?_shift]
  repeat' split
  all_goals rfl

theorem variableEffects_shift (atModule : Bool) (x : String) (target : Value) :
    variableEffects atModule x (target.shift k) =
      (variableEffects atModule x target).map (Effect.shift k) := by
  simp only [variableEffects, atLine_shift, Value.line_shift]
  repeat' split
  all_goals rfl

theorem leafEffects_shift (atModule : Bool) (n : Node) :
    leafEffects atModule (n.shift k) = (leafEffects atModule n).map (Effect.shift k) := by
  simp only [leafEffects, ident_shift, ← Value.shift_node, atLine_shift, variableEffects_shift,
    Node.line?_shift, List.map_append]
  cases atModule <;> rfl

end CodeLint.Lint

namespace CodeLint.Tree

variable {k : Int}

mutual
theorem Node.leaves_shift : ∀ n : Node, (n.shift k).leaves = n.leaves.map (Node.shift k)
  | .mk kind place fields => by
    rw [Node.shift, Node.leaves, Node.leaves, Field.leaves_shiftAll fields]
    split
    · rw [List.map_singleton, Node.shift]
    · split <;> rfl
theorem Field.leaves_shiftAll : ∀ fs : List Field,
    Field.leaves (Field.shiftAll k fs) = (Field.leaves fs).map (Node.shift k)
  | [] => by rw [Field.shiftAll, Field.leaves]; rfl
  | .mk l v :: fs => by
    rw [Field.shiftAll, Field.leaves, Field.leaves, Field.leaves_shiftAll fs]
    split
    · rename_i hl
      subst hl
      exact Value.partLeaves_shift v
    · rfl
theorem Value.partLeaves_shift : ∀ v : Value,
    (v.shift k).partLeaves = v.partLeaves.map (Node.shift k)
  | .list vs => by
    rw [Value.shift, Value.partLeaves, Value.partLeaves, Value.eachLeaves_shiftAll vs]
  | .node n => by rw [Value.shift, Value.partLeaves, Value.partLeaves] <;> simp
  | .atom a => by rw [Value.shift, Value.partLeaves] <;> simp
theorem Value.eachLeaves_shiftAll : ∀ vs : List Value,
    Value.eachLeaves (Value.shiftAll k vs) = (Value.eachLeaves vs).map (Node.shift k)
  | [] => by rw [Value.shiftAll, Value.eachLeaves]; rfl
  | .node n :: vs => by
    rw [Value.shiftAll, Value.shift, Value.eachLeaves, Value.eachLeaves, List.map_append,
      Node.leaves_shift n, Value.eachLeaves_shiftAll vs]
  | .list ws :: vs => by
    rw [Value.shiftAll, Value.shift, Value.eachLeaves, Value.eachLeaves,
      Value.eachLeaves_shiftAll vs] <;> simp
  | .atom a :: vs => by
    rw [Value.shiftAll, Value.shift, Value.eachLeaves, Value.eachLeaves,
      Value.eachLeaves_shiftAll vs] <;> simp
end

theorem Value.leaves_shift (v : Value) : (v.shift k).leaves = v.leaves.map (Node.shift k) := by
  cases v <;> simp [Value.leaves, Node.leaves_shift]

theorem Node.assignedLeaves_shift (n : Node) :
    (n.shift k).assignedLeaves = n.assignedLeaves.map (Node.shift k) := by
  rw [Node.assignedLeaves, ← Value.shift_node, Value.membersAt_shift _ (by decide),
    Node.assignedLeaves, List.flatMap_map, List.map_flatMap]
  simp only [Value.leaves_shift]

theorem Node.loopLeaves_shift (n : Node) :
    (n.shift k).loopLeaves = n.loopLeaves.map (Node.shift k) := by
  rw [Node.loopLeaves, ← Value.shift_node, Value.part_shift _ (by decide), Value.leaves_shift,
    Node.loopLeaves]

theorem Node.declaredNames_shift (n : Node) : (n.shift k).declaredNames = n.declaredNames := by
  rw [Node.declaredNames, ← Value.shift_node, Value.membersAt_shift _ (by decide),
    Node.declaredNames, List.map_map]
  simp [Function.comp_def]

end CodeLint.Tree

namespace CodeLint.Lint

open CodeLint.Tree CodeLint.Text

variable {k : Int}

theorem topLevel_shift (above : List Link) :
    topLevel (above.map (Link.shift k)) = topLevel above := by
  cases above with
  | nil => rfl
  | cons link above => simp [topLevel, Link.shift]

theorem managed_shift (above : List Link) :
    managed (above.map (Link.shift k)) = managed above := by
  rw [managed, managed, List.any_map]
  congr 1
  funext link
  simp (disch := decide) [Link.shift, ← Value.shift_node, Value.membersAt_shift]

theorem assignEffects_shift (above : List Link) (n : Node) :
    assignEffects (above.map (Link.shift k)) (n.shift k) =
      (assignEffects above n).map (Effect.shift k) := by
  rw [assignEffects, topLevel_shift, lambdaEffects_shift, Node.assignedLeaves_shift,
    flatMap_shift (leafEffects_shift _), assignEffects, List.map_append]

theorem nameEffects_shift (n : Node) :
    nameEffects (n.shift k) = (nameEffects n).map (Effect.shift k) := by
  simp (disch := decide) only [nameEffects, ident_shift, Node.line?_shift, ← Value.shift_node,
    Value.part_shift, Value.isKind_shift]
  repeat' split
  all_goals rfl

theorem forEffects_shift (above : List Link) (n : Node) :
    forEffects (above.map (Link.shift k)) (n.shift k) =
      (forEffects above n).map (Effect.shift k) := by
  simp only [forEffects, topLevel_shift, loopEffects, Node.line?_shift, Node.loopLeaves_shift,
    flatMap_shift (leafEffects_shift _), List.map_append, List.map_cons]
  rfl

theorem constantIs_shift {test : Value → Bool} (htest : ∀ v, test (Value.shift k v) = test v)
    (v : Value) : constantIs test (v.shift k) = constantIs test v := by
  rw [constantIs, Value.part_shift _ (by decide), htest, Value.isKind_shift, constantIs]

theorem isTrueValue_shift (v : Value) : isTrueValue (v.shift k) = isTrueValue v := by
  cases v <;> simp [isTrueValue]

theorem isBoolValue_shift (v : Value) : isBoolValue (v.shift k) = isBoolValue v := by
  cases v <;> simp [isBoolValue]

theorem isZeroValue_shift (v : Value) : isZeroValue (v.shift k) = isZeroValue v := by
  cases v <;> simp [isZeroValue]

theorem whileEffects_shift (n : Node) :
    whileEffects (n.shift k) = (whileEffects n).map (Effect.shift k) := by
  simp (disch := decide) only [whileEffects, loopEffects, Node.line?_shift, Node.contains_shift,
    ← Value.shift_node, Value.part_shift, constantIs_shift isTrueValue_shift, atLine_shift,
    List.map_append]
  rfl

theorem callsType_shift (v : Value) : callsType (v.shift k) = callsType v := by
  simp (disch := decide) only [callsType, Value.isKind_shift, Value.part_shift, Value.textAt_shift]

theorem comparisonEffects_shift (n : Node) (left operator right : Value) :
    comparisonEffects (n.shift k) (left.shift k) (operator.shift k) (right.shift k) =
      (comparisonEffects n left operator right).map (Effect.shift k) := by
  simp only [comparisonEffects, Value.isKindIn_shift, constantIs_shift Value.isNone_shift,
    constantIs_shift isBoolValue_shift, callsType_shift, ← Value.shift_node, atLine_shift,
    List.map_append]
  repeat' split
  all_goals simp

theorem leftOperand_shift (n : Node) (i : Nat) :
    leftOperand (n.shift k) i = (leftOperand n i).shift k := by
  simp (disch := decide) only [leftOperand, ← Value.shift_node, Value.part_shift, Value.item_shift]
  split <;> rfl

theorem chainEffects_shift (n : Node) (i : Nat) (operators : List Value) :
    chainEffects (n.shift k) i (operators.map (Value.shift k)) =
      (chainEffects n i operators).map (Effect.shift k) := by
  induction operators generalizing i with
  | nil => rfl
  | cons operator rest ih =>
    rw [List.map_cons, chainEffects, leftOperand_shift, ← Value.shift_node,
      Value.part_shift _ (by decide), Value.item_shift, comparisonEffects_shift, ih, chainEffects,
      List.map_append]

theorem binaryEffects_shift (n : Node) :
    binaryEffects (n.shift k) = (binaryEffects n).map (Effect.shift k) := by
  simp (disch := decide) only [binaryEffects, ← Value.shift_node, Value.part_shift,
    Value.isKindIn_shift, constantIs_shift isZeroValue_shift, atLine_shift]

theorem handlerEffects_shift (h : Value) :
    handlerEffects (h.shift k) = (handlerEffects h).map (Effect.shift k) := by
  simp (disch := decide) only [handlerEffects, Value.part_shift, Value.isFalsy_shift,
    Value.isNone_shift, Value.isKind_shift, Value.textAt_shift, Value.line_shift, atLine_shift,
    List.map_append]
  split <;> rfl

theorem callEffects_shift (above : List Link) (n : Node) :
    callEffects (above.map (Link.shift k)) (n.shift k) =
      (callEffects above n).map (Effect.shift k) := by
  simp (disch := decide) only [callEffects, managed_shift, ← Value.shift_node, Value.part_shift,
    Value.isKind_shift, Value.textAt_shift, atLine_shift]
  repeat' split
  all_goals simp [Effect.shift]

theorem entering_shift (above : List Link) (n : Node) :
    entering (above.map (Link.shift k)) (n.shift k) = (entering above n).map (Effect.shift k) := by
  simp only [entering, Node.kind_shift]
  split
  · exact moduleEffects_shift n
  · rw [severalEffects_shift, importEffects_shift, List.map_append]
  · exact importEffects_shift n
  · exact classEffects_shift n
  · exact functionEffects_shift n
  · rw [← Value.shift_node, Value.part_shift _ (by decide), Value.isNone_shift]
    rfl
  · exact assignEffects_shift above n
  · exact nameEffects_shift n
  · rw [Node.declaredNames_shift, List.map_map]
    rfl
  · rw [Node.declaredNames_shift, List.map_map]
    rfl
  · exact forEffects_shift above n
  · exact whileEffects_shift n
  · rw [← Value.shift_node, Value.membersAt_shift _ (by decide)]
    exact chainEffects_shift n 0 _
  · exact binaryEffects_shift n
  · rw [← Value.shift_node, Value.membersAt_shift _ (by decide),
      flatMap_shift handlerEffects_shift]
  · exact callEffects_shift above n
  · rfl

theorem leaving_shift (n : Node) (previous : ScopeRef) :
    leaving (n.shift k) previous = (leaving n previous).map (Effect.shift k) := by
  simp only [leaving, Node.kind_shift, title_shift, Node.line?_shift]
  split <;> rfl

/-! ### Whole analyses -/

theorem shift_mirrors (k : Int) :
    Mirrors (Node.shift k) (fun above above' => above' = above.map (Link.shift k))
      (fun a a' => a' = a.shift k) where
  branches := Node.branches_shift
  below above above' n h := by rw [h]; rfl
  enter above above' n a a' hlinks h := by rw [hlinks, h, entering_shift, after_shift]
  leave n a a' m m' h hm := by
    rw [h, hm, leaving_shift, show (a.shift k).current = a.current from rfl, after_shift]

theorem reportUnused_shift (a : Analysis) : (a.shift k).reportUnused = a.reportUnused.shift k := by
  have hunused : (a.assignments.map (shiftEntry k)).filter (fun e =>
      !(a.shift k).usages.has e.1 && !(a.shift k).isImported e.1 && !isBuiltIn e.1) =
        (a.assignments.filter fun e =>
          !a.usages.has e.1 && !a.isImported e.1 && !isBuiltIn e.1).map (shiftEntry k) := by
    rw [List.filter_map]
    congr 1
    congr 1
    funext e
    simp only [Function.comp_apply, shiftEntry, isImported_shift]
    rw [show (a.shift k).usages = a.usages.map (shiftEntry k) from rfl, has_shift]
  simp only [Analysis.reportUnused]
  rw [show (a.shift k).assignments = a.assignments.map (shiftEntry k) from rfl, hunused]
  simp only [Analysis.shift, List.map_append, List.map_map]
  rfl

/-- The issues of a shifted tree are those of the tree itself, in the same order, each at a line that
is as much further down. -/
theorem issues_shift_with_lines {n : Node} (h : n.WellFormed) (k : Int) :
    ∃ a b : Analysis, analysis n = .ok a ∧ analysis (n.shift k) = .ok b ∧
      (∀ i ∈ a.issues, i.line.isSome = true) ∧ b.issues = a.issues.map (Issue.shift k) := by
  obtain ⟨a, hrun, ha⟩ := analysis_eq h
  obtain ⟨b, hrun', hb⟩ := analysis_eq (h.shift k)
  have hmirrors : b = a.shift k := (shift_mirrors k).visit (by rfl) hrun hrun' rfl
  obtain ⟨c, hc, harise⟩ := issues_arise h
  obtain rfl : a.reportUnused = c := Except.ok.inj (ha.symm.trans hc)
  refine ⟨_, _, ha, hb, fun i hi => (harise i hi).2.1, ?_⟩
  rw [hmirrors, reportUnused_shift]
  rfl

def metTwice : Node := treeOf "import os\nimport os\nx = y\nx = os, 1\n"

theorem issues_shift_with_lines_metTwice :
    metTwice.WellFormed ∧ ∃ a b : Analysis, analysis metTwice = .ok a ∧
      analysis (metTwice.shift 40) = .ok b ∧
      b.issues = [⟨.undefinedVariable "y", some 43⟩, ⟨.unusedVariable "x", some 44⟩] := by
  have hevaluated : metTwice.WellFormed ∧ (analysis metTwice).toOption.map (·.issues) =
      some [⟨.undefinedVariable "y", some 3⟩, ⟨.unusedVariable "x", some 4⟩] := by
    decide +kernel
  obtain ⟨hformed, hissues⟩ := hevaluated
  obtain ⟨a, b, ha, hb, -, hshift⟩ := issues_shift_with_lines hformed 40
  rw [ha] at hissues
  refine ⟨hformed, a, b, ha, hb, ?_⟩
  rw [hshift, show a.issues = _ from Option.some.inj hissues]
  rfl

end CodeLint.Lint
