import CodeLint.Proofs.Effect

/-!
Entering and leaving a node do what their lists of effects say. `Performs c es` holds when every
run of the check `c` changes the analysis by the effects `es`, whatever the analysis was before,
and a check that stops has performed the first of these effects. `Reads c x` holds when the check
never changes anything and gives `x` if it runs.
-/

namespace CodeLint.Lint

open CodeLint.Tree CodeLint.Text

variable {α β : Type} {a b : Analysis}

structure Reads (c : Check α) (x : α) : Prop where
  unchanged : ∀ a, (c.apply a).2 = a
  value : ∀ a y b, Runs c a y b → y = x

structure PerformsFrom (a : Analysis) (c : Check Unit) (es : List Effect) : Prop where
  run : ∀ b, Runs c a () b → b = a.after es
  stop : ∃ ps, ps <+: es ∧ (c.apply a).2 = a.after ps

def Performs (c : Check Unit) (es : List Effect) : Prop := ∀ a, PerformsFrom a c es

theorem Reads.run {c : Check α} {x y : α} (h : Reads c x) (hrun : Runs c a y b) :
    y = x ∧ b = a := by
  have hb : (c.apply a).2 = b := by rw [hrun]
  exact ⟨h.value a y b hrun, by rw [← hb, h.unchanged]⟩

theorem reads_pure (x : α) : Reads (pure x) x :=
  ⟨fun _ => rfl, fun _ _ _ h => (runs_pure.mp h).1⟩

theorem reads_throw (f : Fault) (x : α) : Reads (throw f) x :=
  ⟨fun _ => rfl, fun _ _ _ h => absurd h runs_throw.mp⟩

theorem Reads.bind {c : Check α} {f : α → Check β} {x : α} {y : β}
    (hc : Reads c x) (hf : Reads (f x) y) : Reads (c >>= f) y where
  unchanged a := by
    have hsame := hc.unchanged a
    rw [apply_bind]
    cases hr : c.apply a with
    | mk r m =>
      rw [hr] at hsame
      obtain rfl : m = a := hsame
      cases r with
      | error e => rfl
      | ok z =>
        obtain rfl := hc.value m z m hr
        exact hf.unchanged m
  value a z b h := by
    obtain ⟨x, m, hx, hy⟩ := runs_bind.mp h
    obtain ⟨rfl, rfl⟩ := hc.run hx
    exact hf.value _ _ _ hy

theorem reads_discard {c : Check α} {x : α} (h : Reads c x) : Reads (discard c) () where
  unchanged a := by
    have hd : discard c = c >>= fun _ => pure PUnit.unit := by
      rw [Functor.discard, LawfulFunctor.map_const, bind_pure_comp]
      rfl
    rw [hd]
    exact (h.bind (reads_pure PUnit.unit)).unchanged a
  value _ _ _ _ := rfl

theorem reads_ite {p : Prop} [Decidable p] {c d : Check α} {x y : α}
    (hc : Reads c x) (hd : Reads d y) : Reads (if p then c else d) (if p then x else y) := by
  split
  · exact hc
  · exact hd

theorem reads_attr (v : Value) (l : Label) : Reads (attr v l) (v.part l) where
  unchanged a := by
    unfold attr
    split
    · split <;> rfl
    · rfl
  value _ _ _ h := (runs_attr.mp h).2.1

theorem reads_lineOf (v : Value) : Reads (lineOf v) v.line where
  unchanged a := by
    unfold lineOf
    split
    · split <;> rfl
    · rfl
  value _ _ _ h := (runs_lineOf.mp h).2.1

theorem reads_textOf (v : Value) : Reads (textOf v) v.text where
  unchanged a := by
    unfold textOf
    split <;> rfl
  value _ _ _ h := (runs_textOf.mp h).2.1

theorem reads_members (v : Value) : Reads (members v) v.members where
  unchanged a := by
    unfold members
    split <;> rfl
  value _ _ _ h := (runs_members.mp h).2.1

theorem reads_sizeOf (v : Value) : Reads (sizeOf v) v.members.length where
  unchanged a := by
    unfold sizeOf
    split <;> rfl
  value _ _ _ h := (runs_sizeOf.mp h).2.1

theorem reads_element (v : Value) (i : Nat) : Reads (element v i) (v.item i) where
  unchanged a := by
    unfold element
    split
    · split <;> rfl
    · rfl
  value _ _ _ h := (runs_element.mp h).2.1

theorem reads_textAttr (v : Value) (l : Label) : Reads (textAttr v l) (v.textAt l) :=
  (reads_attr v l).bind (reads_textOf _)

theorem reads_membersAttr (v : Value) (l : Label) : Reads (membersAttr v l) (v.membersAt l) :=
  (reads_attr v l).bind (reads_members _)

/-! ### Effects from one analysis -/

namespace PerformsFrom

variable {c d : Check Unit} {es fs : List Effect}

theorem of_error {f : Fault} (h : c.apply a = (.error f, a)) : PerformsFrom a c es where
  run b hb := by
    rw [Runs, h] at hb
    cases hb
  stop := ⟨[], List.nil_prefix, by rw [h]; rfl⟩

theorem of_apply_eq (h : c.apply a = d.apply a) (hd : PerformsFrom a d es) :
    PerformsFrom a c es where
  run b hb := hd.run b (by rwa [Runs, ← h])
  stop := h ▸ hd.stop

/-- At most one effect is performed as a whole or not at all, so it may be told in other effects
that come to the same. -/
theorem restate (h : PerformsFrom a c es) (hes : es.length ≤ 1) (hfs : a.after es = a.after fs) :
    PerformsFrom a c fs where
  run b hb := by rw [h.run b hb, hfs]
  stop := by
    obtain ⟨ps, hps, hstop⟩ := h.stop
    cases ps with
    | nil => exact ⟨[], List.nil_prefix, hstop⟩
    | cons p ps =>
      have hlength : es.length ≤ (p :: ps).length := by
        rw [List.length_cons]
        omega
      rw [hps.eq_of_length_le hlength, hfs] at hstop
      exact ⟨fs, List.prefix_rfl, hstop⟩

theorem seq (hc : PerformsFrom a c es) (hd : Performs d fs) :
    PerformsFrom a (c >>= fun _ => d) (es ++ fs) where
  run b h := by
    obtain ⟨_, m, hm, h⟩ := runs_bind.mp h
    rw [Analysis.after_append, ← hc.run m hm]
    exact (hd m).run b h
  stop := by
    rw [apply_bind]
    cases hr : c.apply a with
    | mk r m =>
      cases r with
      | error e =>
        obtain ⟨ps, hps, hstop⟩ := hc.stop
        rw [hr] at hstop
        exact ⟨ps, hps.trans (List.prefix_append es fs), hstop⟩
      | ok x =>
        obtain ⟨ps, hps, hstop⟩ := (hd m).stop
        refine ⟨es ++ ps, (List.prefix_append_right_inj es).mpr hps, ?_⟩
        rw [Analysis.after_append, ← hc.run m hr]
        exact hstop

end PerformsFrom

theorem Performs.run {c : Check Unit} {es : List Effect} (h : Performs c es)
    (hrun : Runs c a () b) : b = a.after es :=
  (h a).run b hrun

theorem Performs.seq {c d : Check Unit} {es fs : List Effect}
    (hc : Performs c es) (hd : Performs d fs) : Performs (c >>= fun _ => d) (es ++ fs) :=
  fun a => (hc a).seq hd

theorem Reads.performsFrom {c : Check α} {f : α → Check Unit} {x : α} {es : List Effect}
    (hc : Reads c x) (hf : PerformsFrom a (f x) es) : PerformsFrom a (c >>= f) es := by
  have hsame := hc.unchanged a
  cases hr : c.apply a with
  | mk r m =>
    rw [hr] at hsame
    obtain rfl : m = a := hsame
    cases r with
    | error e => exact .of_error (by rw [apply_bind, hr])
    | ok y =>
      obtain rfl := hc.value m y m hr
      exact .of_apply_eq (by rw [apply_bind, hr]) hf

theorem Reads.performs {c : Check α} {f : α → Check Unit} {x : α} {es : List Effect}
    (hc : Reads c x) (hf : Performs (f x) es) : Performs (c >>= f) es :=
  fun a => hc.performsFrom (hf a)

theorem performs_ite {p : Prop} [Decidable p] {c d : Check Unit} {es fs : List Effect}
    (hc : Performs c es) (hd : Performs d fs) :
    Performs (if p then c else d) (if p then es else fs) := by
  split
  · exact hc
  · exact hd

theorem performs_pure : Performs (pure ()) [] :=
  fun _ => ⟨fun _ h => (runs_pure.mp h).2, [], List.nil_prefix, rfl⟩

theorem performs_modify (e : Effect) : Performs (modify fun a => e.apply a) [e] :=
  fun _ => ⟨fun _ h => runs_modify.mp h, [e], List.prefix_rfl, rfl⟩

/-- A check that first looks at the analysis may do different things to different ones. -/
theorem performsFrom_get {f : Analysis → Check Unit} {es : List Effect}
    (hf : PerformsFrom a (f a) es) : PerformsFrom a (get >>= f) es :=
  .of_apply_eq (d := f a) rfl hf

theorem performs_report (v : Value) (f : Finding) :
    Performs (do report f (← lineOf v)) [.report f v.line] :=
  (reads_lineOf v).performs (performs_modify (.report f v.line))

theorem performs_reportIf (found : Bool) (f : Finding) (v : Value) :
    Performs (reportIf found f v) (atLine found f v) := by
  cases found with
  | false => exact performs_pure
  | true => exact performs_report v f

theorem performsFrom_reportIf {found : Bool} {f : Finding} {v : Value} {es : List Effect}
    (h : (if found then a.report f v.line else a) = a.after es) :
    PerformsFrom a (reportIf found f v) es := by
  refine (performs_reportIf found f v a).restate ?_ ?_
  · cases found <;> simp [atLine]
  · rw [after_atLine, h]

theorem performs_forM {f : Value → Check Unit} {es : Value → List Effect}
    (hf : ∀ v, Performs (f v) (es v)) (vs : List Value) :
    Performs (vs.forM f) (vs.flatMap es) := by
  induction vs with
  | nil => exact performs_pure
  | cons v vs ih => exact (hf v).seq ih

/-! ### Modules and imports -/

theorem checkConstant_performs (v : Value) : Performs (checkConstant v) (constantEffects v) := by
  refine performs_ite ?_ performs_pure
  refine (reads_textAttr v .ident).performs ((reads_lineOf v).performs ?_)
  exact (performs_modify (.noteConstant _ _)).seq (performs_reportIf _ _ v)

theorem checkStatement_performs (v : Value) :
    Performs (checkStatement v) (statementEffects v) := by
  refine performs_ite ?_ performs_pure
  exact (reads_membersAttr v .targets).performs (performs_forM checkConstant_performs _)

theorem enterModule_performs (n : Node) : Performs (enterModule n) (moduleEffects n) := by
  refine (performs_modify .useModuleScope).seq ?_
  exact (reads_membersAttr _ _).performs (performs_forM checkStatement_performs _)

theorem reads_itemName (item : Value) : Reads (itemName item) (importName item) := by
  exact (reads_attr item .otherName).bind (reads_ite (reads_textAttr item .name) (reads_textOf _))

theorem recordImport_performs (n : Node) (item : Value) :
    Performs (recordImport n item) (itemEffects n item) := by
  refine (reads_itemName item).performs ((reads_lineOf (.node n)).performs ?_)
  exact (performs_modify (.addImport _ _)).seq (performs_modify (.bind _ .imported))

theorem enterImport_performs (n : Node) :
    Performs (enterImport n) (severalEffects n ++ importEffects n) := by
  refine (reads_attr _ .names).performs ((reads_sizeOf _).performs ?_)
  refine (performs_reportIf _ _ _).seq ((reads_members _).performs ?_)
  exact performs_forM (recordImport_performs n) _

theorem enterImportFrom_performs (n : Node) : Performs (enterImportFrom n) (importEffects n) :=
  (reads_membersAttr _ _).performs (performs_forM (recordImport_performs n) _)

/-! ### Definitions -/

theorem enterClass_performs (n : Node) : Performs (enterClass n) (classEffects n) := by
  refine (reads_textAttr _ _).performs ?_
  refine (performs_modify (.bind n.title .classDef)).seq ?_
  refine (performs_modify (.addClass n.title)).seq ?_
  exact (performs_reportIf _ _ _).seq (performs_modify .openScope)

theorem reads_documentation (v : Value) :
    Reads (match v with
      | .atom (.str s) => pure (isDocumentation s)
      | _ => pure false : Check Bool) (v.isText && isDocumentation v.text) := by
  cases v with
  | atom c => cases c <;> exact reads_pure _
  | node n => exact reads_pure _
  | list vs => exact reads_pure _

theorem reads_hasDocstring (n : Node) : Reads (hasDocstring n) (documented n) := by
  refine (reads_attr _ .body).bind (reads_ite (reads_pure _) ?_)
  refine (reads_element _ 0).bind (reads_ite (reads_pure _) ?_)
  refine (reads_attr _ .value).bind (reads_ite (reads_pure _) ?_)
  exact (reads_attr _ .value).bind (reads_documentation _)

theorem checkParameter_performs (allowed : List String) (finding : String → Finding) (p : Value) :
    Performs (checkParameter allowed finding p) (parameterEffects allowed finding p) :=
  (reads_textAttr _ _).performs (performs_reportIf _ _ _)

theorem checkSignature_performs (n : Node) (f : String) (params : Value) :
    Performs (checkSignature n f params) (signatureEffects n f params) := by
  simp only [signatureEffects, List.append_assoc]
  refine (reads_membersAttr _ _).performs ((performs_forM (checkParameter_performs _ _) _).seq ?_)
  refine (reads_attr _ _).performs ((performs_forM (checkParameter_performs _ _) _).seq ?_)
  refine (reads_attr _ _).performs ((performs_forM (checkParameter_performs _ _) _).seq ?_)
  refine (reads_membersAttr _ _).performs ((performs_forM (checkParameter_performs _ _) _).seq ?_)
  refine (reads_membersAttr _ _).performs (performs_forM (fun v => ?_) _)
  exact performs_reportIf _ _ _

theorem bindParameter_performs (ps : List Value) :
    Performs (ps.forM bindParameter) (ps.map fun p => .bind (p.textAt .argument) .param) := by
  rw [List.map_eq_flatMap]
  refine performs_forM (fun p => ?_) ps
  exact (reads_textAttr _ _).performs (performs_modify (.bind _ .param))

theorem bindParameters_performs (n : Node) :
    Performs (bindParameters ((Value.node n).part .positional))
      (n.parameterNames.map (.bind · .param)) := by
  simp only [Node.parameterNames, boundParameters, List.map_append, List.map_map,
    List.append_assoc]
  refine (reads_membersAttr _ _).performs ((bindParameter_performs _).seq ?_)
  refine (reads_attr _ _).performs ((bindParameter_performs _).seq ?_)
  refine (reads_attr _ _).performs ((bindParameter_performs _).seq ?_)
  exact (reads_membersAttr _ _).performs (bindParameter_performs _)

theorem beginFunction_performs (n : Node) (f : String) :
    Performs (beginFunction n f) [.setFunction (some f), .define f n.line?, .openScope] := by
  refine (performs_modify (.setFunction (some f))).seq ((reads_lineOf (.node n)).performs ?_)
  exact (performs_modify (.define f n.line?)).seq (performs_modify .openScope)

theorem enterFunction_performs (n : Node) : Performs (enterFunction n) (functionEffects n) := by
  simp only [functionEffects, List.append_assoc]
  refine (reads_textAttr _ _).performs ((performs_reportIf _ _ _).seq ?_)
  refine (reads_hasDocstring n).performs ((performs_reportIf _ _ _).seq ?_)
  refine (reads_attr _ _).performs ((checkSignature_performs n _ _).seq ?_)
  exact (beginFunction_performs n _).seq (bindParameters_performs n)

theorem checkReturns_performs (n : Node) :
    Performs (checkReturns n) [.checkReturns n.title n.line?] := by
  refine (reads_textAttr _ _).performs fun a => performsFrom_get ?_
  cases hr : a.definition? ((Value.node n).textAt .name) with
  | none => exact .of_error rfl
  | some r =>
    refine performsFrom_reportIf ?_
    rw [Analysis.after_cons, Analysis.after_nil, Effect.apply, Node.title, hr]
    rfl

theorem enterReturn_performs (n : Node) :
    Performs (enterReturn n) [.addReturn (!((Value.node n).part .value).isNone)] := by
  refine fun a => performsFrom_get ?_
  have hnothing : ∀ b, b = Effect.apply (.addReturn (!((Value.node n).part .value).isNone)) b →
      PerformsFrom b (pure ()) [.addReturn (!((Value.node n).part .value).isNone)] :=
    fun b hb => (performs_pure b).restate (Nat.zero_le 1) hb
  cases hf : a.currentFunction with
  | none => exact hnothing a (by rw [Effect.apply, hf])
  | some f =>
    cases he : f.isEmpty with
    | true =>
      simp only [he, Bool.not_true, Bool.false_eq_true, if_false]
      exact hnothing a (by simp only [Effect.apply, hf, he, if_true])
    | false =>
      simp only [he, Bool.not_false, if_true]
      refine (reads_attr _ _).performsFrom (performsFrom_get ?_)
      cases hr : a.definition? f with
      | none => exact .of_error rfl
      | some r =>
        refine ⟨fun b hb => ?_, [_], List.prefix_rfl, ?_⟩
        · rw [runs_modify.mp hb]
          simp [Effect.apply, hf, he]
        · simp only [Analysis.after_cons, Analysis.after_nil, Effect.apply, hf, he]
          rfl

/-! ### Assignments and names -/

theorem checkVariable_performs (atModule : Bool) (x : String) (v : Value) :
    Performs (checkVariable atModule x v) (variableEffects atModule x v) := by
  refine performs_ite (performs_reportIf _ _ _) ?_
  refine fun a => performsFrom_get (performsFrom_reportIf ?_)
  have hcond : (!isDunder x && !a.classNames.contains x && !snakeCase.accepts x &&
      !capWords.accepts x) = ((!isDunder x && !snakeCase.accepts x && !capWords.accepts x) &&
        !a.classNames.contains x) := by
    cases a.classNames.contains x <;> simp
  rw [hcond]
  cases !isDunder x && !snakeCase.accepts x && !capWords.accepts x with
  | false => rfl
  | true => cases hx : a.classNames.contains x <;> simp_all [Effect.apply]

theorem assignName_performs (atModule : Bool) (n : Node) :
    Performs (assignName atModule n) (leafEffects atModule n) := by
  simp only [leafEffects, List.append_assoc]
  refine (reads_textAttr _ _).performs ((performs_reportIf _ _ _).seq ?_)
  refine (checkVariable_performs _ _ _).seq ((performs_modify (.bind n.ident .assigned)).seq ?_)
  refine (reads_lineOf _).performs ((performs_modify (.noteAssignment n.ident n.line?)).seq ?_)
  exact performs_ite (performs_modify (.noteConstant n.ident n.line?)) performs_pure

-- The recursion of the four functions is followed literally; only a tuple or list goes down.
mutual
theorem assignNode_performs (atModule : Bool) :
    ∀ n, Performs (assignNode atModule n) (n.leaves.flatMap (leafEffects atModule))
  | .mk kind place fields => by
    rw [assignNode, Node.leaves]
    split
    · simpa using assignName_performs atModule (.mk kind place fields)
    · split
      · exact (reads_discard (reads_membersAttr _ _)).performs (assignFields_performs atModule fields)
      · exact performs_pure
theorem assignFields_performs (atModule : Bool) :
    ∀ fs, Performs (assignFields atModule fs) ((Field.leaves fs).flatMap (leafEffects atModule))
  | [] => performs_pure
  | .mk l v :: fs => by
    rw [assignFields, Field.leaves]
    split
    · exact assignParts_performs atModule v
    · exact assignFields_performs atModule fs
theorem assignParts_performs (atModule : Bool) :
    ∀ v, Performs (assignParts atModule v) ((Value.partLeaves v).flatMap (leafEffects atModule))
  | .list vs => assignEach_performs atModule vs
  | .node _ => performs_pure
  | .atom _ => performs_pure
theorem assignEach_performs (atModule : Bool) :
    ∀ vs, Performs (assignEach atModule vs)
      ((Value.eachLeaves vs).flatMap (leafEffects atModule))
  | [] => performs_pure
  | .node n :: vs => by
    rw [assignEach, Value.eachLeaves, List.flatMap_append]
    exact (assignNode_performs atModule n).seq (assignEach_performs atModule vs)
  | .atom _ :: vs => assignEach_performs atModule vs
  | .list _ :: vs => assignEach_performs atModule vs
end

theorem assign_performs (atModule : Bool) (v : Value) :
    Performs (assign atModule v) (v.leaves.flatMap (leafEffects atModule)) := by
  cases v with
  | node n => exact assignNode_performs atModule n
  | atom c => exact performs_pure
  | list vs => exact performs_pure

theorem reads_underModule (n : Node) (above : List Link) :
    Reads (underModule n above) (topLevel above) := by
  cases above with
  | nil => exact reads_throw _ _
  | cons link above => exact reads_pure _

theorem checkLambda_performs (n : Node) :
    Performs (checkLambda n ((Value.node n).part .value)) (lambdaEffects n) := by
  refine performs_ite ?_ performs_pure
  refine (reads_attr _ _).performs ((reads_sizeOf _).performs ?_)
  refine performs_ite ((reads_element _ 0).performs (performs_ite ?_ performs_pure)) performs_pure
  exact (reads_textAttr _ _).performs (performs_report (.node n) _)

theorem enterAssign_performs (above : List Link) (n : Node) :
    Performs (enterAssign above n) (assignEffects above n) := by
  rw [assignEffects, Node.assignedLeaves, List.flatMap_assoc]
  refine (reads_attr _ _).performs ((checkLambda_performs n).seq ?_)
  refine (reads_membersAttr _ _).performs (performs_forM (fun target => ?_) _)
  exact (reads_underModule n above).performs (assign_performs _ target)

theorem enterName_performs (n : Node) : Performs (enterName n) (nameEffects n) := by
  refine (reads_attr _ .context).performs (performs_ite ?_ (performs_ite ?_ performs_pure))
  · refine (reads_textAttr _ _).performs fun a => performsFrom_get ?_
    have hdefined : PerformsFrom a (reportIf (!a.isDefined n.ident) (.undefinedVariable n.ident)
        (.node n)) [.checkDefined n.ident n.line?] := by
      refine performsFrom_reportIf ?_
      cases hx : a.isDefined n.ident <;> simp_all [Effect.apply, Node.ident, Value.line]
    refine hdefined.seq ((reads_lineOf (.node n)).performs ?_)
    exact (performs_modify (.noteUsage n.ident n.line?)).seq (performs_modify (.markUsed n.ident))
  · refine (reads_textAttr _ _).performs fun a => performsFrom_get ?_
    change PerformsFrom a (if (!a.currentScope.has n.ident) = true then _ else _) [.store n.ident]
    cases hx : a.currentScope.has n.ident with
    | true => exact (performs_pure a).restate (Nat.zero_le 1) (by simp [Effect.apply, hx])
    | false =>
      exact (performs_modify (.bind n.ident .assigned) a).restate (Nat.le_refl 1)
        (by simp [Effect.apply, hx])

theorem declare_performs {f : Value → Check Unit} {e : String → Effect}
    (hf : ∀ v, Performs (f v) [e v.text]) (n : Node) :
    Performs (do (← membersAttr (.node n) .names).forM f) (n.declaredNames.map e) := by
  rw [Node.declaredNames, List.map_map, List.map_eq_flatMap]
  exact (reads_membersAttr _ _).performs (performs_forM hf _)

theorem declareGlobal_performs (v : Value) : Performs (declareGlobal v) [.declareGlobal v.text] :=
  (reads_textOf v).performs (performs_modify (.declareGlobal v.text))

theorem declareNonlocal_performs (v : Value) :
    Performs (declareNonlocal v) [.declareNonlocal v.text] :=
  (reads_textOf v).performs (performs_modify (.declareNonlocal v.text))

/-! ### Loops -/

theorem enterLoop_performs (n : Node) : Performs (enterLoop n) (loopEffects n) := by
  refine (performs_modify .enterLoop).seq fun a => performsFrom_get (performsFrom_reportIf ?_)
  by_cases hd : 2 < a.loopDepth <;> simp [Effect.apply, Value.line, hd]

theorem enterFor_performs (above : List Link) (n : Node) :
    Performs (enterFor above n) (forEffects above n) := by
  refine (enterLoop_performs n).seq ((performs_modify .openScope).seq ?_)
  refine (reads_attr _ _).performs ?_
  exact (reads_underModule n above).performs (assign_performs _ _)

theorem reads_isTrue (v : Value) : Reads (isTrue v) (constantIs isTrueValue v) := by
  unfold isTrue constantIs
  cases v.isKind .constant with
  | false => exact reads_pure false
  | true =>
    refine (reads_attr v .value).bind ?_
    cases v.part .value with
    | atom c => cases c <;> exact reads_pure _
    | node n => exact reads_pure _
    | list vs => exact reads_pure _

theorem enterWhile_performs (n : Node) : Performs (enterWhile n) (whileEffects n) := by
  rw [whileEffects, List.append_assoc]
  refine (enterLoop_performs n).seq ((reads_attr _ _).performs ((reads_isTrue _).performs ?_))
  exact (performs_reportIf _ _ _).seq (performs_modify .openScope)

/-! ### Expressions -/

theorem reads_isConstant (test : Value → Bool) (v : Value) :
    Reads (isConstant test v) (constantIs test v) := by
  unfold isConstant constantIs
  cases v.isKind .constant with
  | false => exact reads_pure false
  | true => exact (reads_attr v .value).bind (reads_pure _)

theorem reads_isTypeCall (v : Value) : Reads (isTypeCall v) (callsType v) := by
  unfold isTypeCall callsType
  cases v.isKind .call with
  | false => exact reads_pure false
  | true =>
    refine (reads_attr v .callee).bind ?_
    cases (v.part .callee).isKind .name with
    | false => exact reads_pure false
    | true => exact (reads_textAttr _ _).bind (reads_pure _)

theorem checkComparison_performs (n : Node) {left : Check Value} {x : Value} (hl : Reads left x)
    (operator right : Value) :
    Performs (checkComparison n left operator right) (comparisonEffects n x operator right) := by
  refine Performs.seq (performs_ite ?_ performs_pure) (performs_ite ?_ performs_pure)
  · refine hl.performs ((reads_isConstant _ _).performs ((reads_isConstant _ _).performs ?_))
    refine (performs_reportIf _ _ _).seq (hl.performs ?_)
    exact (reads_isConstant _ _).performs ((reads_isConstant _ _).performs
      (performs_reportIf _ _ _))
  · exact hl.performs ((reads_isTypeCall _).performs ((reads_isTypeCall _).performs
      (performs_reportIf _ _ _)))

theorem checkComparisons_performs (n : Node) (i : Nat) (operators : List Value) :
    Performs (checkComparisons n i operators) (chainEffects n i operators) := by
  induction operators generalizing i with
  | nil => exact performs_pure
  | cons operator rest ih =>
    refine (reads_attr _ _).performs ((reads_element _ i).performs ?_)
    refine Performs.seq (checkComparison_performs n ?_ operator _) (ih (i + 1))
    exact reads_ite (reads_attr _ _) (reads_element _ _)

theorem enterBinary_performs (n : Node) : Performs (enterBinary n) (binaryEffects n) := by
  refine (reads_attr _ _).performs ?_
  unfold binaryEffects
  cases ((Value.node n).part .operator).isKindIn [.div, .floorDiv, .mod] with
  | false => exact performs_pure
  | true =>
    refine (reads_attr _ _).performs ((reads_isConstant _ _).performs ?_)
    exact performs_reportIf _ _ _

theorem checkHandler_performs (h : Value) : Performs (checkHandler h) (handlerEffects h) := by
  refine (reads_attr _ _).performs ((performs_reportIf _ _ _).seq ((reads_attr _ _).performs ?_))
  refine performs_ite (performs_report h _) ?_
  cases (h.part .exceptionType).isKind .name with
  | false => exact performs_pure
  | true => exact (reads_textAttr _ _).performs (performs_reportIf _ _ _)

theorem reads_leadsDown (item : Option Nat) (i : Nat) (vs : List Value) :
    Reads (leadsDown item i vs) (item.any fun k => decide (i ≤ k ∧ k < i + vs.length)) := by
  induction vs generalizing i with
  | nil =>
    have hf : (item.any fun k => decide (i ≤ k ∧ k < i + ([] : List Value).length)) = false := by
      cases item <;> simp
    rw [hf]
    exact reads_pure false
  | cons v vs ih =>
    refine (reads_discard (reads_attr v .contextExpr)).bind ?_
    by_cases hi : item = some i
    · rw [if_pos hi, hi]
      simpa using reads_pure true
    · rw [if_neg hi]
      have hnext := ih (i + 1)
      cases item with
      | none => exact hnext
      | some k =>
        have hk : k ≠ i := fun h => hi (congrArg some h)
        have hrange : (i + 1 ≤ k ∧ k < i + 1 + vs.length) ↔
            (i ≤ k ∧ k < i + (v :: vs).length) := by
          rw [List.length_cons]
          omega
        simpa only [Option.any_some, hrange] using hnext

theorem reads_manages (link : Link) :
    Reads (manages link) (link.node.kind == .withStmt &&
      link.item.any (· < ((Value.node link.node).membersAt .items).length)) := by
  unfold manages
  cases link.node.kind == .withStmt with
  | false => exact reads_pure false
  | true =>
    refine (reads_membersAttr _ _).bind ?_
    simpa using reads_leadsDown link.item 0 ((Value.node link.node).membersAt .items)

theorem reads_isManaged (above : List Link) : Reads (isManaged above) (managed above) := by
  induction above with
  | nil => exact reads_pure false
  | cons link above ih =>
    refine (reads_manages link).bind ?_
    rw [managed, List.any_cons]
    split
    · next h =>
      rw [h]
      exact reads_pure true
    · next h =>
      rw [Bool.eq_false_iff.mpr h, Bool.false_or]
      exact ih

theorem markUsed_of_no_imports (x : String) (h : a.imports.isEmpty = true) : a.markUsed x = a := by
  simp [Analysis.markUsed, Analysis.isImported, List.isEmpty_iff.mp h]

theorem enterCall_performs (above : List Link) (n : Node) :
    Performs (enterCall above n) (callEffects above n) := by
  refine (reads_attr _ _).performs (performs_ite ?_ ?_)
  · refine (reads_textAttr _ _).performs (Performs.seq ?_ (performs_modify (.markUsed _)))
    unfold checkOpen
    cases ((Value.node n).part .callee).textAt .ident == "open" with
    | false => exact performs_pure
    | true => exact (reads_isManaged above).performs (performs_reportIf _ _ _)
  · cases ((Value.node n).part .callee).isKind .attributeOf with
    | false => exact performs_pure
    | true =>
      refine (reads_attr _ _).performs fun a => performsFrom_get ?_
      cases (((Value.node n).part .callee).part .value).isKind .name with
      | false => exact performs_pure a
      | true =>
        -- The name is not even read when nothing is imported, and then marking it changes nothing.
        cases hi : a.imports.isEmpty with
        | true =>
          exact (performs_pure a).restate (Nat.zero_le 1) (markUsed_of_no_imports _ hi).symm
        | false => exact (reads_textAttr _ _).performs (performs_modify (.markUsed _)) a

/-! ### Entering and leaving -/

theorem enter_performs (above : List Link) (n : Node) :
    Performs (enter above n) (entering above n) := by
  unfold enter entering
  cases n.kind with
  | program => exact enterModule_performs n
  | importStmt => exact enterImport_performs n
  | importFrom => exact enterImportFrom_performs n
  | classDef => exact enterClass_performs n
  | functionDef => exact enterFunction_performs n
  | returnStmt => exact enterReturn_performs n
  | assign => exact enterAssign_performs above n
  | name => exact enterName_performs n
  | globalStmt => exact declare_performs declareGlobal_performs n
  | nonlocalStmt => exact declare_performs declareNonlocal_performs n
  | forLoop => exact enterFor_performs above n
  | whileLoop => exact enterWhile_performs n
  | compare => exact (reads_membersAttr _ _).performs (checkComparisons_performs n 0 _)
  | binOp => exact enterBinary_performs n
  | tryStmt => exact (reads_membersAttr _ _).performs (performs_forM checkHandler_performs _)
  | call => exact enterCall_performs above n
  | constant =>
    have hreads := reads_discard (reads_attr (.node n) .value)
    exact fun a => ⟨fun b hb => (hreads.run hb).2, [], List.nil_prefix, hreads.unchanged a⟩
  | _ => exact performs_pure

theorem closeScope_performs (previous : ScopeRef) :
    Performs (closeScope previous) [.closeScope previous] := by
  refine fun a => performsFrom_get ?_
  split
  · exact .of_error rfl
  · exact performs_modify (.closeScope previous) a

theorem leaveLoop_performs (previous : ScopeRef) :
    Performs (leaveLoop previous) [.closeScope previous, .leaveLoop] :=
  (closeScope_performs previous).seq (performs_modify .leaveLoop)

theorem leave_performs (n : Node) (previous : ScopeRef) :
    Performs (leave n previous) (leaving n previous) := by
  unfold leave leaving
  cases n.kind with
  | program => exact performs_modify .reportUnusedImports
  | classDef => exact closeScope_performs previous
  | functionDef =>
    refine (closeScope_performs previous).seq ((checkReturns_performs n).seq ?_)
    exact performs_modify (.setFunction none)
  | forLoop => exact leaveLoop_performs previous
  | whileLoop => exact leaveLoop_performs previous
  | _ => exact performs_pure

end CodeLint.Lint
