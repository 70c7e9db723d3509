import CodeLint.Proofs.Entering
import CodeLint.Proofs.WellFormed

/-!
Checks of sound trees come to an end. A check is safe when it runs from every analysis. Entering a
node of a sound tree is safe, with the exception of a return statement, which looks up the function
it stands in.
-/

namespace CodeLint.Lint

open CodeLint.Tree CodeLint.Text

variable {α β : Type} {v : Value} {n m : Node} {k : Kind} {l : Label}

def Safe (c : Check α) : Prop := ∀ a, ∃ x b, Runs c a x b

theorem safe_pure (x : α) : Safe (pure x) := fun a => ⟨x, a, runs_pure.mpr ⟨rfl, rfl⟩⟩

theorem safe_modify (f : Analysis → Analysis) : Safe (modify f) :=
  fun a => ⟨(), f a, runs_modify.mpr rfl⟩

theorem safe_get {f : Analysis → Check α} (hf : ∀ a, Safe (f a)) : Safe (get >>= f) := by
  intro a
  obtain ⟨x, b, hx⟩ := hf a a
  exact ⟨x, b, runs_bind.mpr ⟨a, a, runs_get.mpr ⟨rfl, rfl⟩, hx⟩⟩

theorem Safe.bind {c : Check α} {f : α → Check β} {x : α} (hc : Safe c) (hr : Reads c x)
    (hf : Safe (f x)) : Safe (c >>= f) := by
  intro a
  obtain ⟨y, b, hy⟩ := hc a
  obtain ⟨rfl, rfl⟩ := hr.run hy
  obtain ⟨z, d, hz⟩ := hf b
  exact ⟨z, d, runs_bind.mpr ⟨y, b, hy, hz⟩⟩

theorem Safe.seq {c : Check Unit} {d : Check α} (hc : Safe c) (hd : Safe d) :
    Safe (c >>= fun _ => d) := by
  intro a
  obtain ⟨y, b, hy⟩ := hc a
  obtain ⟨z, e, hz⟩ := hd b
  exact ⟨z, e, runs_bind.mpr ⟨y, b, hy, hz⟩⟩

theorem safe_ite {p : Prop} [Decidable p] {c d : Check α} (hc : p → Safe c) (hd : ¬ p → Safe d) :
    Safe (if p then c else d) := by
  split
  · next hp => exact hc hp
  · next hp => exact hd hp

theorem safe_when {p : Prop} [Decidable p] {c : Check Unit} (hc : p → Safe c) :
    Safe (if p then c else pure ()) :=
  safe_ite hc fun _ => safe_pure ()

theorem safe_discard {c : Check α} (hc : Safe c) : Safe (discard c) := by
  intro a
  obtain ⟨y, b, hy⟩ := hc a
  exact ⟨(), b, runs_discard.mpr ⟨y, hy⟩⟩

theorem safe_forM {f : Value → Check Unit} {vs : List Value} (hf : ∀ v ∈ vs, Safe (f v)) :
    Safe (vs.forM f) := by
  induction vs with
  | nil => exact safe_pure ()
  | cons v vs ih =>
    exact (hf v List.mem_cons_self).seq (ih fun u hu => hf u (List.mem_cons_of_mem v hu))

theorem safe_lineOf (h : v.line.isSome = true) : Safe (lineOf v) :=
  fun a => ⟨v.line, a, runs_lineOf.mpr ⟨h, rfl, rfl⟩⟩

theorem safe_report (f : Finding) (h : v.line.isSome = true) :
    Safe (do report f (← lineOf v)) :=
  (safe_lineOf h).bind (reads_lineOf v) (safe_modify _)

theorem safe_reportIf (found : Bool) (f : Finding) (h : v.line.isSome = true) :
    Safe (reportIf found f v) :=
  safe_when fun _ => safe_report f h

theorem safe_element {i : Nat} (h : i < v.items.length) : Safe (element v i) :=
  fun a => ⟨v.item i, a, runs_element.mpr ⟨h, rfl, rfl⟩⟩

theorem safe_textOf (h : v.isText = true) : Safe (textOf v) :=
  fun a => ⟨v.text, a, runs_textOf.mpr ⟨h, rfl, rfl⟩⟩

/-! ### Readings of sound nodes -/

theorem safe_attr {p : Presence} (h : n.Sound) (hk : n.kind = k) (hl : (l, p) ∈ k.layout) :
    Safe (attr (.node n) l) :=
  fun a => ⟨_, a, runs_attr.mpr ⟨h.isSome_part hk hl, rfl, rfl⟩⟩

theorem safe_textAttr (h : n.Sound) (hk : n.kind = k) (hl : (l, .required) ∈ k.layout)
    (hc : k.content l = .text) : Safe (textAttr (.node n) l) := by
  have htext := (hc ▸ h.required hk hl : Content.text.Fits _).isText
  exact fun a => ⟨_, a, runs_textAttr.mpr ⟨⟨h.isSome_part hk hl, htext⟩, rfl, rfl⟩⟩

theorem safe_membersAttr (h : n.Sound) (hk : n.kind = k) (hl : (l, .many) ∈ k.layout) :
    Safe (membersAttr (.node n) l) := by
  obtain ⟨vs, hvs, -⟩ := h.many hk hl
  exact fun a => ⟨_, a, runs_membersAttr.mpr ⟨⟨h.isSome_part hk hl, by rw [hvs]; rfl⟩, rfl, rfl⟩⟩

theorem fits_of_mem_membersAt (h : n.Sound) (hk : n.kind = k) (hl : (l, .many) ∈ k.layout)
    (hv : v ∈ (Value.node n).membersAt l) : (k.content l).Fits v := by
  obtain ⟨vs, hvs, hall⟩ := h.many hk hl
  rw [Value.membersAt, hvs] at hv
  exact hall v hv

theorem safe_each {f : Value → Check Unit} (h : n.Sound) (hk : n.kind = k)
    (hl : (l, .many) ∈ k.layout) (hf : ∀ v, (k.content l).Fits v → Safe (f v)) :
    Safe (do (← membersAttr (.node n) l).forM f) :=
  (safe_membersAttr h hk hl).bind (reads_membersAttr _ _)
    (safe_forM fun v hv => hf v (fits_of_mem_membersAt h hk hl hv))

theorem safe_ident (h : m.Sound) (hk : m.kind = .name) : Safe (textAttr (.node m) .ident) :=
  safe_textAttr h hk (by decide) rfl

theorem safe_node {c : Category} {f : Value → Check β} (h : n.Sound) (hk : n.kind = k)
    (hl : (l, .required) ∈ k.layout) (hc : k.content l = .node c)
    (hf : ∀ m : Node, m.kind.category = c → m.Sound → Safe (f (.node m))) :
    Safe (attr (.node n) l >>= f) := by
  obtain ⟨m, hm, hcategory, hsound⟩ := (hc ▸ h.required hk hl : (Content.node c).Fits _).node
  refine (safe_attr h hk hl).bind (reads_attr _ _) ?_
  rw [hm]
  exact hf m hcategory hsound

theorem isFalsy_of_isNone (h : v.isNone = true) : v.isFalsy = true := by
  cases v with
  | atom c =>
    cases c with
    | none => rfl
    | _ => cases h
  | node n => cases h
  | list vs => cases h

/-! ### Modules and imports -/

theorem checkConstant_safe (hv : (Content.node .expression).Fits v) : Safe (checkConstant v) := by
  obtain ⟨m, rfl, hm, hsound⟩ := hv.node
  have hline := hsound.line hm rfl
  refine safe_when fun hk => ?_
  refine (safe_ident hsound (eq_of_beq hk)).bind (reads_textAttr _ _) ?_
  refine (safe_lineOf hline).bind (reads_lineOf _) ?_
  exact (safe_modify _).seq (safe_reportIf _ _ hline)

theorem checkStatement_safe (hv : (Content.node .statement).Fits v) : Safe (checkStatement v) := by
  obtain ⟨m, rfl, -, hm⟩ := hv.node
  exact safe_when fun hk => safe_each hm (eq_of_beq hk) (by decide) fun _ => checkConstant_safe

theorem enterModule_safe (h : n.Sound) (hk : n.kind = .program) : Safe (enterModule n) :=
  (safe_modify _).seq (safe_each h hk (by decide) fun _ => checkStatement_safe)

theorem itemName_safe (h : m.Sound) (hk : m.kind = .importItem) : Safe (itemName (.node m)) := by
  have hother := h.optional hk (l := .otherName) (by decide)
  refine (safe_attr h hk (p := .optional) (by decide)).bind (reads_attr _ _) ?_
  refine safe_ite (fun _ => safe_textAttr h hk (by decide) rfl) fun htrue => ?_
  exact safe_textOf (hother.resolve_left fun hnone => htrue (isFalsy_of_isNone hnone)).isText

theorem recordImport_safe (hline : (Value.node n).line.isSome = true)
    (hv : (Content.node .importItem).Fits v) : Safe (recordImport n v) := by
  obtain ⟨m, rfl, hm, hsound⟩ := hv.node
  refine (itemName_safe hsound (Kind.eq_of_only (by rw [hm]; rfl))).bind (reads_itemName _) ?_
  refine (safe_lineOf hline).bind (reads_lineOf _) ?_
  exact (safe_modify _).seq (safe_modify _)

theorem enterImport_safe (h : n.Sound) (hk : n.kind = .importStmt) : Safe (enterImport n) := by
  have hline := h.line (by rw [hk]; rfl) (c := .statement) rfl
  obtain ⟨vs, hvs, hall⟩ := h.many hk (l := .names) (by decide)
  refine (safe_attr h hk (p := .many) (by decide)).bind (reads_attr _ _) ?_
  rw [hvs]
  refine Safe.bind (x := vs.length) (safe_pure _) (reads_pure _) ?_
  refine (safe_reportIf _ _ hline).seq (Safe.bind (x := vs) (safe_pure _) (reads_pure _) ?_)
  exact safe_forM fun v hv => recordImport_safe hline (hall v hv)

theorem enterImportFrom_safe (h : n.Sound) (hk : n.kind = .importFrom) :
    Safe (enterImportFrom n) := by
  have hline := h.line (by rw [hk]; rfl) (c := .statement) rfl
  exact safe_each h hk (by decide) fun _ => recordImport_safe hline

/-! ### Definitions -/

theorem enterClass_safe (h : n.Sound) (hk : n.kind = .classDef) : Safe (enterClass n) := by
  have hline := h.line (by rw [hk]; rfl) (c := .statement) rfl
  refine (safe_textAttr h hk (by decide) rfl).bind (reads_textAttr _ _) ?_
  refine (safe_modify _).seq ((safe_modify _).seq ?_)
  exact (safe_reportIf _ _ hline).seq (safe_modify _)

theorem hasDocstring_safe (h : n.Sound) (hk : n.kind = .functionDef) : Safe (hasDocstring n) := by
  obtain ⟨vs, hvs, hall⟩ := h.many hk (l := .body) (by decide)
  refine (safe_attr h hk (p := .many) (by decide)).bind (reads_attr _ _) ?_
  rw [hvs]
  refine safe_ite (fun _ => safe_pure _) fun hempty => ?_
  cases vs with
  | nil => exact (hempty rfl).elim
  | cons first rest =>
    obtain ⟨m, rfl, -, hm⟩ := (hall first List.mem_cons_self).node
    refine Safe.bind (x := .node m) (safe_pure _) (reads_pure _) ?_
    refine safe_ite (fun _ => safe_pure _) fun hexpr => ?_
    have hkind : m.kind = .expr := by simpa [Value.isKind] using hexpr
    refine safe_node hm hkind (by decide) rfl fun c _ hc => ?_
    refine safe_ite (fun _ => safe_pure _) fun hconstant => ?_
    have hkind : c.kind = .constant := by simpa [Value.isKind] using hconstant
    refine (safe_attr hc hkind (p := .required) (by decide)).bind (reads_attr _ _) ?_
    split <;> exact safe_pure _

theorem parameter_text (hv : (Content.node .parameter).Fits v) :
    Safe (textAttr v .argument) ∧ v.line.isSome = true := by
  obtain ⟨p, rfl, hp, hsound⟩ := hv.node
  have hkind : p.kind = .parameter := Kind.eq_of_only (by rw [hp]; rfl)
  exact ⟨safe_textAttr hsound hkind (by decide) rfl, hsound.line hp rfl⟩

theorem checkParameter_safe (allowed : List String) (finding : String → Finding)
    (hv : (Content.node .parameter).Fits v) : Safe (checkParameter allowed finding v) := by
  obtain ⟨htext, hline⟩ := parameter_text hv
  exact htext.bind (reads_textAttr _ _) (safe_reportIf _ _ hline)

theorem bindParameter_safe (hv : (Content.node .parameter).Fits v) : Safe (bindParameter v) :=
  (parameter_text hv).1.bind (reads_textAttr _ _) (safe_modify _)

theorem safe_parameters {f : Value → Check Unit} {d : Check Unit} (h : m.Sound) (hk : m.kind = k)
    (hl : (l, .many) ∈ k.layout) (hf : ∀ p, (k.content l).Fits p → Safe (f p)) (hd : Safe d) :
    Safe (do (← membersAttr (.node m) l).forM f; d) := by
  refine (safe_membersAttr h hk hl).bind (reads_membersAttr _ _) (Safe.seq ?_ hd)
  exact safe_forM fun p hp => hf p (fits_of_mem_membersAt h hk hl hp)

theorem safe_restParameter {f : Value → Check Unit} {d : Check Unit} (h : m.Sound)
    (hk : m.kind = k) (hl : (l, .optional) ∈ k.layout)
    (hf : ∀ p, (k.content l).Fits p → Safe (f p)) (hd : Safe d) :
    Safe (do (restParameter (← attr (.node m) l)).forM f; d) := by
  refine (safe_attr h hk hl).bind (reads_attr _ _) (Safe.seq (safe_forM fun p hp => ?_) hd)
  unfold restParameter at hp
  split at hp
  · cases hp
  · next htrue =>
    rw [List.mem_singleton.mp hp]
    exact hf _ ((h.optional hk hl).resolve_left fun hnone => htrue (isFalsy_of_isNone hnone))

theorem checkSignature_safe (hline : (Value.node n).line.isSome = true) (f : String) (h : m.Sound)
    (hk : m.kind = .parameters) : Safe (checkSignature n f (.node m)) := by
  refine safe_parameters h hk (by decide) (fun p => checkParameter_safe _ _) ?_
  refine safe_restParameter h hk (by decide) (fun p => checkParameter_safe _ _) ?_
  refine safe_restParameter h hk (by decide) (fun p => checkParameter_safe _ _) ?_
  refine safe_parameters h hk (by decide) (fun p => checkParameter_safe _ _) ?_
  exact safe_each h hk (by decide) fun _ _ => safe_reportIf _ _ hline

theorem bindParameters_safe (h : m.Sound) (hk : m.kind = .parameters) :
    Safe (bindParameters (.node m)) := by
  refine safe_parameters h hk (by decide) (fun p => bindParameter_safe) ?_
  refine safe_restParameter h hk (by decide) (fun p => bindParameter_safe) ?_
  refine safe_restParameter h hk (by decide) (fun p => bindParameter_safe) ?_
  exact safe_each h hk (by decide) fun _ => bindParameter_safe

theorem enterFunction_safe (h : n.Sound) (hk : n.kind = .functionDef) : Safe (enterFunction n) := by
  have hline := h.line (by rw [hk]; rfl) (c := .statement) rfl
  refine (safe_textAttr h hk (by decide) rfl).bind (reads_textAttr _ _) ?_
  refine (safe_reportIf _ _ hline).seq ?_
  refine (hasDocstring_safe h hk).bind (reads_hasDocstring n) ((safe_reportIf _ _ hline).seq ?_)
  refine safe_node h hk (by decide) rfl fun m hm hsound => ?_
  have hkind : m.kind = .parameters := Kind.eq_of_only (by rw [hm]; rfl)
  refine (checkSignature_safe hline _ hsound hkind).seq ?_
  refine Safe.seq ?_ (bindParameters_safe hsound hkind)
  refine (safe_modify _).seq ((safe_lineOf hline).bind (reads_lineOf _) ?_)
  exact (safe_modify _).seq (safe_modify _)

/-! ### Assignments and names -/

theorem assignName_safe (atModule : Bool) (h : m.Sound) (hk : m.kind = .name) :
    Safe (assignName atModule m) := by
  have hline := h.line (by rw [hk]; rfl) (c := .expression) rfl
  refine (safe_ident h hk).bind (reads_textAttr _ _) ((safe_reportIf _ _ hline).seq ?_)
  refine Safe.seq (safe_ite (fun _ => safe_reportIf _ _ hline) fun _ => ?_) ?_
  · exact safe_get fun a => safe_reportIf _ _ hline
  · refine (safe_modify _).seq ((safe_lineOf hline).bind (reads_lineOf _) ?_)
    exact (safe_modify _).seq (safe_when fun _ => safe_modify _)

theorem safe_elements (h : m.Sound) (hk : m.kind = .tupleLit ∨ m.kind = .listLit) :
    Safe (discard (membersAttr (.node m) .elements)) := by
  rcases hk with hk | hk
  · exact safe_discard (safe_membersAttr h hk (by decide))
  · exact safe_discard (safe_membersAttr h hk (by decide))

mutual
theorem assignNode_safe (atModule : Bool) : ∀ m : Node, m.Sound → Safe (assignNode atModule m)
  | .mk kind place fields, h => by
    rw [assignNode]
    refine safe_ite (fun hk => assignName_safe atModule h hk) fun _ => safe_when fun hk => ?_
    refine (safe_elements h hk).seq (assignFields_safe atModule fields ?_)
    exact fun f hf m hm => h.child (List.mem_flatMap.mpr ⟨f, hf, hm⟩)
theorem assignFields_safe (atModule : Bool) :
    ∀ fs : List Field, (∀ f ∈ fs, ∀ m ∈ f.value.nodes, m.Sound) → Safe (assignFields atModule fs)
  | [], _ => safe_pure ()
  | .mk l v :: fs, h => by
    rw [assignFields]
    refine safe_ite (fun _ => assignParts_safe atModule v fun m hm => ?_) fun _ => ?_
    · exact h (.mk l v) List.mem_cons_self m hm
    · exact assignFields_safe atModule fs fun f hf => h f (List.mem_cons_of_mem _ hf)
theorem assignParts_safe (atModule : Bool) :
    ∀ v : Value, (∀ m ∈ v.nodes, m.Sound) → Safe (assignParts atModule v)
  | .list vs, h => assignEach_safe atModule vs h
  | .node _, _ => safe_pure ()
  | .atom _, _ => safe_pure ()
theorem assignEach_safe (atModule : Bool) :
    ∀ vs : List Value, (∀ m ∈ vs.filterMap Value.node?, m.Sound) → Safe (assignEach atModule vs)
  | [], _ => safe_pure ()
  | .node n :: vs, h => by
    rw [assignEach]
    refine (assignNode_safe atModule n (h n List.mem_cons_self)).seq ?_
    exact assignEach_safe atModule vs fun m hm => h m (List.mem_cons_of_mem _ hm)
  | .atom _ :: vs, h => assignEach_safe atModule vs h
  | .list _ :: vs, h => assignEach_safe atModule vs h
end

theorem assign_safe {above : List Link} (n : Node) (habove : above ≠ [])
    (hv : (Content.node .expression).Fits v) :
    Safe (do assign (← underModule n above) v) := by
  obtain ⟨m, rfl, -, hm⟩ := hv.node
  cases above with
  | nil => exact (habove rfl).elim
  | cons link above =>
    exact Safe.bind (safe_pure _) (reads_pure _) (assignNode_safe _ m hm)

theorem checkLambda_safe (h : n.Sound) (hk : n.kind = .assign) (value : Value) :
    Safe (checkLambda n value) := by
  have hline := h.line (by rw [hk]; rfl) (c := .statement) rfl
  obtain ⟨vs, hvs, hall⟩ := h.many hk (l := .targets) (by decide)
  refine safe_when fun _ => (safe_attr h hk (p := .many) (by decide)).bind (reads_attr _ _) ?_
  rw [hvs]
  refine Safe.bind (x := vs.length) (safe_pure _) (reads_pure _) (safe_when fun hone => ?_)
  cases vs with
  | nil => cases hone
  | cons target rest =>
    obtain ⟨m, rfl, -, hm⟩ := (hall target List.mem_cons_self).node
    refine Safe.bind (x := .node m) (safe_pure _) (reads_pure _) (safe_when fun hname => ?_)
    exact (safe_ident hm (eq_of_beq hname)).bind (reads_textAttr _ _) (safe_report _ hline)

theorem enterAssign_safe {above : List Link} (h : n.Sound) (hk : n.kind = .assign)
    (habove : above ≠ []) : Safe (enterAssign above n) := by
  refine (safe_attr h hk (p := .required) (by decide)).bind (reads_attr _ _) ?_
  exact (checkLambda_safe h hk _).seq (safe_each h hk (by decide) fun _ => assign_safe n habove)

theorem enterName_safe (h : n.Sound) (hk : n.kind = .name) : Safe (enterName n) := by
  have hline := h.line (by rw [hk]; rfl) (c := .expression) rfl
  refine (safe_attr h hk (p := .required) (by decide)).bind (reads_attr _ _) ?_
  refine safe_ite (fun _ => ?_) fun _ => safe_when fun _ => ?_
  · refine (safe_ident h hk).bind (reads_textAttr _ _) (safe_get fun a => ?_)
    refine (safe_reportIf _ _ hline).seq ((safe_lineOf hline).bind (reads_lineOf _) ?_)
    exact (safe_modify _).seq (safe_modify _)
  · refine (safe_ident h hk).bind (reads_textAttr _ _) (safe_get fun a => ?_)
    exact safe_when fun _ => safe_modify _

theorem declareGlobal_safe (hv : Content.text.Fits v) : Safe (declareGlobal v) :=
  (safe_textOf hv.isText).bind (reads_textOf v) (safe_modify _)

theorem declareNonlocal_safe (hv : Content.text.Fits v) : Safe (declareNonlocal v) :=
  (safe_textOf hv.isText).bind (reads_textOf v) (safe_modify _)

/-! ### Loops -/

theorem enterLoop_safe (hline : (Value.node n).line.isSome = true) : Safe (enterLoop n) :=
  (safe_modify _).seq (safe_get fun _ => safe_reportIf _ _ hline)

theorem enterFor_safe {above : List Link} (h : n.Sound) (hk : n.kind = .forLoop)
    (habove : above ≠ []) : Safe (enterFor above n) := by
  have hline := h.line (by rw [hk]; rfl) (c := .statement) rfl
  refine (enterLoop_safe hline).seq ((safe_modify _).seq ?_)
  refine (safe_attr h hk (p := .required) (by decide)).bind (reads_attr _ _) ?_
  exact assign_safe n habove (h.required hk (l := .target) (by decide))

theorem constant_safe (h : m.Sound) (hk : (Value.node m).isKind .constant = true) :
    Safe (attr (.node m) .value) :=
  safe_attr h (eq_of_beq hk) (p := .required) (by decide)

theorem isTrue_safe (h : m.Sound) : Safe (isTrue (.node m)) := by
  refine safe_ite (fun _ => safe_pure _) fun hk => ?_
  refine (constant_safe h (by simpa using hk)).bind (reads_attr _ _) ?_
  split <;> exact safe_pure _

theorem enterWhile_safe (h : n.Sound) (hk : n.kind = .whileLoop) : Safe (enterWhile n) := by
  have hline := h.line (by rw [hk]; rfl) (c := .statement) rfl
  refine (enterLoop_safe hline).seq (safe_node h hk (by decide) rfl fun m _ hm => ?_)
  refine (isTrue_safe hm).bind (reads_isTrue _) ?_
  exact (safe_reportIf _ _ hline).seq (safe_modify _)

/-! ### Expressions -/

theorem isConstant_safe (test : Value → Bool) (h : m.Sound) : Safe (isConstant test (.node m)) :=
  safe_ite (fun hk => (constant_safe h hk).bind (reads_attr _ _) (safe_pure _))
    fun _ => safe_pure _

theorem isTypeCall_safe (h : m.Sound) : Safe (isTypeCall (.node m)) := by
  refine safe_ite (fun _ => safe_pure _) fun hk => ?_
  have hkind : m.kind = .call := by simpa [Value.isKind] using hk
  refine safe_node h hkind (by decide) rfl fun c _ hc => ?_
  refine safe_ite (fun _ => safe_pure _) fun hname => ?_
  have hname : c.kind = .name := by simpa [Value.isKind] using hname
  exact (safe_ident hc hname).bind (reads_textAttr _ _) (safe_pure _)

theorem checkComparison_safe {left : Check Value} {x right : Value}
    (hline : (Value.node n).line.isSome = true) (hs : Safe left) (hr : Reads left x)
    (hx : (Content.node .expression).Fits x) (hright : (Content.node .expression).Fits right)
    (operator : Value) : Safe (checkComparison n left operator right) := by
  obtain ⟨x, rfl, -, hx⟩ := hx.node
  obtain ⟨y, rfl, -, hy⟩ := hright.node
  refine Safe.seq (safe_when fun _ => ?_) (safe_when fun _ => ?_)
  · refine hs.bind hr ((isConstant_safe _ hx).bind (reads_isConstant _ _) ?_)
    refine (isConstant_safe _ hy).bind (reads_isConstant _ _) ((safe_reportIf _ _ hline).seq ?_)
    refine hs.bind hr ((isConstant_safe _ hx).bind (reads_isConstant _ _) ?_)
    exact (isConstant_safe _ hy).bind (reads_isConstant _ _) (safe_reportIf _ _ hline)
  · refine hs.bind hr ((isTypeCall_safe hx).bind (reads_isTypeCall _) ?_)
    exact (isTypeCall_safe hy).bind (reads_isTypeCall _) (safe_reportIf _ _ hline)

/-- Every operator that is left has an operand on its right, and one on its left. -/
theorem checkComparisons_safe (h : n.Sound) (hk : n.kind = .compare) (i : Nat)
    (operators : List Value)
    (hi : i + operators.length ≤ ((Value.node n).part .comparators).items.length) :
    Safe (checkComparisons n i operators) := by
  have hline := h.line (by rw [hk]; rfl) (c := .expression) rfl
  have hleft := h.required hk (l := .left) (by decide)
  obtain ⟨vs, hvs, hall⟩ := h.many hk (l := .comparators) (by decide)
  have hitem : ∀ j, j < ((Value.node n).part .comparators).items.length →
      (Content.node .expression).Fits (((Value.node n).part .comparators).item j) := by
    intro j hj
    rw [hvs] at hj ⊢
    change j < vs.length at hj
    refine hall _ ?_
    rw [Value.item, Value.items, List.getD_eq_getElem?_getD, List.getElem?_eq_getElem hj]
    exact List.getElem_mem hj
  induction operators generalizing i with
  | nil => exact safe_pure ()
  | cons operator rest ih =>
    rw [List.length_cons] at hi
    have hright : i < ((Value.node n).part .comparators).items.length := by omega
    refine (safe_attr h hk (p := .many) (by decide)).bind (reads_attr _ _) ?_
    refine (safe_element hright).bind (reads_element _ i) ?_
    refine Safe.seq ?_ (ih (i + 1) (by omega))
    refine checkComparison_safe hline (x := leftOperand n i) ?_ ?_ ?_ (hitem i hright) operator
    · exact safe_ite (fun _ => safe_attr h hk (p := .required) (by decide))
        fun _ => safe_element (by omega)
    · exact reads_ite (reads_attr _ _) (reads_element _ _)
    · unfold leftOperand
      split
      · exact hleft
      · exact hitem (i - 1) (by omega)

theorem enterCompare_safe (h : n.Sound) (hk : n.kind = .compare) : Safe (enterCompare n) := by
  refine (safe_membersAttr h hk (by decide)).bind (reads_membersAttr _ _) ?_
  refine checkComparisons_safe h hk 0 _ ?_
  obtain ⟨vs, hvs, -⟩ := h.many hk (l := .operators) (by decide)
  rw [← h.conforms.chain hk, Value.membersAt, hvs]
  exact Nat.le_of_eq (Nat.zero_add _)

theorem enterBinary_safe (h : n.Sound) (hk : n.kind = .binOp) : Safe (enterBinary n) := by
  have hline := h.line (by rw [hk]; rfl) (c := .expression) rfl
  refine (safe_attr h hk (p := .required) (by decide)).bind (reads_attr _ _) ?_
  refine safe_when fun _ => safe_node h hk (by decide) rfl fun m _ hm => ?_
  exact (isConstant_safe _ hm).bind (reads_isConstant _ _) (safe_reportIf _ _ hline)

theorem checkHandler_safe (hv : (Content.node .handler).Fits v) : Safe (checkHandler v) := by
  obtain ⟨m, rfl, hm, hsound⟩ := hv.node
  have hkind : m.kind = .exceptHandler := Kind.eq_of_only (by rw [hm]; rfl)
  have hline := hsound.line hm rfl
  have htype := hsound.optional hkind (l := .exceptionType) (by decide)
  refine (safe_attr hsound hkind (p := .many) (by decide)).bind (reads_attr _ _) ?_
  refine (safe_reportIf _ _ hline).seq ?_
  refine (safe_attr hsound hkind (p := .optional) (by decide)).bind (reads_attr _ _) ?_
  refine safe_ite (fun _ => safe_report _ hline) fun hnone => safe_when fun hname => ?_
  obtain ⟨t, ht, -, htsound⟩ := (htype.resolve_left hnone).node
  rw [ht] at hname ⊢
  exact (safe_ident htsound (eq_of_beq hname)).bind (reads_textAttr _ _) (safe_reportIf _ _ hline)

theorem leadsDown_safe (item : Option Nat) (i : Nat) {vs : List Value}
    (h : ∀ v ∈ vs, (Content.node .withItem).Fits v) : Safe (leadsDown item i vs) := by
  induction vs generalizing i with
  | nil => exact safe_pure _
  | cons v vs ih =>
    obtain ⟨m, rfl, hm, hsound⟩ := (h v List.mem_cons_self).node
    have hkind : m.kind = .withItem := Kind.eq_of_only (by rw [hm]; rfl)
    refine (safe_discard (safe_attr hsound hkind (p := .required) (by decide))).seq ?_
    exact safe_ite (fun _ => safe_pure _) fun _ => ih (i + 1) fun u hu =>
      h u (List.mem_cons_of_mem _ hu)

theorem manages_safe {link : Link} (h : link.node.Sound) : Safe (manages link) := by
  refine safe_ite (fun hk => ?_) fun _ => safe_pure _
  have hkind : link.node.kind = .withStmt := eq_of_beq hk
  refine (safe_membersAttr h hkind (by decide)).bind (reads_membersAttr _ _) ?_
  exact leadsDown_safe _ _ fun v hv => fits_of_mem_membersAt h hkind (by decide) hv

theorem isManaged_safe {above : List Link} (h : ∀ link ∈ above, link.node.Sound) :
    Safe (isManaged above) := by
  induction above with
  | nil => exact safe_pure _
  | cons link above ih =>
    refine (manages_safe (h link List.mem_cons_self)).bind (reads_manages link) ?_
    exact safe_ite (fun _ => safe_pure _) fun _ => ih fun l hl => h l (List.mem_cons_of_mem _ hl)

theorem enterCall_safe {above : List Link} (h : n.Sound) (hk : n.kind = .call)
    (habove : ∀ link ∈ above, link.node.Sound) : Safe (enterCall above n) := by
  have hline := h.line (by rw [hk]; rfl) (c := .expression) rfl
  refine safe_node h hk (by decide) rfl fun c _ hc => ?_
  refine safe_ite (fun hname => ?_) fun _ => safe_when fun hattribute => ?_
  · refine (safe_ident hc (eq_of_beq hname)).bind (reads_textAttr _ _) ?_
    refine Safe.seq (safe_when fun _ => ?_) (safe_modify _)
    exact (isManaged_safe habove).bind (reads_isManaged above) (safe_reportIf _ _ hline)
  · refine safe_node hc (eq_of_beq hattribute) (by decide) rfl fun o _ ho => ?_
    refine safe_get fun a => safe_when fun hname => ?_
    have hname : o.kind = .name := eq_of_beq (Bool.and_eq_true_iff.mp hname).1
    exact (safe_ident ho hname).bind (reads_textAttr _ _) (safe_modify _)

/-- Entering a node of a sound tree runs from every analysis, a return statement apart. Statements
that assign need to have a node above them. -/
theorem enter_safe {above : List Link} (h : n.Sound) (hreturn : n.kind ≠ .returnStmt)
    (hlinks : ∀ link ∈ above, link.node.Sound) (habove : n.kind = .program ∨ above ≠ []) :
    Safe (enter above n) := by
  unfold enter
  cases hk : n.kind with
  | program => exact enterModule_safe h hk
  | importStmt => exact enterImport_safe h hk
  | importFrom => exact enterImportFrom_safe h hk
  | classDef => exact enterClass_safe h hk
  | functionDef => exact enterFunction_safe h hk
  | returnStmt => exact (hreturn hk).elim
  | assign => exact enterAssign_safe h hk (habove.resolve_left (by simp [hk]))
  | name => exact enterName_safe h hk
  | globalStmt => exact safe_each h hk (by decide) fun _ => declareGlobal_safe
  | nonlocalStmt => exact safe_each h hk (by decide) fun _ => declareNonlocal_safe
  | forLoop => exact enterFor_safe h hk (habove.resolve_left (by simp [hk]))
  | whileLoop => exact enterWhile_safe h hk
  | compare => exact enterCompare_safe h hk
  | binOp => exact enterBinary_safe h hk
  | tryStmt => exact safe_each h hk (by decide) fun _ => checkHandler_safe
  | call => exact enterCall_safe h hk hlinks
  | constant => exact safe_discard (safe_attr h hk (p := .required) (by decide))
  | _ => exact safe_pure ()

end CodeLint.Lint
