import CodeLint.Lint.Analyzer

/-!
Checks that come to an end. `Runs c a x b` says that the check `c` takes the analysis `a` to `b`
without a fault and gives `x`. A sequence of checks runs when its parts do, so a run of a compound
check is taken apart into runs of its readings, reports and changes of state.

Reading a part of a node changes nothing. What it gives is also available as a plain function of
the node, which has some value even where the reading would stop.
-/

namespace CodeLint.Tree.Value

def part? (v : Value) (l : Label) : Option Value :=
  match v with
  | .node n => n.get? l
  | _ => none

def part (v : Value) (l : Label) : Value := (v.part? l).getD (.atom .none)

def line : Value → Option Int
  | .node n => n.line?
  | _ => none

def isText : Value → Bool
  | .atom (.str _) => true
  | _ => false

def text : Value → String
  | .atom (.str s) => s
  | _ => ""

def isSequence : Value → Bool
  | .list _ => true
  | v => v.isText

def members : Value → List Value
  | .list vs => vs
  | .atom (.str s) => s.toList.map fun c => .atom (.str c.toString)
  | _ => []

def items : Value → List Value
  | .list vs => vs
  | _ => []

def item (v : Value) (i : Nat) : Value := v.items.getD i (.atom .none)

def textAt (v : Value) (l : Label) : String := (v.part l).text

def membersAt (v : Value) (l : Label) : List Value := (v.part l).members

end CodeLint.Tree.Value

namespace CodeLint.Lint

open CodeLint.Tree

variable {α β : Type} {a b : Analysis}

def Runs (c : Check α) (a : Analysis) (x : α) (b : Analysis) : Prop :=
  c.apply a = (.ok x, b)

@[simp] theorem runs_pure {x y : α} : Runs (pure x) a y b ↔ y = x ∧ b = a := by
  constructor
  · intro h
    cases h
    exact ⟨rfl, rfl⟩
  · rintro ⟨rfl, rfl⟩
    rfl

@[simp] theorem runs_throw {f : Fault} {x : α} : Runs (throw f) a x b ↔ False := by
  constructor
  · intro h
    cases h
  · exact False.elim

theorem apply_bind (c : Check α) (f : α → Check β) (a : Analysis) :
    (c >>= f).apply a = match c.apply a with
      | (.ok x, m) => (f x).apply m
      | (.error e, m) => (.error e, m) := by
  change (ExceptT.run (c >>= f)).run a = match (ExceptT.run c).run a with
    | (.ok x, m) => (ExceptT.run (f x)).run m
    | (.error e, m) => (.error e, m)
  simp only [ExceptT.run_bind, StateT.run_bind]
  rcases (ExceptT.run c).run a with ⟨_ | x, m⟩
  · rfl
  · rfl

@[simp] theorem runs_bind {c : Check α} {f : α → Check β} {y : β} :
    Runs (c >>= f) a y b ↔ ∃ x m, Runs c a x m ∧ Runs (f x) m y b := by
  unfold Runs
  rw [apply_bind]
  rcases c.apply a with ⟨_ | x, m⟩
  · constructor
    · intro h
      cases h
    · rintro ⟨x, m, h, -⟩
      cases h
  · constructor
    · intro h
      exact ⟨x, m, rfl, h⟩
    · rintro ⟨y, m, h, hf⟩
      cases h
      exact hf

theorem runs_seq {c : Check Unit} {d : Unit → Check β} {y : β} :
    Runs (c >>= d) a y b ↔ ∃ m, Runs c a () m ∧ Runs (d ()) m y b := by
  rw [runs_bind]
  exact ⟨fun ⟨_, m, h⟩ => ⟨m, h⟩, fun ⟨m, h⟩ => ⟨(), m, h⟩⟩

@[simp] theorem runs_discard {c : Check α} {x : PUnit} :
    Runs (discard c) a x b ↔ ∃ y, Runs c a y b := by
  have hd : discard c = c >>= fun _ => pure PUnit.unit := by
    rw [Functor.discard, LawfulFunctor.map_const, bind_pure_comp]
    rfl
  rw [hd, runs_bind]
  simp only [runs_pure, true_and, exists_eq_right']

@[simp] theorem runs_get {s : Analysis} : Runs get a s b ↔ s = a ∧ b = a := by
  constructor
  · intro h
    cases h
    exact ⟨rfl, rfl⟩
  · rintro ⟨rfl, rfl⟩
    rfl

@[simp] theorem runs_modify {f : Analysis → Analysis} {x : PUnit} :
    Runs (modify f) a x b ↔ b = f a := by
  constructor
  · intro h
    cases h
    rfl
  · rintro rfl
    rfl

/-! ### Readings -/

@[simp] theorem runs_attr {v x : Value} {l : Label} :
    Runs (attr v l) a x b ↔ (v.part? l).isSome ∧ x = v.part l ∧ b = a := by
  unfold attr
  cases v with
  | node n =>
    cases h : n.get? l <;> simp [Value.part, Value.part?, h, runs_pure, runs_throw]
  | atom c => simp [Value.part?, runs_throw]
  | list vs => simp [Value.part?, runs_throw]

@[simp] theorem runs_lineOf {v : Value} {x : Line} :
    Runs (lineOf v) a x b ↔ v.line.isSome ∧ x = v.line ∧ b = a := by
  unfold lineOf
  cases v with
  | node n =>
    cases h : n.line? <;> simp [Value.line, h, runs_pure, runs_throw]
  | atom c => simp [Value.line, runs_throw]
  | list vs => simp [Value.line, runs_throw]

@[simp] theorem runs_textOf {v : Value} {x : String} :
    Runs (textOf v) a x b ↔ v.isText ∧ x = v.text ∧ b = a := by
  unfold textOf
  cases v with
  | node n => simp [Value.isText, runs_throw]
  | atom c => cases c <;> simp [Value.isText, Value.text, runs_pure, runs_throw]
  | list vs => simp [Value.isText, runs_throw]

@[simp] theorem runs_members {v : Value} {x : List Value} :
    Runs (members v) a x b ↔ v.isSequence ∧ x = v.members ∧ b = a := by
  unfold members
  cases v with
  | node n => simp [Value.isSequence, Value.isText, runs_throw]
  | atom c =>
    cases c <;> simp [Value.isSequence, Value.isText, Value.members, runs_pure, runs_throw]
  | list vs => simp [Value.isSequence, Value.members, runs_pure]

@[simp] theorem runs_sizeOf {v : Value} {x : Nat} :
    Runs (sizeOf v) a x b ↔ v.isSequence ∧ x = v.members.length ∧ b = a := by
  unfold sizeOf
  cases v with
  | node n => simp [Value.isSequence, Value.isText, runs_throw]
  | atom c =>
    cases c <;> simp [Value.isSequence, Value.isText, Value.members, runs_pure, runs_throw,
      String.length_toList]
  | list vs => simp [Value.isSequence, Value.members, runs_pure]

@[simp] theorem runs_element {v x : Value} {i : Nat} :
    Runs (element v i) a x b ↔ i < v.items.length ∧ x = v.item i ∧ b = a := by
  unfold element
  cases v with
  | node n => simp [Value.items, runs_throw]
  | atom c => simp [Value.items, runs_throw]
  | list vs =>
    by_cases h : i < vs.length
    · simp [Value.items, Value.item, h, runs_pure]
    · simp [Value.items, h, runs_throw]

@[simp] theorem runs_textAttr {v : Value} {l : Label} {x : String} :
    Runs (textAttr v l) a x b ↔
      ((v.part? l).isSome ∧ (v.part l).isText) ∧ x = v.textAt l ∧ b = a := by
  simp only [textAttr, runs_bind, runs_attr, runs_textOf, Value.textAt]
  constructor
  · rintro ⟨y, m, ⟨h, rfl, rfl⟩, ht, rfl, rfl⟩
    exact ⟨⟨h, ht⟩, rfl, rfl⟩
  · rintro ⟨⟨h, ht⟩, rfl, rfl⟩
    exact ⟨_, _, ⟨h, rfl, rfl⟩, ht, rfl, rfl⟩

@[simp] theorem runs_membersAttr {v : Value} {l : Label} {x : List Value} :
    Runs (membersAttr v l) a x b ↔
      ((v.part? l).isSome ∧ (v.part l).isSequence) ∧ x = v.membersAt l ∧ b = a := by
  simp only [membersAttr, runs_bind, runs_attr, runs_members, Value.membersAt]
  constructor
  · rintro ⟨y, m, ⟨h, rfl, rfl⟩, ht, rfl, rfl⟩
    exact ⟨⟨h, ht⟩, rfl, rfl⟩
  · rintro ⟨⟨h, ht⟩, rfl, rfl⟩
    exact ⟨_, _, ⟨h, rfl, rfl⟩, ht, rfl, rfl⟩

theorem runs_of_isOk {c : Check Unit} (h : (c.apply a).1.isOk = true) :
    Runs c a () (c.apply a).2 := by
  cases hc : c.apply a with
  | mk r b =>
    rw [hc] at h
    cases r with
    | error f => cases h
    | ok x => exact hc

def treeOf (s : String) : Node := (readTree s).toOption.getD default

theorem readTree_of_isOk {s : String} (h : (readTree s).isOk = true) :
    readTree s = .ok (treeOf s) := by
  unfold treeOf
  cases hr : readTree s with
  | ok n => rfl
  | error f =>
    rw [hr] at h
    cases h

end CodeLint.Lint
