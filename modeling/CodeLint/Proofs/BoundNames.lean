import CodeLint.Proofs.LocalChecks
import CodeLint.Proofs.Undefined
import Mathlib.Data.List.TakeWhile

/-!
Names that are bound and yet reported as undefined. A definition, an import, an assignment or a
`with` statement of a module binds names for everything behind it, and a function binds its
parameters. The analysis takes note of these bindings, with three exceptions: the names of
functions, the packages that a dotted import starts with, and positional-only parameters. So a use
that is reported although its name is bound is a use of one of these.
-/

namespace CodeLint.Lint

open CodeLint.Tree

/-- The name that an item of an import statement binds: the other name if there is one, else the
package that its own name starts with. -/
def packageName (item : Value) : String :=
  if (item.part .otherName).isFalsy then
    String.ofList ((item.textAt .name).toList.takeWhile (· != '.'))
  else (item.part .otherName).text

def isDotted (item : Value) : Bool :=
  (item.part .otherName).isFalsy && (item.textAt .name).toList.contains '.'

end CodeLint.Lint

namespace CodeLint.Tree.Node

open CodeLint.Lint

def definedNames (n : Node) : List String :=
  match n.kind with
  | .functionDef | .asyncFunctionDef | .classDef => [n.title]
  | .importStmt => ((Value.node n).membersAt .names).map packageName
  | .importFrom => n.importedNames
  | _ => []

def missedNames (n : Node) : List String :=
  match n.kind with
  | .functionDef | .asyncFunctionDef => [n.title]
  | .importStmt => (((Value.node n).membersAt .names).filter isDotted).map packageName
  | _ => []

def positionalOnlyNames (n : Node) : List String :=
  (((Value.node n).part .positional).membersAt .positionalOnly).map (·.textAt .argument)

end CodeLint.Tree.Node

namespace CodeLint.Lint

open CodeLint.Tree

def storesTargets : Kind → Bool
  | .assign | .augAssign | .annAssign | .withStmt | .asyncWith => true
  | _ => false

def holdsTargets : Kind → Bool
  | .tupleLit | .listLit | .starred | .withItem => true
  | _ => false

def Occurrence.isTarget (o : Occurrence) : Bool :=
  o.node.isStore &&
    match o.above.reverse with
    | whole :: statement :: parts =>
      whole.node.kind == .program && storesTargets statement.node.kind &&
        parts.all fun s => holdsTargets s.node.kind
    | _ => false

def StatementBinds (n : Node) (i : Nat) (x : String) : Prop :=
  (∃ s ∈ n.occurrences, s.position = [i] ∧ x ∈ s.node.definedNames) ∨
    ∃ o ∈ n.occurrences, o.position.head? = some i ∧ o.node.ident = x ∧ o.isTarget = true

instance (n : Node) (i : Nat) (x : String) : Decidable (StatementBinds n i x) :=
  inferInstanceAs (Decidable (_ ∨ _))

def StatementMissed (n : Node) (i : Nat) (x : String) : Prop :=
  ∃ s ∈ n.occurrences, s.position = [i] ∧ x ∈ s.node.missedNames

variable {n : Node} {o u : Occurrence} {x : String}

theorem packageName_of_not_isDotted {item : Value} (h : isDotted item = false) :
    packageName item = importName item := by
  unfold packageName importName
  split
  · next hnone =>
    rw [isDotted, hnone, Bool.true_and] at h
    have hdots : ∀ c ∈ (item.textAt .name).toList, (c != '.') = true := by
      rintro c hc
      rw [bne_iff_ne]
      rintro rfl
      rw [List.contains_iff_mem.mpr hc] at h
      cases h
    rw [List.takeWhile_eq_self_iff.mpr hdots, String.ofList_toList]
  · rfl

theorem mem_lastingNames_or_missedNames {m : Node} (hx : x ∈ m.definedNames) :
    x ∈ m.lastingNames ∨ x ∈ m.missedNames := by
  unfold Node.definedNames at hx
  unfold Node.lastingNames Node.missedNames
  split at hx
  · next hk => exact .inr (by rw [hk]; exact hx)
  · next hk => exact .inr (by rw [hk]; exact hx)
  · next hk => exact .inl (by rw [hk]; exact hx)
  · next hk =>
    rw [hk]
    obtain ⟨item, hitem, rfl⟩ := List.mem_map.mp hx
    cases hdotted : isDotted item with
    | true => exact .inr (List.mem_map_of_mem (List.mem_filter.mpr ⟨hitem, hdotted⟩))
    | false =>
      rw [packageName_of_not_isDotted hdotted]
      exact .inl (List.mem_map_of_mem hitem)
  · next hk => exact .inl (by rw [hk]; exact hx)
  · cases hx

theorem not_opensScope_of_storesTargets (k : Kind) :
    storesTargets k = true → opensScope k = false := by
  cases k <;> decide

theorem not_opensScope_of_holdsTargets (k : Kind) :
    holdsTargets k = true → opensScope k = false := by
  cases k <;> decide

theorem scope_of_isTarget (h : o.isTarget = true) : o.scope = none := by
  obtain ⟨-, habove⟩ := Bool.and_eq_true_iff.mp h
  have hclosed : ∀ s ∈ o.above, opensScope s.node.kind = false := by
    intro s hs
    rw [← List.mem_reverse] at hs
    split at habove
    · next whole statement parts hreverse =>
      simp only [Bool.and_eq_true, beq_iff_eq, List.all_eq_true] at habove
      obtain ⟨⟨hwhole, hstatement⟩, hparts⟩ := habove
      rw [hreverse, List.mem_cons, List.mem_cons] at hs
      rcases hs with rfl | rfl | hs
      · rw [hwhole]
        rfl
      · exact not_opensScope_of_storesTargets _ hstatement
      · exact not_opensScope_of_holdsTargets _ (hparts s hs)
    · cases habove
  have hnone : o.above.filter (fun s => opensScope s.node.kind) = [] :=
    List.filter_eq_nil_iff.mpr fun s hs => by simp [hclosed s hs]
  rw [Occurrence.scope, openScopes, hnone]
  rfl

/-! ### What the analysis takes note of -/

theorem provides_of_isTarget (h : o.isTarget = true) (u : Occurrence) :
    o.Provides u o.node.ident := by
  obtain ⟨hstore, -⟩ := Bool.and_eq_true_iff.mp h
  have hname : o.node.kind = .name := eq_of_beq (Bool.and_eq_true_iff.mp hstore).1
  refine .inr (.inl ?_)
  rw [Occurrence.writes, hname]
  simp [hstore, scope_of_isTarget h]

theorem precedes_of_head {p q : List Nat} {i j : Nat} (hp : p.head? = some i)
    (hq : q.head? = some j) (hij : i < j) : Precedes p q := by
  obtain ⟨p, rfl⟩ := List.head?_eq_some_iff.mp hp
  obtain ⟨q, rfl⟩ := List.head?_eq_some_iff.mp hq
  exact .inl hij

theorem missed_of_undefined (hu : u.Undefined n) {i j : Nat} (hj : u.position.head? = some j)
    (hij : i < j) (hbinds : StatementBinds n i u.node.ident) :
    StatementMissed n i u.node.ident := by
  rcases hbinds with ⟨s, hs, hposition, hdefined⟩ | ⟨o, ho, hi, hident, htarget⟩
  · rcases mem_lastingNames_or_missedNames hdefined with hlasting | hmissed
    · have hprecedes := precedes_of_head (p := s.position) (by rw [hposition]; rfl) hj hij
      exact absurd (.inl hlasting) (hu.2.2 s hs hprecedes)
    · exact ⟨s, hs, hposition, hmissed⟩
  · exact absurd (hident ▸ provides_of_isTarget htarget u)
      (hu.2.2 o ho (precedes_of_head hi hj hij))

theorem not_parameter_of_undefined (ho : u ∈ n.occurrences) (hu : u.Undefined n) {f : Spot}
    (hf : f ∈ u.above) (hk : f.node.kind = .functionDef) :
    u.node.ident ∉ f.node.parameterNames := by
  intro hx
  obtain ⟨o, hmem, rfl⟩ := above_occurs ho f hf
  refine hu.2.2 o hmem (above_precedes ho _ hf) (.inr (.inr ⟨o.position, ?_, ?_⟩))
  · refine List.mem_map_of_mem (List.mem_filter.mpr ⟨hf, ?_⟩)
    rw [hk]
    rfl
  · rw [Occurrence.writes, hk]
    exact List.mem_map_of_mem hx

/-- The definition of a function makes no name visible behind it: its parameters are written to a
scope that is closed again, and its own name is not written anywhere. -/
theorem not_provides_of_function {s : Occurrence} (hu : u ∈ n.occurrences) {i j : Nat}
    (hi : s.position = [i]) (hj : u.position.head? = some j) (hij : i < j)
    (hk : s.node.kind = .functionDef ∨ s.node.kind = .asyncFunctionDef) (x : String) :
    ¬ s.Provides u x := by
  -- The scope of the function is open below it only, and the use stands in another statement.
  have hclosed : [i] ∉ openScopes u.above := by
    intro hmem
    obtain ⟨t, ht, hposition⟩ := List.mem_map.mp hmem
    obtain ⟨k, r, hu⟩ := above_extends hu t (List.mem_filter.mp ht).1
    rw [hu, hposition] at hj
    exact Nat.lt_irrefl i (Option.some.inj hj ▸ hij)
  rcases hk with hk | hk
  · rintro (hlasting | hwritten | ⟨q, hq, hwritten⟩)
    · simp [Node.lastingNames, hk] at hlasting
    · simp [Occurrence.writes, hk] at hwritten
    · simp only [Occurrence.writes, hk, List.mem_map, Prod.mk.injEq, hi] at hwritten
      obtain ⟨-, -, -, hposition⟩ := hwritten
      exact hclosed (Option.some.inj hposition ▸ hq)
  · simp [Occurrence.Provides, Node.lastingNames, Occurrence.writes, hk]

theorem program_at_root (h : n.Sound) (ho : o ∈ n.occurrences) (hk : o.node.kind = .program) :
    o.above = [] := by
  rcases mem_visited.mp ho with rfl | ⟨i, c, hc, hbelow⟩
  · rfl
  · have hreaches : c.Reaches .program := (reaches_iff_visited _ _ c).mpr ⟨o, hbelow, hk⟩
    exact absurd hreaches (h.not_reaches_below (List.mem_of_getElem? hc))

/-- The uses reported as undefined. A use in a statement behind one of the module that binds its
name is reported only if that is the name of a function or a package that a dotted import starts
with, and a use of a parameter inside its function only if the parameter is positional-only. No
function is visible behind its definition. -/
theorem bound_names_defined (h : n.WellFormed) :
    ∃ a, analysis n = .ok a ∧
      a.withCode "E0602" = (n.occurrences.filter fun u => u.Undefined n).map undefinedIssue ∧
      (∀ u ∈ n.occurrences, u.Undefined n →
        (∀ i j, u.position.head? = some j → i < j → StatementBinds n i u.node.ident →
          StatementMissed n i u.node.ident) ∧
        ∀ f ∈ u.above, f.node.kind = .functionDef →
          u.node.ident ∈ f.node.positionalOnlyNames ++ f.node.parameterNames →
            u.node.ident ∈ f.node.positionalOnlyNames) ∧
      ∀ s ∈ n.occurrences, s.node.kind = .functionDef ∨ s.node.kind = .asyncFunctionDef →
        ∀ u ∈ n.occurrences, ∀ i j, s.position = [i] → u.position.head? = some j → i < j →
          ∀ x, ¬ s.Provides u x := by
  obtain ⟨b, hb, hanalysis⟩ := analysis_eq h
  have hvisit := invariant_of_visit
    (undefinedSoFar_keeps fun o ho hk => program_at_root h.2 ho hk) hb ⟨Tracks.fresh, rfl⟩
  refine ⟨_, hanalysis, ?_, fun u hu hundefined => ⟨?_, ?_⟩, ?_⟩
  · exact (withCode_reportUnused_of_ne rfl b).trans hvisit.2
  · exact fun i j hj hij hbinds => missed_of_undefined hundefined hj hij hbinds
  · intro f hf hk hx
    refine (List.mem_append.mp hx).resolve_right ?_
    exact not_parameter_of_undefined hu hundefined hf hk
  · exact fun s _ hk u hu i j hi hj hij x => not_provides_of_function hu hi hj hij hk x

/-- Names bound in several ways, with a use of each behind. Those of `d` and `f` are reported. -/
def boundInSeveralWays : Node :=
  treeOf "import a.b as p\nwith p as s: s\ndef f(d, /, e): d, e\np, s, f\n"

theorem bound_names_defined_boundInSeveralWays :
    boundInSeveralWays.WellFormed ∧ ∃ a, analysis boundInSeveralWays = .ok a ∧
      a.withCode "E0602" =
        [⟨.undefinedVariable "d", some 3⟩, ⟨.undefinedVariable "f", some 4⟩] := by
  have hevaluated : boundInSeveralWays.WellFormed ∧
      (boundInSeveralWays.occurrences.filter fun u => u.Undefined boundInSeveralWays).map
        undefinedIssue = [⟨.undefinedVariable "d", some 3⟩, ⟨.undefinedVariable "f", some 4⟩] := by
    decide +kernel
  obtain ⟨hformed, hissues⟩ := hevaluated
  obtain ⟨a, ha, hreported, -⟩ := bound_names_defined hformed
  exact ⟨hformed, a, ha, hreported.trans hissues⟩

def boundUnseen : Node :=
  treeOf "import os.path\nasync def g(): pass\ndef f(a, /): return a\nf(g, os)\n"

theorem bound_names_reported :
    boundUnseen.WellFormed ∧ StatementBinds boundUnseen 0 "os" ∧
      StatementBinds boundUnseen 1 "g" ∧ StatementBinds boundUnseen 2 "f" ∧
      ∃ a, analysis boundUnseen = .ok a ∧
        a.withCode "E0602" = [⟨.undefinedVariable "a", some 3⟩, ⟨.undefinedVariable "f", some 4⟩,
          ⟨.undefinedVariable "g", some 4⟩, ⟨.undefinedVariable "os", some 4⟩] := by
  have hevaluated : boundUnseen.WellFormed ∧ StatementBinds boundUnseen 0 "os" ∧
      StatementBinds boundUnseen 1 "g" ∧ StatementBinds boundUnseen 2 "f" ∧
      ((analysis boundUnseen).map fun a => a.withCode "E0602") =
        .ok [⟨.undefinedVariable "a", some 3⟩, ⟨.undefinedVariable "f", some 4⟩,
          ⟨.undefinedVariable "g", some 4⟩, ⟨.undefinedVariable "os", some 4⟩] := by
    decide +kernel
  obtain ⟨hformed, hos, hg, hf, hissues⟩ := hevaluated
  cases ha : analysis boundUnseen with
  | error e =>
    rw [ha] at hissues
    cases hissues
  | ok a =>
    rw [ha] at hissues
    exact ⟨hformed, hos, hg, hf, a, rfl, Except.ok.inj hissues⟩

end CodeLint.Lint
