import CodeLint.Proofs.GeneratedSources
import CodeLint.Proofs.UnusedVariables
import CodeLint.Workload.Bench
import Mathlib.Data.List.Nodup

/-!
The benches that look names up and that report unused variables. Both go through generated names, a
stem with a number behind it, so what they answer follows from what can be said of such names: names
of different stems differ, names of one stem have different numbers, and none of the stems begins a
built-in name.
-/

namespace CodeLint.Workload

open CodeLint.Lint CodeLint.Text CodeLint.Tree

/-! ### Generated names -/

section Numbered

variable {stem other : String} {i j : Nat}

theorem toList_numbered (stem : String) (i : Nat) :
    (stem ++ toString i).toList = stem.toList ++ Nat.toDigits 10 i := by
  rw [String.toList_append, toList_toString]

theorem ne_numbered {c : Char} (hstem : stem.toList.head? = some c)
    (hother : other.toList.head? ≠ some c) (i : Nat) : stem ++ toString i ≠ other := by
  rintro rfl
  rw [toList_numbered, List.head?_append, hstem] at hother
  exact hother rfl

theorem numbered_ne {c d : Char} (hstem : stem.toList.head? = some c)
    (hother : other.toList.head? = some d) (hcd : c ≠ d) (i j : Nat) :
    stem ++ toString i ≠ other ++ toString j := by
  refine ne_numbered hstem ?_ i
  rw [toList_numbered, List.head?_append, hother]
  exact fun h => hcd (Option.some.inj h).symm

theorem builtIn_stems :
    builtInNames.all (fun x => !"missing_".toList.isPrefixOf x.toList &&
      !"var_".toList.isPrefixOf x.toList) = true := by
  decide +kernel

theorem not_isBuiltIn_numbered (hstem : stem = "missing_" ∨ stem = "var_") (i : Nat) :
    isBuiltIn (stem ++ toString i) = false := by
  refine Bool.eq_false_iff.mpr fun hin => ?_
  have hboth := List.all_eq_true.mp builtIn_stems _ (List.contains_iff_mem.mp hin)
  have hbegins : stem.toList.isPrefixOf (stem ++ toString i).toList = true := by
    rw [toList_numbered]
    exact List.isPrefixOf_iff_prefix.mpr (List.prefix_append _ _)
  rcases hstem with rfl | rfl
  · rw [hbegins] at hboth
    cases hboth
  · rw [hbegins, Bool.and_comm] at hboth
    cases hboth

end Numbered

/-! ### Looking up names -/

theorem mem_importsOf {x : String} {line : Line} {count : Nat} :
    (x, line) ∈ importsOf count ↔ ∃ i < count, x = importName i ∧ line = some (i + 1 : Int) := by
  simp only [importsOf, List.mem_map, List.mem_range, Prod.mk.injEq]
  exact exists_congr fun i => and_congr_right fun _ => by rw [eq_comm, @eq_comm _ line]

structure Missing (a : Analysis) (x : String) : Prop where
  scopes : ∀ s ∈ a.scopes, s.has x = false
  globalScope : a.globalScope.has x = false
  classNames : x ∉ a.classNames
  imports : ∀ line, (x, line) ∉ a.imports
  builtIn : x ∉ builtInNames

theorem Missing.not_isDefined {a : Analysis} {x : String} (h : Missing a x) :
    a.isDefined x = false := by
  have himported : a.isImported x = false := by
    refine Bool.eq_false_iff.mpr fun him => ?_
    obtain ⟨line, hmem⟩ := isImported_iff.mp him
    exact h.imports line hmem
  have hscopes : (a.scopes.any (·.has x)) = false :=
    List.any_eq_false.mpr fun s hs => by rw [h.scopes s hs]; exact Bool.false_ne_true
  have hclass : a.classNames.contains x = false := by simpa using h.classNames
  have hbuiltIn : isBuiltIn x = false := by simpa [isBuiltIn] using h.builtIn
  rw [Analysis.isDefined, hscopes, h.globalScope, hclass, himported, hbuiltIn]
  rfl

theorem missing_missingName (i : Nat) : Missing populated (missingName i) where
  scopes s hs := by
    simp only [populated, List.mem_cons, List.mem_map] at hs
    rcases hs with rfl | ⟨j, -, rfl⟩
    · rfl
    · have hne : localName j ≠ missingName i :=
        numbered_ne (c := 'l') (d := 'm') rfl rfl (by decide) j i
      simpa [Ordered.has] using hne
  globalScope := by
    simp only [populated, Ordered.has, List.any_map, List.any_eq_false]
    intro j _
    have hne : globalName j ≠ missingName i :=
      numbered_ne (c := 'g') (d := 'm') rfl rfl (by decide) j i
    simpa using hne
  classNames hmem := by
    obtain ⟨j, -, hj⟩ := List.mem_map.mp hmem
    exact numbered_ne (c := 'K') (d := 'm') rfl rfl (by decide) j i hj
  imports line hmem := by
    obtain ⟨j, -, hj, -⟩ := mem_importsOf.mp hmem
    exact numbered_ne (c := 'm') (d := 'i') rfl rfl (by decide) i j hj
  builtIn hmem := by
    have hin : isBuiltIn (missingName i) = true := List.contains_iff_mem.mpr hmem
    rw [missingName, not_isBuiltIn_numbered (.inl rfl)] at hin
    cases hin

theorem isDefined_lookedUp (i : Nat) : populated.isDefined (lookedUp i) = decide (i % 6 ≠ 5) := by
  unfold lookedUp
  split
  · next h =>
    have hscope : populated.scopes.any (·.has (localName (i % 20))) = true :=
      List.any_eq_true.mpr ⟨[(localName (i % 20), .assigned)],
        List.mem_cons_of_mem _ (List.mem_map.mpr
          ⟨i % 20, List.mem_range.mpr (Nat.mod_lt i (by decide)), rfl⟩), by simp [Ordered.has]⟩
    simp [Analysis.isDefined, hscope, h]
  · next h =>
    have hglobal : populated.globalScope.has (globalName (i % 50)) = true :=
      List.any_eq_true.mpr ⟨(globalName (i % 50), .assigned), List.mem_map.mpr
        ⟨i % 50, List.mem_range.mpr (Nat.mod_lt i (by decide)), rfl⟩, by simp⟩
    simp [Analysis.isDefined, hglobal, h]
  · next h =>
    have hclass : populated.classNames.contains (className (i % 20)) = true :=
      List.contains_iff_mem.mpr (List.mem_map.mpr
        ⟨i % 20, List.mem_range.mpr (Nat.mod_lt i (by decide)), rfl⟩)
    simp only [Analysis.isDefined, hclass, h]
    simp
  · next h =>
    have himport : populated.isImported (importName (i % 20)) = true :=
      isImported_iff.mpr ⟨_, mem_importsOf.mpr ⟨i % 20, Nat.mod_lt i (by decide), rfl, rfl⟩⟩
    simp [Analysis.isDefined, himport, h]
  · next h =>
    have hbuiltIn : isBuiltIn "len" = true := by decide
    simp [Analysis.isDefined, hbuiltIn, h]
  · next h0 h1 h2 h3 h4 =>
    have hlast : ∀ r < 6, r ≠ 0 → r ≠ 1 → r ≠ 2 → r ≠ 3 → r ≠ 4 → r = 5 := by omega
    have h5 := hlast (i % 6) (Nat.mod_lt i (by decide)) h0 h1 h2 h3 h4
    rw [(missing_missingName i).not_isDefined]
    simp [h5]

/-- Every lookup of a name but each sixth succeeds, in every run, and the names of those are in none
of the places. -/
theorem lookups_closed_form (s : Surroundings) (n : Int) (runs : Nat) :
    Bench.lookup.results s n runs =
      List.replicate runs
        (.ok (.truths ((List.range n.toNat).map fun i => decide (i % 6 ≠ 5)))) ∧
    ∀ i, Missing populated (missingName i) := by
  refine ⟨?_, missing_missingName⟩
  have hall : lookups n = (List.range n.toNat).map fun i => decide (i % 6 ≠ 5) :=
    List.map_congr_left fun i _ => isDefined_lookedUp i
  rw [Bench.results, hall]

/-! ### Unused variables -/

end CodeLint.Workload
