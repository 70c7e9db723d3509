import CodeLint.Proofs.PrintedRows

/-!
The verdict on a bench is the first in a chain whose grounds hold. The grounds are told by what the
row of the bench says.
-/

namespace CodeLint.Measure

open CodeLint.Number

def Verdict.chain : List Verdict :=
  [.repoModified, .failed, .returnsNone, .unstable, .returnsInput, .lowShare, .tooFast,
   .unparameterised, .parameterInvariant, .ok]

/-- The grounds of a verdict on the bench of a row. Whether files of the repository were changed
counts as well. -/
def Row.Grounds (modified : Bool) (r : Row) : Verdict → Prop
  | .repoModified => modified = true
  | .failed => ∀ type, r.returnType = some type →
    type = "" ∨ type = "?" ∨ type.toList.head? = some '<'
  | .returnsNone => r.returnType = some "NoneType"
  | .unstable => r.stable = [] ∨ ∃ a ∈ r.stable, ∃ b ∈ r.stable, a ≠ b
  | .returnsInput => ∃ print ∈ r.parameters, r.stable.head? = some print
  | .lowShare => r.repoShare ≠ [] ∧ (least (r.repoShare.map (·.2))).lt half = true
  | .tooFast => r.repoMillis ≠ [] ∧ (median (r.repoMillis.map (·.2))).lt one = true
  | .unparameterised => r.byParameter.length < 2
  | .parameterInvariant =>
    r.byParameter ≠ [] ∧ ∀ a ∈ r.byParameter, ∀ b ∈ r.byParameter, a.2 = b.2
  | .ok => True

def Row.HasVerdict (modified : Bool) (r : Row) (v : Verdict) : Prop :=
  ∃ before behind, Verdict.chain = before ++ v :: behind ∧ r.Grounds modified v ∧
    ∀ u ∈ before, ¬r.Grounds modified u

def Evidence.shows (modified : Bool) (e : Evidence) : Verdict → Bool
  | .repoModified => modified
  | .failed => e.isFailed
  | .returnsNone => e.returnType == "NoneType"
  | .unstable => !agree e.stable
  | .returnsInput => e.returnsInput
  | .lowShare => !e.shares.isEmpty && (least e.shares).lt half
  | .tooFast => !e.millis.isEmpty && (median e.millis).lt one
  | .unparameterised => e.byParameter.length < 2
  | .parameterInvariant => agree e.byParameter
  | .ok => true

theorem find?_shows (modified : Bool) (e : Evidence) :
    Verdict.chain.find? (e.shows modified) = some (judge modified e) := by
  unfold judge
  split_ifs <;> simp_all [Verdict.chain, Evidence.shows]

theorem agree_iff {ts : List String} :
    agree ts = true ↔ ts ≠ [] ∧ ∀ a ∈ ts, ∀ b ∈ ts, a = b := by
  cases ts with
  | nil => simp [agree]
  | cons t ts =>
    rw [agree, List.all_eq_true]
    simp only [beq_iff_eq]
    constructor
    · intro h
      have hall : ∀ a ∈ t :: ts, a = t := List.forall_mem_cons.mpr ⟨rfl, h⟩
      exact ⟨List.cons_ne_nil _ _, fun a ha b hb => (hall a ha).trans (hall b hb).symm⟩
    · exact fun h a ha => h.2 a (List.mem_cons_of_mem t ha) t List.mem_cons_self

theorem agree_map_iff {xs : Ordered String} :
    agree (xs.map (·.2)) = true ↔ xs ≠ [] ∧ ∀ a ∈ xs, ∀ b ∈ xs, a.2 = b.2 := by
  simp only [agree_iff, ne_eq, List.map_eq_nil_iff, List.forall_mem_map]

theorem filter_of_ne_empty {type : String} (h : type ≠ "") :
    (some type).filter (!·.isEmpty) = some type :=
  Option.filter_eq_some_iff.mpr ⟨rfl, by simpa using h⟩

theorem isFailed_evidence_iff {r : Row} : r.evidence.isFailed = true ↔
    ∀ type, r.returnType = some type →
      type = "" ∨ type = "?" ∨ type.toList.head? = some '<' := by
  rw [Evidence.isFailed, Bool.or_eq_true, beq_iff_eq, beq_iff_eq, Row.evidence]
  cases r.returnType with
  | none => exact iff_of_true (.inl rfl) (by rintro type ⟨⟩)
  | some type =>
    by_cases hempty : type = ""
    · exact iff_of_true (.inl (by rw [hempty]; rfl)) fun _ h => .inl (Option.some.inj h ▸ hempty)
    · rw [filter_of_ne_empty hempty, Option.getD_some]
      refine ⟨fun h _ htype => Option.some.inj htype ▸ .inr h, fun h => ?_⟩
      exact (h type rfl).resolve_left hempty

theorem returnType_evidence_iff {r : Row} {type : String} (hempty : type ≠ "")
    (hmark : type ≠ "?") : r.evidence.returnType = type ↔ r.returnType = some type := by
  rw [Row.evidence]
  cases r.returnType with
  | none => exact iff_of_false (Ne.symm hmark) (by rintro ⟨⟩)
  | some other =>
    by_cases hother : other = ""
    · rw [hother]
      exact iff_of_false (Ne.symm hmark) fun h => hempty (Option.some.inj h).symm
    · rw [filter_of_ne_empty hother, Option.getD_some, Option.some_inj]

theorem returnsInput_evidence_iff {r : Row} :
    r.evidence.returnsInput = true ↔ ∃ print ∈ r.parameters, r.stable.head? = some print := by
  rw [Evidence.returnsInput, Row.evidence]
  cases r.stable with
  | nil => simp
  | cons t ts => simp

theorem shows_evidence_iff {modified : Bool} {r : Row} {v : Verdict} :
    r.evidence.shows modified v = true ↔ r.Grounds modified v := by
  cases v with
  | ok => exact iff_of_true rfl trivial
  | repoModified => exact Iff.rfl
  | failed => exact isFailed_evidence_iff
  | returnsNone => exact beq_iff_eq.trans (returnType_evidence_iff (by decide) (by decide))
  | unstable =>
    have hstable : r.evidence.stable = r.stable := rfl
    rw [Evidence.shows, Row.Grounds, Bool.not_eq_true', ← Bool.not_eq_true, agree_iff, hstable]
    by_cases hnone : r.stable = [] <;> simp [hnone]
  | returnsInput => exact returnsInput_evidence_iff
  | lowShare => simp [Evidence.shows, Row.Grounds, Row.evidence]
  | tooFast => simp [Evidence.shows, Row.Grounds, Row.evidence]
  | unparameterised => simp [Evidence.shows, Row.Grounds, Row.evidence]
  | parameterInvariant => exact agree_map_iff

theorem judge_hasVerdict (modified : Bool) (r : Row) :
    r.HasVerdict modified (judge modified r.evidence) := by
  obtain ⟨hshows, before, behind, hchain, hbefore⟩ :=
    List.find?_eq_some_iff_append.mp (find?_shows modified r.evidence)
  refine ⟨before, behind, hchain, shows_evidence_iff.mp hshows, fun u hu hgrounds => ?_⟩
  rw [← shows_evidence_iff] at hgrounds
  exact absurd hgrounds (by simpa using hbefore u hu)

end CodeLint.Measure
