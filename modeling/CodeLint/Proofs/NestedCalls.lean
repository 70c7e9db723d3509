import CodeLint.Proofs.ParsedPrograms

/-!
How deep the calls of an analysis stand inside each other. A tree that is nested no deeper than
calls can be is analysed as if there were no bound; on any other the analysis stops for want of
room. So a text is reported as unreadable, or analysed to the end, or too deep.
-/

namespace CodeLint.Tree

open CodeLint.Lint

mutual
def Node.nesting : Node → Nat
  | .mk k _ fs => callsOf k + if descends k then max 1 (fieldsNesting fs) else 0
def fieldsNesting : List Field → Nat
  | [] => 0
  | .mk _ v :: fs => max (valueNesting v) (fieldsNesting fs)
def valueNesting : Value → Nat
  | .atom _ => 0
  | .node n => n.nesting
  | .list vs => eachNesting vs
def eachNesting : List Value → Nat
  | [] => 0
  | .node n :: vs => max n.nesting (eachNesting vs)
  | _ :: vs => eachNesting vs
end

end CodeLint.Tree

namespace CodeLint.Lint

open CodeLint.Tree

variable {room : Nat} {a b : Analysis} {n : Node}

/-! ### Room enough -/

mutual
theorem visitWithin_eq {room : Nat} {above : List Link} :
    (n : Node) → n.nesting ≤ room → visitWithin room above n = visit above n
  | .mk k p fs, h => by
    rw [Node.nesting] at h
    simp only [visitWithin, visit]
    by_cases hdown : descends k = true
    · rw [if_pos hdown] at h
      have hroom : ¬room < callsAt k := by
        rw [callsAt, if_pos hdown]
        omega
      rw [if_neg hroom, visitFieldsWithin_eq fs (by omega)]
    · rw [if_neg hdown] at h
      have hroom : ¬room < callsAt k := by
        rw [callsAt, if_neg hdown]
        omega
      simp only [if_neg hroom, if_neg hdown]
theorem visitFieldsWithin_eq {room : Nat} {above : List Link} :
    (fs : List Field) → fieldsNesting fs ≤ room →
      visitFieldsWithin room above fs = visitFields above fs
  | [], _ => by rw [visitFieldsWithin, visitFields]
  | .mk _ v :: fs, h => by
    rw [fieldsNesting] at h
    rw [visitFieldsWithin, visitFields, visitValueWithin_eq v (by omega),
      visitFieldsWithin_eq fs (by omega)]
theorem visitValueWithin_eq {room : Nat} {above : List Link} :
    (v : Value) → valueNesting v ≤ room → visitValueWithin room above v = visitValue above v
  | .atom _, _ => by rw [visitValueWithin, visitValue]
  | .node n, h => by
    rw [valueNesting] at h
    rw [visitValueWithin, visitValue, visitWithin_eq n h]
  | .list vs, h => by
    rw [valueNesting] at h
    rw [visitValueWithin, visitValue, visitEachWithin_eq vs h]
theorem visitEachWithin_eq {room : Nat} {above : List Link} :
    (vs : List Value) → eachNesting vs ≤ room → visitEachWithin room above vs = visitEach above vs
  | [], _ => by rw [visitEachWithin, visitEach]
  | .node n :: vs, h => by
    rw [eachNesting] at h
    rw [visitEachWithin, visitEach, visitWithin_eq n (by omega), visitEachWithin_eq vs (by omega)]
  | .atom _ :: vs, h => by
    rw [eachNesting] at h
    · rw [visitEachWithin, visitEach, visitEachWithin_eq vs h] <;> nofun
    · nofun
  | .list _ :: vs, h => by
    rw [eachNesting] at h
    · rw [visitEachWithin, visitEach, visitEachWithin_eq vs h] <;> nofun
    · nofun
end

/-! ### Want of room -/

def Overflows (c : Check Unit) (a : Analysis) : Prop := (c.apply a).1 = .error .tooDeep

theorem Overflows.stop {c : Check Unit} {d : Unit → Check Unit} (h : Overflows c a) :
    Overflows (c >>= d) a := by
  unfold Overflows at h ⊢
  rw [apply_bind]
  generalize c.apply a = r at h
  obtain ⟨_, m⟩ := r
  subst h
  rfl

theorem Overflows.behind {α : Type} {c : Check α} {d : α → Check Unit} {x : α}
    (h : Runs c a x b) (hd : Overflows (d x) b) : Overflows (c >>= d) a := by
  unfold Overflows
  rw [apply_bind, show c.apply a = (.ok x, b) from h]
  exact hd

mutual
theorem visitWithin_overflows {room : Nat} {above : List Link} {a b : Analysis} :
    (n : Node) → room < n.nesting → Runs (visit above n) a () b →
      Overflows (visitWithin room above n) a
  | .mk k p fs, h, hruns => by
    rw [Node.nesting] at h
    simp only [visitWithin]
    by_cases hroom : room < callsAt k
    · rw [if_pos hroom]
      exact Overflows.stop rfl
    rw [if_neg hroom]
    refine .behind (runs_get.mpr ⟨rfl, rfl⟩) ?_
    by_cases hdown : descends k = true
    · rw [if_pos hdown] at h
      rw [callsAt, if_pos hdown] at hroom
      simp only [visit, hdown, if_true, runs_bind] at hruns
      obtain ⟨_, _, hget, _, m, henter, _, m', hfields, -⟩ := hruns
      obtain ⟨rfl, rfl⟩ := runs_get.mp hget
      refine .behind henter ?_
      rw [if_pos hdown]
      exact (visitFieldsWithin_overflows fs (by omega) hfields).stop
    · rw [if_neg hdown] at h
      rw [callsAt, if_neg hdown] at hroom
      exact absurd h hroom
theorem visitFieldsWithin_overflows {room : Nat} {above : List Link} {a b : Analysis} :
    (fs : List Field) → room < fieldsNesting fs → Runs (visitFields above fs) a () b →
      Overflows (visitFieldsWithin room above fs) a
  | .mk _ v :: fs, h, hruns => by
    rw [fieldsNesting] at h
    rw [visitFields, runs_seq] at hruns
    obtain ⟨m, hv, hfs⟩ := hruns
    rw [visitFieldsWithin]
    by_cases hroom : room < valueNesting v
    · exact (visitValueWithin_overflows v hroom hv).stop
    · rw [visitValueWithin_eq v (by omega)]
      exact .behind hv (visitFieldsWithin_overflows fs (by omega) hfs)
theorem visitValueWithin_overflows {room : Nat} {above : List Link} {a b : Analysis} :
    (v : Value) → room < valueNesting v → Runs (visitValue above v) a () b →
      Overflows (visitValueWithin room above v) a
  | .node n, h, hruns => by
    rw [valueNesting] at h
    rw [visitValue] at hruns
    rw [visitValueWithin]
    exact visitWithin_overflows n h hruns
  | .list vs, h, hruns => by
    rw [valueNesting] at h
    rw [visitValue] at hruns
    rw [visitValueWithin]
    exact visitEachWithin_overflows vs h hruns
theorem visitEachWithin_overflows {room : Nat} {above : List Link} {a b : Analysis} :
    (vs : List Value) → room < eachNesting vs → Runs (visitEach above vs) a () b →
      Overflows (visitEachWithin room above vs) a
  | .node n :: vs, h, hruns => by
    rw [eachNesting] at h
    rw [visitEach, runs_seq] at hruns
    obtain ⟨m, hn, hvs⟩ := hruns
    rw [visitEachWithin]
    by_cases hroom : room < n.nesting
    · exact (visitWithin_overflows n hroom hn).stop
    · rw [visitWithin_eq n (by omega)]
      exact .behind hn (visitEachWithin_overflows vs (by omega) hvs)
  | .atom _ :: vs, h, hruns => by
    rw [eachNesting] at h
    · rw [visitEach] at hruns
      · rw [visitEachWithin]
        · exact visitEachWithin_overflows vs h hruns
        · nofun
      · nofun
    · nofun
  | .list _ :: vs, h, hruns => by
    rw [eachNesting] at h
    · rw [visitEach] at hruns
      · rw [visitEachWithin]
        · exact visitEachWithin_overflows vs h hruns
        · nofun
      · nofun
    · nofun
end

/-! ### Analysing a text -/

theorem analysisWithin_eq (h : n.nesting ≤ room) : analysisWithin room n = analysis n := by
  rw [analysisWithin, analysis, visitWithin_eq n h, inspect, apply_bind]
  rcases (visit [] n).apply {} with ⟨_ | _, b⟩ <;> rfl

theorem analysisWithin_tooDeep (hformed : n.WellFormed) (h : room < n.nesting) :
    analysisWithin room n = .error .tooDeep := by
  obtain ⟨b, hruns, -⟩ := analysis_eq hformed
  have hdeep := visitWithin_overflows n h hruns
  unfold Overflows at hdeep
  rw [analysisWithin]
  generalize (visitWithin room [] n).apply {} = r at hdeep
  obtain ⟨_, m⟩ := r
  subst hdeep
  rfl

theorem issues_of_unreadable {s : String} {f : Source.SyntaxFault} (h : readTree s = .error f) :
    issues room (.text s) = .ok [f.report] := by
  simp only [issues, Subject.tree, h]

theorem issues_of_tree {s : String} (h : readTree s = .ok n) (hroom : n.nesting ≤ room) :
    ∃ a, analysis n = .ok a ∧ issues room (.text s) = .ok a.texts := by
  obtain ⟨b, -, ha⟩ := analysis_eq (readTree_wellFormed h)
  refine ⟨b.reportUnused, ha, ?_⟩
  simp only [issues, Subject.tree, h, analysisWithin_eq hroom, ha]
  rfl

theorem issues_of_deep_tree {s : String} (h : readTree s = .ok n) (hroom : room < n.nesting) :
    issues room (.text s) = .error .tooDeep := by
  simp only [issues, Subject.tree, h, analysisWithin_tooDeep (readTree_wellFormed h) hroom]
  rfl

/-- The text has no tree that is nested deeper than calls can be. -/
def FitsIn (room : Nat) (s : String) : Prop := ∀ n, readTree s = .ok n → n.nesting ≤ room

theorem exists_issues {s : String} (h : FitsIn room s) :
    ∃ found, issues room (.text s) = .ok found := by
  cases hread : readTree s with
  | error f => exact ⟨_, issues_of_unreadable hread⟩
  | ok n =>
    obtain ⟨a, -, hissues⟩ := issues_of_tree hread (h n hread)
    exact ⟨_, hissues⟩

theorem issues_of_not_fitsIn {s : String} (h : ¬FitsIn room s) :
    issues room (.text s) = .error .tooDeep := by
  obtain ⟨n, hn⟩ := Classical.not_forall.mp h
  obtain ⟨hread, hdeep⟩ := Classical.not_imp.mp hn
  exact issues_of_deep_tree hread (Nat.lt_of_not_le hdeep)

/-- A text that cannot be read has one issue, which says so. A text whose tree is nested no deeper
than calls can be is analysed to the end, and none of its issues looks like that report. On any
other text the analysis stops for want of room. -/
theorem issues_of_every_text (room : Nat) (s : String) :
    (∀ f, readTree s = .error f → issues room (.text s) = .ok [f.report] ∧
      "E999: SyntaxError: ".toList <+: f.report.toList) ∧
    ∀ n, readTree s = .ok n →
      (n.nesting ≤ room → ∃ a, analysis n = .ok a ∧ issues room (.text s) = .ok a.texts ∧
        ∀ t ∈ a.texts, ¬ "E999".toList <+: t.toList) ∧
      (room < n.nesting → issues room (.text s) = .error .tooDeep) := by
  constructor
  · intro f hf
    exact ⟨issues_of_unreadable hf, report_starts f⟩
  · intro n hn
    refine ⟨fun hroom => ?_, issues_of_deep_tree hn⟩
    obtain ⟨b, hb, ha⟩ := analysis_eq (readTree_wellFormed hn)
    obtain ⟨a, ha', hissues⟩ := issues_of_tree hn hroom
    obtain rfl : a = b.reportUnused := Except.ok.inj (ha'.symm.trans ha)
    refine ⟨b.reportUnused, ha, hissues, fun t ht => ?_⟩
    obtain ⟨i, hi, rfl⟩ := List.mem_map.mp ht
    exact not_unreadable_text (reportUnused_not_note (visit_not_note hb) i hi)

def manySigns : String := "~~~~~~~~~~~~~~~~~~~~~~~~~~~~~~1"

theorem manySigns_nesting :
    (readTree manySigns).isOk = true ∧ (treeOf manySigns).nesting = 102 := by
  decide +kernel

theorem manySigns_not_analysed :
    (readTree manySigns).isOk = true ∧ issues 100 (.text manySigns) = .error .tooDeep ∧
      (issues 102 (.text manySigns)).toOption = some [] := by
  obtain ⟨hok, hnesting⟩ := manySigns_nesting
  refine ⟨hok, issues_of_deep_tree (readTree_of_isOk hok) ?_, by decide +kernel⟩
  rw [hnesting]
  decide

end CodeLint.Lint
