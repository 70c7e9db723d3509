import CodeLint.Proofs.Principal

/-!
What a traversal reports about the use of names. Entering a node reports undefined names only, and
unused imports are reported on leaving a module. Unused variables are left for the end of the
analysis, and a finding whose code and message are free is never reported.
-/

namespace CodeLint.Lint

open CodeLint.Tree

variable {a b c : Analysis} {n : Node} {above : List Link}

/-- Between two analyses nothing is reported about the use of names but undefined names and, where
a module is left, unused imports. -/
def Reports (modules : Prop) (a b : Analysis) : Prop :=
  ∀ i ∈ b.issues, i.aboutUse = true → i ∈ a.issues ∨ (∃ x, i.finding = .undefinedVariable x) ∨
    modules ∧ ∃ x, i.finding = .unusedImport x

namespace Reports

variable {P Q : Prop}

theorem of_issues (h : b.issues = a.issues) : Reports P a b := fun _ hi _ => .inl (h ▸ hi)

theorem imp (h : Reports P a b) (hPQ : P → Q) : Reports Q a b :=
  fun i hi huse => (h i hi huse).imp_right (.imp_right (.imp_left hPQ))

theorem trans (h : Reports P a b) (h' : Reports P b c) : Reports P a c := fun i hi huse => by
  rcases h' i hi huse with hb | hi
  · exact h i hb huse
  · exact .inr hi

theorem of_agrees (h : Agrees b c) (hb : Reports P a b) : Reports P a c := by
  intro i hi huse
  have hfilter : i ∈ b.issues.filter Issue.aboutUse := by
    rw [h.issues]
    exact List.mem_filter.mpr ⟨hi, huse⟩
  exact hb i (List.mem_filter.mp hfilter).1 huse

theorem entering (a : Analysis) (above : List Link) (n : Node) :
    Reports False a (a.after (entering above n)) := by
  refine of_agrees (entering_agrees a above n) fun i hi _ => ?_
  rw [issues_principal] at hi
  rcases List.mem_append.mp hi with hi | hi
  · exact .inl hi
  · split at hi
    · rw [List.mem_singleton.mp hi]
      exact .inr (.inl ⟨_, rfl⟩)
    · cases hi

theorem leaving (a : Analysis) (n : Node) (previous : ScopeRef) :
    Reports (n.kind = .program) a (a.after (leaving n previous)) := by
  refine of_agrees (leaving_agrees a n previous) fun i hi _ => ?_
  rw [issues_principalLeave] at hi
  rcases List.mem_append.mp hi with hi | hi
  · exact .inl hi
  · split at hi
    · next hk =>
      obtain ⟨e, -, rfl⟩ := List.mem_map.mp hi
      exact .inr (.inr ⟨hk, _, rfl⟩)
    · cases hi

theorem chain {P : Node → Prop} {cs : List Node} (h : Chain (fun c => Reports (P c)) cs a b) :
    Reports (∃ c ∈ cs, P c) a b :=
  (h.mono fun c hc _ _ hr => hr.imp fun hP => ⟨c, hc, hP⟩).relates (fun _ => of_issues rfl)
    fun _ _ _ => trans

theorem visit (h : Runs (visit above n) a () b) : Reports (n.Reaches .program) a b := by
  refine visit_induction (P := fun _ n => Reports (n.Reaches .program)) ?_ h
  intro above n a m hbranches
  have hentered := (entering a above n).imp (Q := n.Reaches .program) False.elim
  have hinside := (chain hbranches).imp fun hbelow => reaches_iff.mpr (.inr hbelow)
  have hleft := (leaving m n a.current).imp fun hk => reaches_iff.mpr (.inl hk)
  exact hentered.trans (hinside.trans hleft)

end Reports

/-! ### The texts of issues -/

theorem report_starts (f : Source.SyntaxFault) :
    "E999: SyntaxError: ".toList <+: f.report.toList := by
  unfold Source.SyntaxFault.report
  simp only [String.toList_append, List.append_assoc]
  exact List.prefix_append _ _

def Finding.isNote : Finding → Bool
  | note _ _ => true
  | _ => false

theorem code_of_not_note {f : Finding} (hf : f.isNote = false) :
    4 ≤ f.code.toList.length ∧ ¬ "E999".toList <+: f.code.toList := by
  cases f with
  | note => cases hf
  | _ => simp only [Finding.code]; decide

theorem not_unreadable_text {i : Issue} (hi : i.finding.isNote = false) :
    ¬ "E999".toList <+: i.text.toList := by
  intro hbegins
  -- The four characters lie within the code, which stands first.
  obtain ⟨hlength, hcode⟩ := code_of_not_note hi
  have htext : i.finding.code.toList <+: i.text.toList := by
    simp only [Issue.text, String.toList_append, List.append_assoc]
    exact List.prefix_append _ _
  exact hcode (List.prefix_of_prefix_length_le hbegins htext hlength)

theorem not_note_of_not_aboutUse {f : Finding} (hf : f.aboutUse = false) : f.isNote = false := by
  cases f with
  | note => cases hf
  | _ => rfl

theorem visit_not_note (h : Runs (visit above n) {} () b) :
    ∀ i ∈ b.issues, i.finding.isNote = false := by
  intro i hi
  cases huse : i.aboutUse with
  | false => exact not_note_of_not_aboutUse huse
  | true =>
    rcases Reports.visit h i hi huse with hfirst | ⟨x, hx⟩ | ⟨-, x, hx⟩
    · cases hfirst
    · rw [hx]
      rfl
    · rw [hx]
      rfl

theorem reportUnused_not_note (ha : ∀ i ∈ a.issues, i.finding.isNote = false) :
    ∀ i ∈ a.reportUnused.issues, i.finding.isNote = false := by
  intro i hi
  rcases List.mem_append.mp hi with hi | hi
  · exact ha i hi
  · obtain ⟨e, -, rfl⟩ := List.mem_map.mp hi
    rfl

end CodeLint.Lint
