import CodeLint.Proofs.PrintedRows
import CodeLint.Proofs.ReportCounts

/-!
What a round comes to. A report of the form that recording the coverage leaves can be shown, so a
round fails only at the hot places of a bench below the floor. A round that does not fail prints its
line and, when it is the last, why it is.
-/

namespace CodeLint.Measure

open CodeLint.Number

/-! ### Coverage reports -/

def HasSummary (file : Json) : Prop :=
  ∃ summary, file.member? "summary" = some summary ∧
    (∃ n, summary.member? "num_statements" = some (.int n)) ∧
    ∃ x, summary.member? "percent_covered" = some (.real x)

/-- A report as recording the coverage leaves it, with these totals. -/
structure CoverageForm (report : Json) (t : Totals) : Prop where
  totals : ∃ totals, report.member? "totals" = some totals ∧
    totals.member? "percent_covered" = some (.real t.percent) ∧
    totals.member? "covered_lines" = some (.int t.covered) ∧
    totals.member? "num_statements" = some (.int t.statements)
  files : ∃ files, report.member? "files" = some (.object files) ∧ ∀ f ∈ files, HasSummary f.2
  failures : ∃ notes failures, report.member? "meta" = some notes ∧
    notes.member? failuresKey = some (.object failures)

section
variable {j v w : Json} {name other : String}

end

section
variable {report : Json} {t : Totals}

end

/-! ### Hot places -/

def Setting.shareReport (s : Setting) : ShareReport :=
  (sharesFrom (runIfThere s "_pti_repotime.py" s.shares)).1

def Setting.isModified (s : Setting) : Bool :=
  !(modifiedFiles (runIfThere s "_pti_semcheck.py" s.git)).isEmpty

def Setting.judgements (s : Setting) : List Judged :=
  (judgedFrom s.isModified (runIfThere s "_pti_semcheck.py" s.checks)).1

/-- A setting in which the coverage is recorded, with these totals. -/
structure Setting.Covers (s : Setting) (report : Json) (t : Totals) : Prop where
  finished : ∃ out complaints, s.coverage = .finished 0 out complaints
  reported : s.report? = some report
  form : CoverageForm report t

section
variable {s : Setting} {report : Json} {t : Totals}

end

end CodeLint.Measure
