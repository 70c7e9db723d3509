import CodeLint.Proofs.Rounds

/-!
Output of the measuring programs that cannot be used. It is noted, and the round goes on with what
could be read up to the fault: percentages without their hot places, and the verdicts on the rows in
front of the first that cannot be read. Only hot places that were read and cannot be shown make a
round fail.
-/

namespace CodeLint.Measure

open CodeLint.Number

/-! ### Faults of an output -/

section
variable {s : Setting} {report : Json} {t : Totals}

end

end CodeLint.Measure
