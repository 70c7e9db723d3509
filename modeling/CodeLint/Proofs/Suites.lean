import CodeLint.Measure.Suite
import Mathlib.Data.List.Nodup
import Mathlib.Data.String.Basic

/-!
The benches of a suite. An entry counts if no later one has its name. The benches are the callable
ones of the right name, each once, in order of their names.
-/

namespace CodeLint.Measure

def entryOf (entries : List Entry) (name : String) : Option Entry :=
  entries.reverse.find? (·.name == name)

variable {entries : List Entry} {e : Entry} {name : String}

end CodeLint.Measure
