import CodeLint.Proofs.PrintedRows
import CodeLint.Proofs.Suites

/-!
Self-checks and the verdicts on them. A bench whose calls all succeed is noted by the type of what
it returns, and one with a call that fails by a mark that no type has for its name. Whatever
happened to a bench, its row can be read, so each bench has a verdict of its own.
-/

namespace CodeLint.Measure

open CodeLint.Number

variable {print : Printing} {b : Bench}

/-- The calls of a bench: as it is, once more, and for each of its parameters. -/
def Bench.calls (print : Printing) (b : Bench) : List (Except Failure Returned) :=
  b.returned print 0 [] :: b.returned print 1 [] ::
    (b.parameters.zipIdx 2).map fun a => b.returned print a.2 a.1

/-! ### Rows -/

variable {r : Row}

def Marks (calls : List (Except Failure Returned)) (type : String) (r : Row) : Prop :=
  (∃ f, .error f ∈ calls ∧ r.returnType = some f.mark) ∨
    (∀ call ∈ calls, ∃ v, call = .ok v) ∧ r.returnType = some type

theorem Marks.cons {calls : List (Except Failure Returned)} {type : String}
    (h : Marks calls type r) (v : Returned) : Marks (.ok v :: calls) type r := by
  rcases h with ⟨f, hf, hmark⟩ | ⟨hall, htype⟩
  · exact .inl ⟨f, List.mem_cons_of_mem _ hf, hmark⟩
  · exact .inr ⟨List.forall_mem_cons.mpr ⟨⟨v, rfl⟩, hall⟩, htype⟩

end CodeLint.Measure
