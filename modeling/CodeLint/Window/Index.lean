import CodeLint.Text.Digit

/-!
Indices into the code. An index is a text: the number of a line and, behind a dot, that of a
character in it. What goes from line to line reads the number back out of the text.
-/

namespace CodeLint.Window

open CodeLint.Text

def lineStart (line : Int) : String := toString line ++ ".0"

def lineEnd (line : Int) : String := lineStart line ++ " lineend"

/-- The number of a line as an index writes it: what stands before the first dot. -/
def printedLine (index : String) : String := String.ofList (index.toList.takeWhile (· != '.'))

def digitsValue? (ds : List Char) : Option Nat :=
  if ds.isEmpty || !ds.all isDigit then none else some (numeral ds)

def whole? (s : String) : Option Int :=
  match s.toList with
  | '-' :: ds => (digitsValue? ds).map fun n : Nat => -(n : Int)
  | ds => (digitsValue? ds).map Int.ofNat

def lineOf? (index : String) : Option Int := whole? (printedLine index)

def nextLine (index : String) : String := lineStart ((lineOf? index).getD 0 + 1)

/-! ### Reading a number back -/

theorem digitsValue?_toDigits (n : Nat) : digitsValue? (Nat.toDigits 10 n) = some n := by
  have hdigits : (Nat.toDigits 10 n).all isDigit = true :=
    List.all_eq_true.mpr fun _ => isDigit_of_mem_toDigits
  simp [digitsValue?, hdigits, Nat.toDigits_ne_nil, numeral_toDigits]

theorem toList_toString (n : Int) :
    (toString n).toList =
      if 0 ≤ n then Nat.toDigits 10 n.toNat else '-' :: Nat.toDigits 10 (-n).toNat := by
  rw [Int.toString_eq_repr, Int.repr_eq_if]
  split
  · rw [Nat.toList_repr]
  · rw [String.toList_append, Nat.toList_repr]
    rfl

theorem whole?_toString (n : Int) : whole? (toString n) = some n := by
  rw [whole?, toList_toString]
  by_cases hn : 0 ≤ n
  · rw [if_pos hn]
    split
    · next ds hsign =>
      have hminus : '-' ∈ Nat.toDigits 10 n.toNat := hsign ▸ List.mem_cons_self
      exact absurd (isDigit_of_mem_toDigits hminus) (by decide)
    · rw [digitsValue?_toDigits]
      exact congrArg some (Int.toNat_of_nonneg hn)
  · rw [if_neg hn]
    change (digitsValue? (Nat.toDigits 10 (-n).toNat)).map (fun m : Nat => -(m : Int)) = some n
    have hopposite : -((-n).toNat : Int) = n := by omega
    rw [digitsValue?_toDigits, Option.map_some, hopposite]

theorem printedLine_lineStart (n : Int) : printedLine (lineStart n) = toString n := by
  have hdot : ∀ c ∈ (toString n).toList, (c != '.') = true := by
    intro c hc
    have hsign : c = '-' ∨ isDigit c = true := by
      rw [toList_toString] at hc
      split at hc
      · exact .inr (isDigit_of_mem_toDigits hc)
      · rcases List.mem_cons.mp hc with rfl | hc
        · exact .inl rfl
        · exact .inr (isDigit_of_mem_toDigits hc)
    rw [bne_iff_ne]
    rintro rfl
    rcases hsign with hsign | hsign <;> exact absurd hsign (by decide)
  rw [printedLine, lineStart, String.toList_append, List.takeWhile_append_of_pos hdot]
  simp

@[simp]
theorem lineOf?_lineStart (n : Int) : lineOf? (lineStart n) = some n := by
  rw [lineOf?, printedLine_lineStart, whole?_toString]

end CodeLint.Window
