/-!
Sets of characters as ascending lists of code point ranges, both ends included.
-/

namespace CodeLint.Text

def inRanges : List (Nat × Nat) → Nat → Bool
  | [], _ => false
  | (lo, hi) :: rest, c => if c < lo then false else c ≤ hi || inRanges rest c

/-- Of each range only every second character counts, from its first on. -/
def inAlternating : List (Nat × Nat) → Nat → Bool
  | [], _ => false
  | (lo, hi) :: rest, c =>
    if c < lo then false else (c ≤ hi && (c - lo) % 2 == 0) || inAlternating rest c

def offsetIn : List (Nat × Nat) → Nat → Option Nat
  | [], _ => none
  | (lo, hi) :: rest, c =>
    if c < lo then none else if c ≤ hi then some (c - lo) else offsetIn rest c

end CodeLint.Text
