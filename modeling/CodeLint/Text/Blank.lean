import CodeLint.Text.Ranges

/-!
Blank characters by Unicode 14, and cutting them from the ends of a text.
-/

namespace CodeLint.Text

def blankRanges : List (Nat × Nat) :=
  [(0x9, 0xD), (0x1C, 0x20), (0x85, 0x85), (0xA0, 0xA0), (0x1680, 0x1680), (0x2000, 0x200A),
   (0x2028, 0x2029), (0x202F, 0x202F), (0x205F, 0x205F), (0x3000, 0x3000)]

def isBlank (c : Char) : Bool := inRanges blankRanges c.toNat

def trimLeft (cs : List Char) : List Char := cs.dropWhile isBlank
def trimRight (cs : List Char) : List Char := (cs.reverse.dropWhile isBlank).reverse
def trim (cs : List Char) : List Char := trimRight (trimLeft cs)

theorem all_dropWhile {α : Type} (p : α → Bool) (xs : List α) :
    (xs.dropWhile p).all p = xs.all p := by
  have hsplit : (xs.takeWhile p ++ xs.dropWhile p).all p = xs.all p := by
    rw [List.takeWhile_append_dropWhile]
  rwa [List.all_append, List.all_takeWhile, Bool.true_and] at hsplit

theorem trim_eq_nil_iff {cs : List Char} : trim cs = [] ↔ cs.all isBlank = true := by
  have hcut (ds : List Char) : ds.dropWhile isBlank = [] ↔ ds.all isBlank = true := by
    induction ds with
    | nil => simp
    | cons d ds ih => cases hd : isBlank d <;> simp [hd, ih]
  rw [trim, trimRight, List.reverse_eq_nil_iff, hcut, List.all_reverse, trimLeft, all_dropWhile]

end CodeLint.Text
