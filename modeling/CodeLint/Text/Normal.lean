import CodeLint.Text.Normal.Single
import CodeLint.Text.Normal.Several
import CodeLint.Text.Normal.Marks

/-!
The normal form of names (Unicode normalization form KC): every character is decomposed, marks
are put in the order of their classes, and what has a composed form is composed again. The tables
cover the characters that can stand in a name. Hangul syllables are computed.
-/

namespace CodeLint.Text

def formIn? {α : Type} : List (Nat × List α) → Nat → Option α
  | [], _ => none
  | (first, forms) :: rest, c =>
    if c < first then none else forms[c - first]?.orElse fun _ => formIn? rest c

def markClass : List (Nat × Nat × Nat) → Nat → Nat
  | [], _ => 0
  | (lo, hi, k) :: rest, c => if c < lo then 0 else if c ≤ hi then k else markClass rest c

def combiningClass (c : Nat) : Nat := markClass markClasses c

def isHangulSyllable (c : Nat) : Bool := 0xAC00 ≤ c && c ≤ 0xD7A3

def hangulParts (c : Nat) : List Nat :=
  let i := c - 0xAC00
  let lead := 0x1100 + i / 588
  let vowel := 0x1161 + i % 588 / 28
  if i % 28 == 0 then [lead, vowel] else [lead, vowel, 0x11A7 + i % 28]

def decompose (c : Nat) : List Nat :=
  if c < 0x80 then [c]
  else if isHangulSyllable c then hangulParts c
  else match formIn? singleForms c with
    | some d => [d]
    | none => (formIn? severalForms c).getD [c]

/-- Puts a character behind a reversed text, ahead of the marks of higher class at its end. -/
def insertMark (c : Nat) : List Nat → List Nat
  | [] => [c]
  | d :: ds =>
    if combiningClass c != 0 && combiningClass d > combiningClass c then d :: insertMark c ds
    else c :: d :: ds

def orderMarks (cs : List Nat) : List Nat := (cs.foldl (fun acc c => insertMark c acc) []).reverse

def composedForm? (a b : Nat) : Option Nat :=
  if 0x1100 ≤ a && a ≤ 0x1112 && 0x1161 ≤ b && b ≤ 0x1175 then
    some (0xAC00 + ((a - 0x1100) * 21 + (b - 0x1161)) * 28)
  else if isHangulSyllable a && (a - 0xAC00) % 28 == 0 && 0x11A8 ≤ b && b ≤ 0x11C2 then
    some (a + (b - 0x11A7))
  else (composedForms.lookup b).bind (·.lookup a)

/-- Composes behind the last character of class zero; `marks` are what stands between, reversed. -/
def composeFrom (first : Nat) (marks : List Nat) : List Nat → List Nat
  | [] => first :: marks.reverse
  | c :: cs =>
    let blocked := match marks with
      | [] => false
      | m :: _ => combiningClass m ≥ combiningClass c
    match if blocked then none else composedForm? first c with
    | some d => composeFrom d marks cs
    | none =>
      if combiningClass c == 0 then first :: marks.reverse ++ composeFrom c [] cs
      else composeFrom first (c :: marks) cs

def compose : List Nat → List Nat
  | [] => []
  | c :: cs => composeFrom c [] cs

def normalName (s : String) : String :=
  if s.toList.all (·.toNat < 0x80) then s
  else String.ofList
    ((compose (orderMarks (s.toList.flatMap (decompose ·.toNat)))).map Char.ofNat)

end CodeLint.Text
