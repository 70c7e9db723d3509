import CodeLint.Text.Blank
import CodeLint.Text.Split

/-!
Documentation texts without their indentation. Tabs become blanks up to the next multiple of
eight. The first line loses its leading blanks, the other lines the least indentation that one of
them has, and empty lines at both ends are dropped.
-/

namespace CodeLint.Text

def expandTabsFrom (column : Nat) : List Char → List Char
  | [] => []
  | c :: cs =>
    if c == '\t' then List.replicate (8 - column % 8) ' ' ++ expandTabsFrom 0 cs
    else if c == '\n' || c == '\r' then c :: expandTabsFrom 0 cs
    else c :: expandTabsFrom (column + 1) cs

def indentation (line : List Char) : Nat := (line.takeWhile isBlank).length

def margin? (lines : List (List Char)) : Option Nat :=
  ((lines.filter (!·.all isBlank)).map indentation).min?

def dropEmptyEnds (lines : List (List Char)) : List (List Char) :=
  ((lines.dropWhile List.isEmpty).reverse.dropWhile List.isEmpty).reverse

def withoutMargin (text : List Char) : List (List Char) :=
  match splitAt '\n' (expandTabsFrom 0 text) with
  | [] => []
  | first :: rest =>
    let rest := match margin? rest with
      | some k => rest.map (List.drop k)
      | none => rest
    dropEmptyEnds (trimLeft first :: rest)

def isDocumentation (text : String) : Bool := !(withoutMargin text.toList).isEmpty

end CodeLint.Text
