import CodeLint.Text.Case

/-!
Naming conventions. A pattern gives the characters that may come first and those that may follow.
A name fits when all its characters do; one line feed at its end is overlooked.
-/

namespace CodeLint.Lint

structure Pattern where
  first : Char → Bool
  later : Char → Bool

def isSmall (c : Char) : Bool := 'a' ≤ c && c ≤ 'z'
def isCapital (c : Char) : Bool := 'A' ≤ c && c ≤ 'Z'
def isNumeral (c : Char) : Bool := '0' ≤ c && c ≤ '9'

def withoutFinalBreak : List Char → List Char
  | [] => []
  | ['\n'] => []
  | c :: cs => c :: withoutFinalBreak cs

def Pattern.accepts (p : Pattern) (name : String) : Bool :=
  match withoutFinalBreak name.toList with
  | [] => false
  | c :: cs => p.first c && cs.all p.later

def snakeCase : Pattern where
  first c := isSmall c || c == '_'
  later c := isSmall c || isNumeral c || c == '_'

def capWords : Pattern where
  first c := isCapital c
  later c := isSmall c || isCapital c || isNumeral c

def constantCase : Pattern where
  first c := isCapital c || c == '_'
  later c := isCapital c || isNumeral c || c == '_'

def isDunder (name : String) : Bool :=
  ['_', '_'].isPrefixOf name.toList && ['_', '_'].isSuffixOf name.toList

end CodeLint.Lint
