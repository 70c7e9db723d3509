import CodeLint.Source.Fault
import CodeLint.Source.Input

/-!
Tokens. A token has a kind, its text, the line and the byte column of its start, the byte column
behind its end, and the number of brackets open behind it. It also keeps how far the text had been
read when it was found. Indents, unindents and the end of the text have no column.
-/

namespace CodeLint.Source

inductive TokenKind
  | name
  | keyword
  | number
  | string
  | operator
  | stray
  | newline
  | indent
  | dedent
  | finish
  deriving DecidableEq, Inhabited

structure Token where
  kind : TokenKind
  text : String
  line : Nat
  column : Option Nat
  stop : Nat
  depth : Nat
  mark : Mark
  deriving Inhabited

structure Bracket where
  char : Char
  line : Nat
  column : Nat

/-- Why no more tokens follow. Some faults concern the text as such and come first wherever they
stand; the others count only if they are reached. -/
structure Stop where
  fault : SyntaxFault
  decisive : Bool
  mark : Mark
  brackets : List Bracket

structure Tokens where
  tokens : Array Token
  stop : Option Stop

def keywords : List String :=
  ["False", "None", "True", "and", "as", "assert", "async", "await", "break", "class", "continue",
   "def", "del", "elif", "else", "except", "finally", "for", "from", "global", "if", "import", "in",
   "is", "lambda", "nonlocal", "not", "or", "pass", "raise", "return", "try", "while", "with",
   "yield"]

def threeCharOperators : List String := ["**=", "//=", "<<=", ">>=", "..."]

def twoCharOperators : List String :=
  ["!=", "%=", "&=", "**", "*=", "+=", "-=", "->", "//", "/=", ":=", "<<", "<=", "<>", "==", ">=",
   ">>", "@=", "^=", "|="]

def oneCharOperators : List Char :=
  ['%', '&', '(', ')', '*', '+', ',', '-', '.', '/', ':', ';', '<', '=', '>', '@', '[', ']', '^',
   '\x7b', '|', '\x7d', '~']

end CodeLint.Source
