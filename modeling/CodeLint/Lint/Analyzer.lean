import CodeLint.Lint.Checks
import CodeLint.Source.Program
import CodeLint.Text.CharacterName

/-!
Analysing a source text or a tree. The analysis visits the tree and then reports the variables
that are never read. A text that cannot be read has one issue, which says why.
-/

namespace CodeLint.Lint

open CodeLint.Tree

inductive Subject
  | text (s : String)
  | value (v : Value)

def readTree (s : String) : Except Source.SyntaxFault Node :=
  Source.readProgram Text.characterNamed? s

def Subject.tree : Subject → Except Fault Node
  | .text s =>
    match readTree s with
    | .ok n => .ok n
    | .error f => .error (.unreadable f)
  | .value (.node n) => .ok n
  | .value _ => .error .notSource

def inspect (n : Node) : Check Unit := do
  visit [] n
  modify (·.reportUnused)

def Check.apply (c : Check α) (a : Analysis) : Except Fault α × Analysis := c.run.run a

def Analysis.texts (a : Analysis) : List String := a.issues.map Issue.text

def sortedTexts (ts : List String) : List String := ts.mergeSort fun a b => !(b < a)

def importLe (a b : String × Line) : Bool :=
  a.1 < b.1 || (a.1 == b.1 && (a.2.getD 0) ≤ (b.2.getD 0))

/-- Imports are a set; they are shown in order. -/
def Analysis.sortedImports (a : Analysis) : List (String × Line) := a.imports.mergeSort importLe

def analysis (n : Node) : Except Fault Analysis :=
  match (inspect n).apply {} with
  | (.ok _, a) => .ok a
  | (.error f, _) => .error f

def analysisWithin (room : Nat) (n : Node) : Except Fault Analysis :=
  match (visitWithin room [] n).apply {} with
  | (.ok _, a) => .ok a.reportUnused
  | (.error f, _) => .error f

def issues (room : Nat) (s : Subject) : Except Fault (List String) :=
  match s.tree with
  | .error (.unreadable f) => .ok [f.report]
  | .error f => .error f
  | .ok n => (analysisWithin room n).map Analysis.texts

end CodeLint.Lint
