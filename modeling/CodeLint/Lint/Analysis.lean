import CodeLint.Lint.BuiltIn
import CodeLint.Lint.Fault
import CodeLint.Lint.Issue
import CodeLint.Ordered

/-!
The state of an analysis. Names are bound in scopes: one for the module and a stack of further
ones, of which a new analysis already holds an empty one at the bottom. The current scope is the
module's or a level of the stack, counted from the bottom.

`Check` is a step of the analysis. When it stops with a fault, the changes made before stay.
-/

namespace CodeLint.Lint

inductive Binding
  | imported
  | classDef
  | param
  | assigned
  | global
  deriving DecidableEq

abbrev Scope := Ordered Binding

inductive ScopeRef
  | global
  | level (i : Nat)
  deriving DecidableEq

structure FunctionRecord where
  returns : List Bool
  line : Line
  deriving DecidableEq

structure Analysis where
  issues : List Issue := []
  assignments : Ordered Line := []
  usages : Ordered Line := []
  moduleLevel : Ordered Line := []
  definitions : List FunctionRecord := []
  functions : Ordered Nat := []
  imports : List (String × Line) := []
  usedImports : List String := []
  classNames : List String := []
  globalVars : List String := []
  nonlocalVars : List String := []
  globalScope : Scope := []
  scopes : List Scope := [[]]
  current : ScopeRef := .global
  loopDepth : Nat := 0
  currentFunction : Option String := none

abbrev Check := ExceptT Fault (StateM Analysis)

namespace Analysis

def report (a : Analysis) (f : Finding) (line : Line) : Analysis :=
  { a with issues := a.issues ++ [⟨f, line⟩] }

def currentScope (a : Analysis) : Scope :=
  match a.current with
  | .global => a.globalScope
  | .level i => a.scopes.getD i []

def bind (a : Analysis) (name : String) (b : Binding) : Analysis :=
  match a.current with
  | .global => { a with globalScope := a.globalScope.put name b }
  | .level i => { a with scopes := a.scopes.modify i (Ordered.put name b) }

def push (a : Analysis) (s : Scope) : Analysis :=
  { a with scopes := a.scopes ++ [s], current := .level a.scopes.length }

/-- Notes a definition, which takes the place of earlier ones of that name. -/
def define (a : Analysis) (name : String) (r : FunctionRecord) : Analysis :=
  { a with
    definitions := a.definitions ++ [r]
    functions := a.functions.put name a.definitions.length }

def definition? (a : Analysis) (name : String) : Option FunctionRecord :=
  match a.functions.get? name with
  | some i => a.definitions[i]?
  | none => none

def addReturn (a : Analysis) (name : String) (hasValue : Bool) : Analysis :=
  match a.functions.get? name with
  | some i =>
    { a with
      definitions := a.definitions.modify i fun r => { r with returns := r.returns ++ [hasValue] } }
  | none => a

def isImported (a : Analysis) (name : String) : Bool := a.imports.any (·.1 == name)

def markUsed (a : Analysis) (name : String) : Analysis :=
  if a.isImported name then { a with usedImports := insertNew name a.usedImports } else a

def isDefined (a : Analysis) (name : String) : Bool :=
  a.scopes.any (·.has name) || a.globalScope.has name || a.classNames.contains name ||
    a.isImported name || isBuiltIn name

/-- Reports the variables that are assigned, never read, and neither imports nor built in. -/
def reportUnused (a : Analysis) : Analysis :=
  let unused := a.assignments.filter fun (x, _) =>
    !a.usages.has x && !a.isImported x && !isBuiltIn x
  { a with issues := a.issues ++ unused.map fun (x, line) => ⟨.unusedVariable x, line⟩ }

def reportUnusedImports (a : Analysis) : Analysis :=
  let unused := a.imports.filter fun (x, _) => !a.usedImports.contains x
  { a with issues := a.issues ++ unused.map fun (x, line) => ⟨.unusedImport x, line⟩ }

end Analysis

def report (f : Finding) (line : Line) : Check Unit := modify (·.report f line)

end CodeLint.Lint
