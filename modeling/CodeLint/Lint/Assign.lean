import CodeLint.Lint.Naming
import CodeLint.Lint.Read

/-!
Assignment to a target. A name is checked and bound in the current scope, a tuple or list is taken
apart, and any other target is passed over.
-/

namespace CodeLint.Lint

open CodeLint.Tree CodeLint.Text

/-- A constant of a module has a name in capitals, any other variable one in small letters or the
name of a class. -/
def checkVariable (atModule : Bool) (x : String) (target : Value) : Check Unit := do
  if atModule && isUpper x && !isLower x then
    reportIf (!constantCase.accepts x) (.constantName x) target
  else
    let known := (← get).classNames
    reportIf (!isDunder x && !known.contains x && !snakeCase.accepts x && !capWords.accepts x)
      (.variableName x) target

def assignName (atModule : Bool) (n : Node) : Check Unit := do
  let x ← textAttr (.node n) .ident
  reportIf (isBuiltIn x) (.builtInRedefined x) (.node n)
  checkVariable atModule x (.node n)
  modify (·.bind x .assigned)
  let line ← lineOf (.node n)
  modify fun a => { a with assignments := a.assignments.put x line }
  if atModule then modify fun a => { a with moduleLevel := a.moduleLevel.put x line }

mutual
def assignNode (atModule : Bool) : Node → Check Unit
  | .mk kind place fields =>
    if kind = .name then assignName atModule (.mk kind place fields)
    else if kind = .tupleLit ∨ kind = .listLit then do
      discard (membersAttr (.node (.mk kind place fields)) .elements)
      assignFields atModule fields
    else pure ()
/-- Assigns to the parts of a tuple or list, which stand in its first field of elements. -/
def assignFields (atModule : Bool) : List Field → Check Unit
  | [] => pure ()
  | .mk l v :: fs => if l = .elements then assignParts atModule v else assignFields atModule fs
def assignParts (atModule : Bool) : Value → Check Unit
  | .list vs => assignEach atModule vs
  | _ => pure ()
def assignEach (atModule : Bool) : List Value → Check Unit
  | [] => pure ()
  | .node n :: vs => do
    assignNode atModule n
    assignEach atModule vs
  | _ :: vs => assignEach atModule vs
end

def assign (atModule : Bool) : Value → Check Unit
  | .node n => assignNode atModule n
  | _ => pure ()

end CodeLint.Lint
