import CodeLint.Proofs.Run

/-!
The names that a single node reads and binds. An import binds a name for each of its items, a
function definition binds its parameters, and an assignment or a loop binds the names that are
left when tuples and lists among its targets are taken apart.
-/

namespace CodeLint.Tree

mutual
/-- The names in a target, found by taking apart tuples and lists only. -/
def Node.leaves : Node → List Node
  | .mk kind place fields =>
    if kind = .name then [.mk kind place fields]
    else if kind = .tupleLit ∨ kind = .listLit then Field.leaves fields
    else []
def Field.leaves : List Field → List Node
  | [] => []
  | .mk l v :: fs => if l = .elements then v.partLeaves else Field.leaves fs
def Value.partLeaves : Value → List Node
  | .list vs => Value.eachLeaves vs
  | _ => []
def Value.eachLeaves : List Value → List Node
  | [] => []
  | .node n :: vs => n.leaves ++ Value.eachLeaves vs
  | _ :: vs => Value.eachLeaves vs
end

def Value.leaves : Value → List Node
  | .node n => n.leaves
  | _ => []

theorem Value.isKind_iff {v : Value} {k : Kind} :
    v.isKind k = true ↔ ∃ n, v = .node n ∧ n.kind = k := by
  cases v with
  | node n => simp [Value.isKind]
  | atom c => simp [Value.isKind]
  | list vs => simp [Value.isKind]

end CodeLint.Tree

namespace CodeLint.Lint

open CodeLint.Tree

def importName (item : Value) : String :=
  if (item.part .otherName).isFalsy then item.textAt .name else (item.part .otherName).text

/-- The parameters of a definition that are bound: all but the positional-only ones. -/
def boundParameters (n : Node) : List Value :=
  let params := (Value.node n).part .positional
  params.membersAt .positional ++ restParameter (params.part .restPositional) ++
    restParameter (params.part .restKeywords) ++ params.membersAt .keywordOnly

end CodeLint.Lint

namespace CodeLint.Tree.Node

open CodeLint.Lint

def title (n : Node) : String := (Value.node n).textAt .name

def ident (n : Node) : String := (Value.node n).textAt .ident

def isLoad (n : Node) : Bool := n.kind == .name && ((Value.node n).part .context).isKind .load

def isStore (n : Node) : Bool := n.kind == .name && ((Value.node n).part .context).isKind .store

def isImport (n : Node) : Bool := n.kind == .importStmt || n.kind == .importFrom

def importedNames (n : Node) : List String := ((Value.node n).membersAt .names).map importName

def parameterNames (n : Node) : List String := (boundParameters n).map (·.textAt .argument)

def assignedLeaves (n : Node) : List Node :=
  ((Value.node n).membersAt .targets).flatMap Value.leaves

def loopLeaves (n : Node) : List Node := ((Value.node n).part .target).leaves

def declaredNames (n : Node) : List String := ((Value.node n).membersAt .names).map Value.text

/-- The name through which a call finds its function: the callee, or what the callee is an attribute
of. -/
def calledName (n : Node) : Option Node :=
  let callee := (Value.node n).part .callee
  if callee.isKind .name then callee.node?
  else if callee.isKind .attributeOf && (callee.part .value).isKind .name then
    (callee.part .value).node?
  else none

end CodeLint.Tree.Node
