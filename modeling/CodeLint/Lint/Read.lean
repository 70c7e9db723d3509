import CodeLint.Lint.Analysis
import CodeLint.Tree.Node

/-!
Reading parts of a node. A part that is not there stops the check.
-/

namespace CodeLint.Lint

open CodeLint.Tree

def attr (v : Value) (l : Label) : Check Value :=
  match v with
  | .node n =>
    match n.get? l with
    | some x => pure x
    | none => throw (.missingAttribute n.kind.spelling l.spelling)
  | _ => throw (.missingAttribute v.typeName l.spelling)

def lineOf (v : Value) : Check Line :=
  match v with
  | .node n =>
    match n.line? with
    | some i => pure (some i)
    | none => throw (.missingAttribute n.kind.spelling "lineno")
  | _ => throw (.missingAttribute v.typeName "lineno")

def members (v : Value) : Check (List Value) :=
  match v with
  | .list vs => pure vs
  | .atom (.str s) => pure (s.toList.map fun c => .atom (.str c.toString))
  | _ => throw (.notIterable v.typeName)

def sizeOf (v : Value) : Check Nat :=
  match v with
  | .list vs => pure vs.length
  | .atom (.str s) => pure s.length
  | _ => throw (.noLength v.typeName)

def element (v : Value) (i : Nat) : Check Value :=
  match v with
  | .list vs =>
    match vs[i]? with
    | some x => pure x
    | none => throw .indexOutOfRange
  | _ => throw (.notIndexable v.typeName)

def textOf (v : Value) : Check String :=
  match v with
  | .atom (.str s) => pure s
  | _ => throw (.notText v.typeName)

def textAttr (v : Value) (l : Label) : Check String := do textOf (← attr v l)

def membersAttr (v : Value) (l : Label) : Check (List Value) := do members (← attr v l)

def reportIf (found : Bool) (f : Finding) (v : Value) : Check Unit := do
  if found then report f (← lineOf v)

end CodeLint.Lint
