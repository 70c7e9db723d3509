import CodeLint.Source.Parse
import CodeLint.Text.Normal

/-!
The rules of the grammar that refer to themselves, directly or through others. The grammar is
written with these rules left open: every part of it takes the parser of the rules as an argument,
and the knot is tied at the end.

Also here are the ways to build nodes, and the wording for kinds of expressions in faults.
-/

namespace CodeLint.Source.Grammar

open CodeLint.Tree CodeLint.Text Parse

inductive Rule
  | simpleStatement
  | block
  | expression
  | starExpression
  | disjunction
  | conjunction
  | inversion
  | bitwiseOr
  | bitwiseXor
  | bitwiseAnd
  | shift
  | sum
  | term
  | factor
  | awaitPrimary
  | primary
  | strings
  | arguments
  | starTarget
  | targetWithStarAtom
  | targetPrimary
  | delTarget
  | closedPattern
  | starPattern
  | invalidNamed
  -- outcomes of the rules from here on are not kept
  | statements
  | elifPart
  | singleTarget
  | namedExpression
  | starExpressions
  | pattern
  | bracketedTarget
  deriving DecidableEq

/-- The number under which outcomes are kept, if they are. -/
def Rule.key? : Rule → Option Nat
  | .simpleStatement => some 0
  | .block => some 1
  | .expression => some 2
  | .starExpression => some 3
  | .disjunction => some 4
  | .conjunction => some 5
  | .inversion => some 6
  | .bitwiseOr => some 7
  | .bitwiseXor => some 8
  | .bitwiseAnd => some 9
  | .shift => some 10
  | .sum => some 11
  | .term => some 12
  | .factor => some 13
  | .awaitPrimary => some 14
  | .primary => some 15
  | .strings => some 16
  | .arguments => some 17
  | .starTarget => some 18
  | .targetWithStarAtom => some 19
  | .targetPrimary => some 20
  | .delTarget => some 21
  | .closedPattern => some 22
  | .starPattern => some 23
  | .invalidNamed => some 24
  | _ => none

abbrev Rules := Rule → Parse (List Node)

def Rules.one (rules : Rules) (r : Rule) : Parse Node := do
  match ← rules r with
  | [n] => return n
  | _ => miss

def single (p : Parse Node) : Parse (List Node) := do return [← p]

def atomField (l : Label) (a : Atom) : Field := .mk l (.atom a)
def textField (l : Label) (s : String) : Field := .mk l (.atom (.str s))
def nodeField (l : Label) (n : Node) : Field := .mk l (.node n)
def listField (l : Label) (ns : List Node) : Field := .mk l (.list (ns.map .node))

def optionalField (l : Label) : Option Node → List Field
  | some n => [nodeField l n]
  | none => []

def optionalText (l : Label) : Option String → List Field
  | some s => [textField l s]
  | none => []

def bare (k : Kind) : Node := .mk k {} []

def build (k : Kind) (fs : List Field) (p : Place) : Node := .mk k p fs

def placeOf (t : Token) : Place := ⟨some t.line, t.column.getD 0, t.stop⟩

def nameText (t : Token) : String := normalName t.text

def nameNode (context : Kind) (t : Token) : Node :=
  build .name [textField .ident (nameText t), nodeField .context (bare context)] (placeOf t)

def constantNode (a : Atom) (p : Place) : Node := build .constant [atomField .value a] p

def nameToken : Parse Token := ofKind .name

def name : Parse Node := do return nameNode .load (← nameToken)

def tupleOf (context : Kind) (ns : List Node) : Place → Node :=
  build .tupleLit [listField .elements ns, nodeField .context (bare context)]

def listOf (context : Kind) (ns : List Node) : Place → Node :=
  build .listLit [listField .elements ns, nodeField .context (bare context)]

def starredOf (context : Kind) (n : Node) : Place → Node :=
  build .starred [nodeField .value n, nodeField .context (bare context)]

def attributeNode (context : Kind) (n : Node) (t : Token) : Place → Node :=
  build .attributeOf
    [nodeField .value n, textField .attrName (nameText t), nodeField .context (bare context)]

def subscriptNode (context : Kind) (n slice : Node) : Place → Node :=
  build .subscript
    [nodeField .value n, nodeField .slice slice, nodeField .context (bare context)]

def callNode (callee : Node) (args keywords : List Node) : Place → Node :=
  build .call [nodeField .callee callee, listField .positional args, listField .keywords keywords]

def nodesAt (n : Node) (l : Label) : List Node :=
  match n.get? l with
  | some v => v.nodes
  | none => []

def nodeAt? (n : Node) (l : Label) : Option Node :=
  match n.get? l with
  | some v => v.node?
  | none => none

mutual
/-- The expression read as a target: its context and those of its parts are changed. -/
def withContext (context : Kind) : Node → Node
  | .mk k p fs =>
    if k = .name ∨ k = .tupleLit ∨ k = .listLit ∨ k = .starred ∨ k = .attributeOf ∨ k = .subscript
    then .mk k p (fieldsWithContext context k fs)
    else .mk k p fs
def fieldsWithContext (context : Kind) (k : Kind) : List Field → List Field
  | [] => []
  | .mk l v :: fs =>
    if l = .context then .mk l (.node (bare context)) :: fieldsWithContext context k fs
    else if l = .elements ∨ (l = .value ∧ k = .starred) then
      .mk l (valueWithContext context v) :: fieldsWithContext context k fs
    else .mk l v :: fieldsWithContext context k fs
def valueWithContext (context : Kind) : Value → Value
  | .atom a => .atom a
  | .node n => .node (withContext context n)
  | .list vs => .list (valuesWithContext context vs)
def valuesWithContext (context : Kind) : List Value → List Value
  | [] => []
  | .node n :: vs => .node (withContext context n) :: valuesWithContext context vs
  | v :: vs => v :: valuesWithContext context vs
end

def describe (n : Node) : String :=
  match n.kind with
  | .attributeOf => "attribute"
  | .subscript => "subscript"
  | .starred => "starred"
  | .name => "name"
  | .listLit => "list"
  | .tupleLit => "tuple"
  | .lambda => "lambda"
  | .call => "function call"
  | .boolOp => "expression"
  | .binOp => "expression"
  | .unaryOp => "expression"
  | .generatorExp => "generator expression"
  | .yield => "yield expression"
  | .yieldFrom => "yield expression"
  | .await => "await expression"
  | .listComp => "list comprehension"
  | .setComp => "set comprehension"
  | .dictComp => "dict comprehension"
  | .dictLit => "dict literal"
  | .setLit => "set display"
  | .joinedStr => "f-string expression"
  | .formattedValue => "f-string expression"
  | .compare => "comparison"
  | .ifExp => "conditional expression"
  | .namedExpr => "named expression"
  | .constant =>
    match n.get? .value with
    | some (.atom .none) => "None"
    | some (.atom (.bool true)) => "True"
    | some (.atom (.bool false)) => "False"
    | some (.atom .ellipsis) => "ellipsis"
    | _ => "literal"
  | _ => "expression"

inductive TargetUse
  | assigned
  | deleted
  | looped
  deriving DecidableEq

mutual
/-- The first part of an expression that cannot be a target. The `in` of a loop is read as part of
a comparison, whose left side then is the target. -/
def badTarget? (use : TargetUse) : Node → Option Node
  | .mk k p fs =>
    if k = .listLit ∨ k = .tupleLit then badTargetIn? use .elements fs
    else if k = .starred then
      if use = .deleted then some (.mk k p fs) else badTargetIn? use .value fs
    else if k = .compare then
      if use = .looped then
        if (nodesAt (.mk k p fs) .operators).head?.map (·.kind) = some .isIn then
          badTargetIn? use .left fs
        else none
      else some (.mk k p fs)
    else if k = .name ∨ k = .subscript ∨ k = .attributeOf then none
    else some (.mk k p fs)
def badTargetIn? (use : TargetUse) (l : Label) : List Field → Option Node
  | [] => none
  | .mk l' v :: fs => if l = l' then badTargetOf? use v else badTargetIn? use l fs
def badTargetOf? (use : TargetUse) : Value → Option Node
  | .atom _ => none
  | .node n => badTarget? use n
  | .list vs => badTargetAmong? use vs
def badTargetAmong? (use : TargetUse) : List Value → Option Node
  | [] => none
  | .node n :: vs =>
    match badTarget? use n with
    | some b => some b
    | none => badTargetAmong? use vs
  | _ :: vs => badTargetAmong? use vs
end

def faultAtTarget (use : TargetUse) (n : Node) : Parse α :=
  match badTarget? use n with
  | some b => faultAtNode b
      (if use = .deleted then .cannotDelete (describe b) else .cannotAssign (describe b))
  | none => refuse

end CodeLint.Source.Grammar
