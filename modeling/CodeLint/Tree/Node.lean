import CodeLint.Number.Double
import CodeLint.Tree.Kind

/-!
Syntax trees. A node has a kind, a place in the source and labelled fields. A field holds a plain
value, another node, or a list. A node may lack a field that its kind requires, so reading a field
can fail; an optional field that is left out reads as the empty value.

`Node.children` are the nodes that stand directly in the fields, in order, and `Node.preorder`
lists a node and everything below it, parents before their children.
-/

namespace CodeLint.Tree

/-- Where a node stands: its line if known, the column of its first byte on that line, and the
column just behind its last byte. -/
structure Place where
  line : Option Int := none
  column : Nat := 0
  stop : Nat := 0
  deriving Inhabited

inductive Atom
  | none
  | bool (b : Bool)
  | int (i : Int)
  | float (x : Number.Double)
  | str (s : String)
  | bytes (bs : List UInt8)
  | complex (re im : Number.Double)
  | ellipsis
  deriving Inhabited

mutual
inductive Node
  | mk (kind : Kind) (place : Place) (fields : List Field)
inductive Field
  | mk (label : Label) (value : Value)
inductive Value
  | atom (a : Atom)
  | node (n : Node)
  | list (vs : List Value)
end

instance : Inhabited Node := ⟨.mk default default []⟩
instance : Inhabited Value := ⟨.atom .none⟩

def Field.label : Field → Label
  | .mk l _ => l

def Field.value : Field → Value
  | .mk _ v => v

namespace Atom

def typeName : Atom → String
  | .none => "NoneType"
  | .bool _ => "bool"
  | .int _ => "int"
  | .float _ => "float"
  | .str _ => "str"
  | .bytes _ => "bytes"
  | .complex _ _ => "complex"
  | .ellipsis => "ellipsis"

def isZero : Atom → Bool
  | .bool b => !b
  | .int i => i == 0
  | .float x => x.isZero
  | .complex re im => re.isZero && im.isZero
  | _ => false

def isNone : Atom → Bool
  | .none => true
  | _ => false

def isBool : Atom → Bool
  | .bool _ => true
  | _ => false

end Atom

namespace Node

def kind : Node → Kind
  | .mk k _ _ => k

def place : Node → Place
  | .mk _ p _ => p

def fields : Node → List Field
  | .mk _ _ fs => fs

def line? (n : Node) : Option Int := n.place.line

/-- The value of a field, with the empty value for an optional field that is left out. -/
def get? (n : Node) (l : Label) : Option Value :=
  match n.fields.find? (·.label == l) with
  | some f => some f.value
  | none => if n.kind.isOptional l then some (.atom .none) else none

end Node

namespace Value

def typeName : Value → String
  | .atom a => a.typeName
  | .node n => n.kind.spelling
  | .list _ => "list"

def node? : Value → Option Node
  | .node n => some n
  | _ => none

def isKind (k : Kind) : Value → Bool
  | .node n => n.kind == k
  | _ => false

def isKindIn (ks : List Kind) : Value → Bool
  | .node n => ks.contains n.kind
  | _ => false

def isNone : Value → Bool
  | .atom a => a.isNone
  | _ => false

/-- An empty list, an empty text, zero and the empty value count as false. -/
def isFalsy : Value → Bool
  | .atom .none => true
  | .atom (.str s) => s.isEmpty
  | .atom (.bytes bs) => bs.isEmpty
  | .atom a => a.isZero
  | .list vs => vs.isEmpty
  | .node _ => false

def nodes : Value → List Node
  | .atom _ => []
  | .node n => [n]
  | .list vs => vs.filterMap node?

end Value

def Node.children (n : Node) : List Node := n.fields.flatMap (·.value.nodes)

mutual
def Node.preorder : Node → List Node
  | .mk k p fs => .mk k p fs :: Field.preorder fs
def Field.preorder : List Field → List Node
  | [] => []
  | .mk _ v :: fs => v.preorder ++ Field.preorder fs
def Value.preorder : Value → List Node
  | .atom _ => []
  | .node n => n.preorder
  | .list vs => Value.elements vs
def Value.elements : List Value → List Node
  | [] => []
  | .node n :: vs => n.preorder ++ Value.elements vs
  | _ :: vs => Value.elements vs
end

def Node.contains (n : Node) (k : Kind) : Bool := n.preorder.any (·.kind == k)

end CodeLint.Tree
