import CodeLint.Measure.Stamp
import CodeLint.Number.Nearest
import CodeLint.Number.Shortest
import CodeLint.Text.Quoted

/-!
Values that a bench returns or takes as a parameter.
-/

namespace CodeLint.Measure

open CodeLint.Number

inductive ByteForm
  | fixed
  | growing
  | view
  deriving DecidableEq

/-- The numbers of an array, row by row, with its shape and the name of its element type. -/
structure NumberArray where
  type : String
  shape : List Nat
  whole : List Int
  reals : List Double
  deriving DecidableEq

inductive Value
  | none
  | bool (b : Bool)
  | int (i : Int)
  | real (x : Double)
  | complex (re im : Double)
  | text (s : String)
  | bytes (form : ByteForm) (bs : List UInt8)
  | list (vs : List Value)
  | tuple (vs : List Value)
  | dict (items : List (Value × Value))
  | set (frozen : Bool) (vs : List Value)
  | stamp (s : Stamp)
  | fields (fs : List (String × Value))
  | object (module name : String)
  | array (a : NumberArray)
  /-- The parameter of that name, or a value to stand for it. -/
  | parameter (name : String) (otherwise : Value)

instance : Inhabited Value := ⟨.none⟩

def Value.typeName : Value → String
  | .none => "NoneType"
  | .bool _ => "bool"
  | .int _ => "int"
  | .real _ => "float"
  | .complex _ _ => "complex"
  | .text _ => "str"
  | .bytes .fixed _ => "bytes"
  | .bytes .growing _ => "bytearray"
  | .bytes .view _ => "memoryview"
  | .list _ => "list"
  | .tuple _ => "tuple"
  | .dict _ => "dict"
  | .set false _ => "set"
  | .set true _ => "frozenset"
  | .stamp s => s.typeName
  | .fields _ => "Record"
  | .object _ name => name
  | .array _ => "ndarray"
  | .parameter _ v => v.typeName

def Value.range (n : Nat) : Value := .list ((List.range n).map fun (i : Nat) => .int i)

def Value.nest : Nat → Value
  | 0 => .list []
  | n + 1 => .list [Value.nest n]

/-! ### Equality -/

def Value.whole? : Value → Option Int
  | .bool b => some (if b then 1 else 0)
  | .int i => some i
  | .real (.finite s b) =>
    if b.floor * b.ratio.den = b.ratio.num then some (if s then -(b.floor : Int) else b.floor)
    else Option.none
  | _ => Option.none

mutual
/-- Whether two values count as one in a dictionary or a set. -/
def Value.same (v w : Value) : Bool :=
  match v, w with
  | .none, .none => true
  | .text s, .text t => s == t
  | .bytes _ s, .bytes _ t => s == t
  | .stamp s, .stamp t => s.shown == t.shown
  | .tuple vs, .tuple ws => sameAll vs ws
  | .complex a b, .complex c d => a.same c && b.same d
  | v, w =>
    match v.whole?, w.whole? with
    | some i, some j => i == j
    | Option.none, Option.none =>
      match v, w with
      | .real x, .real y => x.same y
      | _, _ => false
    | _, _ => false
def sameAll (vs ws : List Value) : Bool :=
  match vs, ws with
  | [], [] => true
  | v :: vs, w :: ws => Value.same v w && sameAll vs ws
  | _, _ => false
end

/-- Adds an item to a dictionary; a key that is there keeps its place. -/
def putItem (items : List (Value × Value)) (item : Value × Value) : List (Value × Value) :=
  if items.any (·.1.same item.1) then
    items.map fun (k, v) => if k.same item.1 then (k, item.2) else (k, v)
  else items ++ [item]

def Value.dictOf (items : List (Value × Value)) : Value := .dict (items.foldl putItem [])

def Value.setOf (frozen : Bool) (vs : List Value) : Value :=
  .set frozen (vs.foldl (fun ws v => if ws.any (·.same v) then ws else ws ++ [v]) [])

/-! ### Parameters -/

mutual
def Value.apply (arguments : List (String × Value)) : Value → Value
  | .parameter name v =>
    match arguments.lookup name with
    | some a => a
    | none => Value.apply arguments v
  | .list vs => .list (applyAll arguments vs)
  | .tuple vs => .tuple (applyAll arguments vs)
  | .dict items => .dict (applyItems arguments items)
  | .set f vs => .set f (applyAll arguments vs)
  | .fields fs => .fields (applyFields arguments fs)
  | v => v
def applyAll (arguments : List (String × Value)) : List Value → List Value
  | [] => []
  | v :: vs => Value.apply arguments v :: applyAll arguments vs
def applyItems (arguments : List (String × Value)) : List (Value × Value) → List (Value × Value)
  | [] => []
  | (k, v) :: items =>
    (Value.apply arguments k, Value.apply arguments v) :: applyItems arguments items
def applyFields (arguments : List (String × Value)) :
    List (String × Value) → List (String × Value)
  | [] => []
  | (k, v) :: fs => (k, Value.apply arguments v) :: applyFields arguments fs
end

/-! ### Written form -/

def partText (x : Double) : String :=
  let t := x.text
  if t.endsWith ".0" then (t.dropEnd 2).toString else t

def complexText (re im : Double) : String :=
  let i := partText im ++ "j"
  if partText re == "0" then i
  else "(" ++ partText re ++ (if i.startsWith "-" then i else "+" ++ i) ++ ")"

def bytesText (bs : List UInt8) : String :=
  let cs := bs.map fun b => Char.ofNat b.toNat
  let mark := Text.quoteMark cs
  let shown := cs.flatMap fun c =>
    if c.toNat < 0x7f then Text.quotedChar mark c else '\\' :: 'x' :: Text.hexDigits 2 c.toNat
  String.ofList ('b' :: mark :: shown ++ [mark])

def ByteForm.text (form : ByteForm) (bs : List UInt8) : String :=
  match form with
  | .fixed => bytesText bs
  | .growing => "bytearray(" ++ bytesText bs ++ ")"
  | .view => "<memory>"

def setText (frozen : Bool) (members : List String) : String :=
  let braces := "\x7b" ++ ", ".intercalate members ++ "\x7d"
  match frozen, members with
  | false, [] => "set()"
  | false, _ => braces
  | true, [] => "frozenset()"
  | true, _ => "frozenset(" ++ braces ++ ")"

mutual
def Value.shown : Value → String
  | .none => "None"
  | .bool b => if b then "True" else "False"
  | .int i => toString i
  | .real x => x.text
  | .text s => Text.quoted s
  | .list vs => "[" ++ ", ".intercalate (shownAll vs) ++ "]"
  | .tuple [v] => "(" ++ Value.shown v ++ ",)"
  | .tuple vs => "(" ++ ", ".intercalate (shownAll vs) ++ ")"
  | .dict items => "\x7b" ++ ", ".intercalate (shownItems items) ++ "\x7d"
  | .stamp s => s.shown
  | .parameter _ v => Value.shown v
  | .complex re im => complexText re im
  | .bytes form bs => form.text bs
  | .set frozen vs => setText frozen (shownAll vs)
  | .fields fs => "Record(" ++ ", ".intercalate (shownFields fs) ++ ")"
  | .object _ name => "<" ++ name ++ ">"
  | .array _ => "array"
def shownAll : List Value → List String
  | [] => []
  | v :: vs => Value.shown v :: shownAll vs
def shownItems : List (Value × Value) → List String
  | [] => []
  | (k, v) :: items => (Value.shown k ++ ": " ++ Value.shown v) :: shownItems items
def shownFields : List (String × Value) → List String
  | [] => []
  | (k, v) :: fs => (k ++ "=" ++ Value.shown v) :: shownFields fs
end

def Value.plain : Value → String
  | .text s => s
  | v => v.shown

end CodeLint.Measure
