import CodeLint.Number.Double

/-!
Values in the JSON format. A number with a point or an exponent is a real, any other is whole.
Members of an object keep their order.
-/

namespace CodeLint

inductive Json
  | null
  | bool (b : Bool)
  | int (i : Int)
  | real (x : Number.Double)
  | text (s : String)
  | list (js : List Json)
  | object (ms : List (String × Json))
  deriving Inhabited

namespace Json

/-- The member of that name; of several the last. -/
def member? (j : Json) (name : String) : Option Json :=
  match j with
  | .object ms => ms.reverse.lookup name
  | _ => none

def elements : Json → List Json
  | .list js => js
  | _ => []

def members : Json → List (String × Json)
  | .object ms => ms
  | _ => []

def text? : Json → Option String
  | .text s => some s
  | _ => none

def int? : Json → Option Int
  | .int i => some i
  | _ => none

def bool? : Json → Option Bool
  | .bool b => some b
  | _ => none

def ofOption (f : α → Json) : Option α → Json
  | some a => f a
  | none => .null

end Json

end CodeLint
