/-!
Maps from names to values that remember the order in which the names arrived. Putting a value
under a name that is already there keeps the place of the name.
-/

namespace CodeLint

abbrev Ordered (α : Type) := List (String × α)

namespace Ordered

variable {α : Type}

def put (name : String) (value : α) : Ordered α → Ordered α
  | [] => [(name, value)]
  | (k, v) :: rest => if k = name then (k, value) :: rest else (k, v) :: put name value rest

def get? (name : String) (m : Ordered α) : Option α := List.lookup name m

def has (name : String) (m : Ordered α) : Bool := m.any (·.1 == name)

def keys (m : Ordered α) : List String := m.map (·.1)

end Ordered

def insertNew {α : Type} [BEq α] (a : α) (as : List α) : List α :=
  if as.contains a then as else as ++ [a]

end CodeLint
