import CodeLint.Source.Fault
import CodeLint.Text.Quoted

/-!
Why an analysis can stop: the source cannot be read, a node lacks something that a check reads, a
list is too short, a value has the wrong type, the functions seen so far do not include the one
asked for, or the tree is nested deeper than calls can be.
-/

namespace CodeLint.Lint

inductive Fault
  | unreadable (f : Source.SyntaxFault)
  | notSource
  | missingAttribute (owner name : String)
  | indexOutOfRange
  | popFromEmpty
  | unknownFunction (name : String)
  | notIterable (type : String)
  | noLength (type : String)
  | notIndexable (type : String)
  | notText (type : String)
  | tooDeep
  deriving DecidableEq

def Fault.message : Fault → String
  | unreadable f => f.cause.message
  | notSource => "compile() arg 1 must be a string, bytes or AST object"
  | missingAttribute owner name => "'" ++ owner ++ "' object has no attribute '" ++ name ++ "'"
  | indexOutOfRange => "list index out of range"
  | popFromEmpty => "pop from empty list"
  | unknownFunction name => Text.quoted name
  | notIterable type => "'" ++ type ++ "' object is not iterable"
  | noLength type => "object of type '" ++ type ++ "' has no len()"
  | notIndexable type => "'" ++ type ++ "' object is not subscriptable"
  | notText type => "expected string or bytes-like object, got '" ++ type ++ "'"
  | tooDeep => "maximum recursion depth exceeded"

end CodeLint.Lint
