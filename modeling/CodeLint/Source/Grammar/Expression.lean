import CodeLint.Source.Grammar.Argument
import CodeLint.Source.Grammar.Display
import CodeLint.Source.Grammar.Parameter

/-!
Expressions, from conditional ones down to primaries, and their particular faults.
-/

namespace CodeLint.Source.Grammar

open CodeLint.Tree Parse

/-- Extends an expression to the right as long as a step succeeds. The node spans from the first
token on. Fuel bounds the number of extensions. -/
def extended (step : Node → Parse (Place → Node)) (first : Token) : Nat → Node → Parse Node
  | 0, n => pure n
  | k + 1, n => do
    let next ← optional (do
      let f ← step n
      let last ← passed
      return f ⟨some first.line, first.column.getD 0, last.stop⟩)
    match next with
    | some n => extended step first k n
    | none => return n

def leftward (operand : Parse Node) (step : Node → Parse (Place → Node)) : Parse Node := do
  let first ← peek
  let n ← operand
  let x ← context
  extended step first x.tokens.tokens.size n

def binary (operators : List (String × Kind)) (operand : Parse Node) : Parse Node :=
  leftward operand fun left => do
    let t ← oneOf (operators.map (·.1))
    let k := (operators.lookup t.text).getD .add
    let right ← operand
    return build .binOp
      [nodeField .left left, nodeField .operator (bare k), nodeField .right right]

def slicePart (rules : Rules) : Parse Node :=
  (spanned do
    let lower ← optional (rules.one .expression)
    let _ ← symbol ":"
    let upper ← optional (rules.one .expression)
    let step ← optional (do let _ ← symbol ":"; optional (rules.one .expression))
    return build .slice (optionalField .lower lower ++ optionalField .upper upper ++
      optionalField .step (step.getD none))) <|>
  rules.one .namedExpression

def slices (rules : Rules) : Parse Node :=
  (do
    let n ← slicePart rules
    notAhead (symbol ",")
    return n) <|>
  (spanned do
    let ns ← sepBy1 (slicePart rules <|> starredExpression rules) (symbol ",")
    let _ ← optional (symbol ",")
    return tupleOf .load ns)

def callArguments (rules : Rules) (callee : Node) : Parse (Place → Node) := do
  let _ ← symbol "("
  let args ← optional (rules.one .arguments)
  let _ ← symbol ")"
  return match args with
    | some a => callNode callee (nodesAt a .positional) (nodesAt a .keywords)
    | none => callNode callee [] []

def generatorCall (rules : Rules) (callee : Node) : Parse (Place → Node) := do
  return callNode callee [← generator rules] []

def attributeStep (context : Kind) (n : Node) : Parse (Place → Node) := do
  let _ ← symbol "."
  return attributeNode context n (← nameToken)

def subscriptStep (rules : Rules) (context : Kind) (n : Node) : Parse (Place → Node) := do
  let _ ← symbol "["
  let s ← slices rules
  let _ ← symbol "]"
  return subscriptNode context n s

def primary (rules : Rules) : Parse Node :=
  leftward (atom rules) fun n =>
    attributeStep .load n <|> generatorCall rules n <|> callArguments rules n <|>
      subscriptStep rules .load n

def awaitPrimary (rules : Rules) : Parse Node :=
  (spanned do
    let _ ← symbol "await"
    return build .await [nodeField .value (← rules.one .primary)]) <|>
  rules.one .primary

def power (rules : Rules) : Parse Node := do
  let first ← peek
  let a ← rules.one .awaitPrimary
  let b ← optional (do let _ ← symbol "**"; rules.one .factor)
  match b with
  | some b =>
    let last ← passed
    return build .binOp [nodeField .left a, nodeField .operator (bare .pow), nodeField .right b]
      ⟨some first.line, first.column.getD 0, last.stop⟩
  | none => return a

def unary (s : String) (k : Kind) (operand : Parse Node) : Parse Node := spanned do
  let _ ← symbol s
  return build .unaryOp [nodeField .operator (bare k), nodeField .operand (← operand)]

def factor (rules : Rules) : Parse Node :=
  unary "+" .uAdd (rules.one .factor) <|> unary "-" .uSub (rules.one .factor) <|>
    unary "~" .invert (rules.one .factor) <|> power rules

def comparisonOperator : Parse Kind :=
  (do let _ ← symbol "=="; return .eq) <|>
  (do let _ ← symbol "!="; return .notEq) <|>
  (do let _ ← symbol "<="; return .ltE) <|>
  (do let _ ← symbol "<"; return .lt) <|>
  (do let _ ← symbol ">="; return .gtE) <|>
  (do let _ ← symbol ">"; return .gt) <|>
  (do let _ ← symbol "not"; let _ ← symbol "in"; return .notIn) <|>
  (do let _ ← symbol "in"; return .isIn) <|>
  (do let _ ← symbol "is"; let _ ← symbol "not"; return .isNotSame) <|>
  (do let _ ← symbol "is"; return .isSame)

/-- One operator with its right operand. Where `is not` has no operand, `is` may have one. -/
def comparisonPair (rules : Rules) : Parse (Kind × Node) :=
  (do
    let k ← comparisonOperator
    return (k, ← rules.one .bitwiseOr)) <|>
  (do
    let _ ← symbol "is"
    return (.isSame, ← rules.one .bitwiseOr))

def comparison (rules : Rules) : Parse Node := do
  let first ← peek
  let a ← rules.one .bitwiseOr
  let pairs ← many (comparisonPair rules)
  if pairs.isEmpty then return a
  let last ← passed
  return build .compare
    [nodeField .left a, listField .operators (pairs.map fun p => bare p.1),
      listField .comparators (pairs.map (·.2))]
    ⟨some first.line, first.column.getD 0, last.stop⟩

def inversion (rules : Rules) : Parse Node :=
  unary "not" .notOp (rules.one .inversion) <|> comparison rules

def joined (word : String) (k : Kind) (operand : Parse Node) : Parse Node := do
  let first ← peek
  let a ← operand
  let rest ← many (do let _ ← symbol word; operand)
  if rest.isEmpty then return a
  let last ← passed
  return build .boolOp [nodeField .operator (bare k), listField .values (a :: rest)]
    ⟨some first.line, first.column.getD 0, last.stop⟩

def lambdaExpression (rules : Rules) : Parse Node := spanned do
  let _ ← symbol "lambda"
  let ps ← optional (parameters rules .lambda)
  let _ ← symbol ":"
  let e ← rules.one .expression
  return build .lambda
    [nodeField .positional (ps.getD {}).node, nodeField .body e]

def conditional (rules : Rules) : Parse Node := spanned do
  let a ← rules.one .disjunction
  let _ ← symbol "if"
  let b ← rules.one .disjunction
  let _ ← symbol "else"
  let c ← rules.one .expression
  return build .ifExp [nodeField .test b, nodeField .body a, nodeField .otherwise c]

def expressionUnsearched (rules : Rules) : Parse Node := unsearching <| rule <|
  conditional rules <|> rules.one .disjunction <|> lambdaExpression rules

def isLegacyStatement (n : Node) : Bool :=
  n.kind == .name &&
    match n.get? .ident with
    | some (.atom (.str s)) => s == "print" || s == "exec"
    | _ => false

def softKeywords : List String := ["_", "case", "match"]

def invalidExpression (rules : Rules) : Parse α := searching <| rule <|
  (do
    notAhead ((do let _ ← nameToken; ofKind .string) <|>
      satisfy fun t => t.kind == .name && softKeywords.contains t.text)
    let a ← rules.one .disjunction
    let _ ← expressionUnsearched rules
    let last ← passed
    if isLegacyStatement a || last.depth == 0 then refuse
    else faultAtNode a .missingComma) <|>
  (do
    let a ← rules.one .disjunction
    let _ ← symbol "if"
    let _ ← rules.one .disjunction
    notAhead (oneOf ["else", ":"])
    faultAtNode a .missingElse)

def invalidLegacy (rules : Rules) : Parse α := searching <| rule do
  let t ← nameToken
  notAhead (symbol "(")
  let _ ← rules.one .starExpressions
  let n := nameNode .load t
  if isLegacyStatement n then faultAt t (.missingCallBrackets (nameText t)) else refuse

def expression (rules : Rules) : Parse Node :=
  invalidExpression rules <|> invalidLegacy rules <|> conditional rules <|>
    rules.one .disjunction <|> lambdaExpression rules

def starExpression (rules : Rules) : Parse Node :=
  (spanned do
    let _ ← symbol "*"
    return starredOf .load (← rules.one .bitwiseOr)) <|>
  rules.one .expression

def tupleOrOne (element : Parse Node) : Parse Node := do
  let first ← peek
  let a ← element
  let rest ← many (do let _ ← symbol ","; element)
  let comma ← optional (symbol ",")
  if rest.isEmpty && comma.isNone then return a
  let last ← passed
  return tupleOf .load (a :: rest) ⟨some first.line, first.column.getD 0, last.stop⟩

def starExpressions (rules : Rules) : Parse Node := tupleOrOne (rules.one .starExpression)

def expressions (rules : Rules) : Parse Node := tupleOrOne (rules.one .expression)

def invalidNamed (rules : Rules) : Parse (List Node) :=
  (do
    let a ← rules.one .expression
    let _ ← symbol ":="
    let _ ← rules.one .expression
    faultAtNode a (.cannotName (describe a))) <|>
  (do
    let t ← nameToken
    let _ ← symbol "="
    let _ ← rules.one .bitwiseOr
    notAhead (oneOf ["=", ":="])
    faultAt t .assignmentInCondition) <|>
  (do
    notAhead (rule (listDisplay rules) <|> rule (tupleDisplay rules) <|> generator rules <|>
      (do let t ← oneOf ["True", "None", "False"]; return nameNode .load t))
    let a ← rules.one .bitwiseOr
    let _ ← symbol "="
    let _ ← rules.one .bitwiseOr
    notAhead (oneOf ["=", ":="])
    faultAtNode a (.cannotAssignHere (describe a)))

end CodeLint.Source.Grammar
