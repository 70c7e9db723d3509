import CodeLint.Source.Grammar.Rule

/-!
Parts shared by expressions, calls and comprehensions: starred and named expressions, lists of
them, and the clauses of comprehensions.
-/

namespace CodeLint.Source.Grammar

open CodeLint.Tree Parse

def starredExpression (rules : Rules) : Parse Node := spanned do
  let _ ← symbol "*"
  return starredOf .load (← rules.one .expression)

def assignmentExpression (rules : Rules) : Parse Node := rule <| spanned do
  let t ← nameToken
  let _ ← symbol ":="
  let e ← commit (rules.one .expression)
  return build .namedExpr [nodeField .target (nameNode .store t), nodeField .value e]

def plainExpression (rules : Rules) : Parse Node := do
  let e ← rules.one .expression
  notAhead (symbol ":=")
  return e

def namedExpression (rules : Rules) : Parse Node :=
  assignmentExpression rules <|> searching (rules.one .invalidNamed) <|> plainExpression rules

def generatorElement (rules : Rules) : Parse Node :=
  assignmentExpression rules <|> plainExpression rules

def starNamedExpression (rules : Rules) : Parse Node :=
  (spanned do
    let _ ← symbol "*"
    return starredOf .load (← rules.one .bitwiseOr)) <|>
  rules.one .namedExpression

def starNamedExpressions (rules : Rules) : Parse (List Node) := do
  let ns ← sepBy1 (starNamedExpression rules) (symbol ",")
  let _ ← optional (symbol ",")
  return ns

def yieldExpression (rules : Rules) : Parse Node :=
  (spanned do
    let _ ← symbol "yield"
    let _ ← symbol "from"
    return build .yieldFrom [nodeField .value (← rules.one .expression)]) <|>
  (spanned do
    let _ ← symbol "yield"
    return build .yield (optionalField .value (← optional (rules.one .starExpressions))))

def starTargets (rules : Rules) : Parse Node :=
  (do
    let n ← rules.one .starTarget
    notAhead (symbol ",")
    return n) <|>
  (spanned do
    let n ← rules.one .starTarget
    let ns ← many (do let _ ← symbol ","; rules.one .starTarget)
    let _ ← optional (symbol ",")
    return tupleOf .store (n :: ns))

def invalidForTarget (rules : Rules) : Parse α := searching <| rule do
  let _ ← optional (symbol "async")
  let _ ← symbol "for"
  faultAtTarget .looped (← rules.one .starExpressions)

def forClause (rules : Rules) (isAsync : Bool) : Parse Node := do
  if isAsync then
    let _ ← symbol "async"
  let _ ← symbol "for"
  let target ← starTargets rules
  let _ ← symbol "in"
  commit do
    let source ← rules.one .disjunction
    let conditions ← many (do let _ ← symbol "if"; rules.one .disjunction)
    return .mk .comprehension {}
      [nodeField .target target, nodeField .iterable source, listField .conditions conditions,
        atomField .isAsync (.int (if isAsync then 1 else 0))]

def forClauses (rules : Rules) : Parse (List Node) :=
  many1 (rule (forClause rules true <|> forClause rules false <|> invalidForTarget rules))

def invalidComprehension (rules : Rules) : Parse α := searching <| rule <|
  (do
    let _ ← oneOf ["[", "(", "\x7b"]
    let a ← starredExpression rules
    let _ ← forClauses rules
    faultAtNode a .unpackingInComprehension) <|>
  (do
    let _ ← oneOf ["[", "\x7b"]
    let a ← starNamedExpression rules
    let _ ← symbol ","
    let _ ← starNamedExpressions rules
    let _ ← forClauses rules
    faultAtNode a .comprehensionTarget) <|>
  (do
    let _ ← oneOf ["[", "\x7b"]
    let a ← starNamedExpression rules
    let _ ← symbol ","
    let _ ← forClauses rules
    faultAtNode a .comprehensionTarget)

def generator (rules : Rules) : Parse Node := rule <|
  (spanned do
    let _ ← symbol "("
    let e ← generatorElement rules
    let clauses ← forClauses rules
    let _ ← symbol ")"
    return build .generatorExp [nodeField .element e, listField .generators clauses]) <|>
  invalidComprehension rules

end CodeLint.Source.Grammar
