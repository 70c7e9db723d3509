import CodeLint.Source.Grammar.Pattern
import CodeLint.Source.Grammar.Simple

/-!
Statements with blocks.
-/

namespace CodeLint.Source.Grammar

open CodeLint.Tree Parse

def noBlock : Parse Unit := do
  let _ ← ofKind .newline
  notAhead (ofKind .indent)

def faultNoBlock (what : String) (t : Token) : Parse α := do
  noBlock
  faultHere (.expectedBlockAfter what t.line)

def faultNoColon : Parse α := do
  let _ ← ofKind .newline
  faultHere (.expected ":")

def block (rules : Rules) : Parse (List Node) :=
  (do
    let _ ← ofKind .newline
    let _ ← ofKind .indent
    let ns ← rules .statements
    let _ ← ofKind .dedent
    return ns) <|>
  simpleStatements rules <|>
  (searching <| rule do
    noBlock
    faultHere .expectedBlock)

def decorators (rules : Rules) : Parse (List Node) :=
  many1 (do
    let _ ← symbol "@"
    let n ← rules.one .namedExpression
    let _ ← ofKind .newline
    return n)

def classArguments (rules : Rules) : Parse (Option Node) := do
  let a ← optional (do
    let _ ← symbol "("
    let a ← optional (rules.one .arguments)
    let _ ← symbol ")"
    return a)
  return a.getD none

def invalidClass (rules : Rules) : Parse α := searching <| rule <|
  (do
    let _ ← symbol "class"
    let _ ← nameToken
    let _ ← classArguments rules
    faultNoColon) <|>
  (do
    let t ← symbol "class"
    let _ ← nameToken
    let _ ← classArguments rules
    let _ ← symbol ":"
    faultNoBlock "class definition" t)

def classDefinition (rules : Rules) (ds : List Node) : Parse Node :=
  invalidClass rules <|>
  (spanned do
    let _ ← symbol "class"
    let t ← nameToken
    let a ← classArguments rules
    let _ ← symbol ":"
    let b ← rules .block
    let part (l : Label) := match a with
      | some a => nodesAt a l
      | none => []
    return build .classDef
      [textField .name (nameText t), listField .bases (part .positional),
        listField .keywords (part .keywords), listField .body b, listField .decoratorList ds])

def returnHint (rules : Rules) : Parse (Option Node) :=
  optional (do let _ ← symbol "->"; rules.one .expression)

def invalidFunction (rules : Rules) : Parse α := searching <| rule do
  let _ ← optional (symbol "async")
  let t ← symbol "def"
  let _ ← nameToken
  let _ ← symbol "("
  let _ ← optional (parameters rules .function)
  let _ ← symbol ")"
  let _ ← returnHint rules
  let _ ← symbol ":"
  faultNoBlock "function definition" t

def functionOf (rules : Rules) (k : Kind) (ds : List Node) : Parse (Place → Node) := do
  let _ ← symbol "def"
  let t ← nameToken
  let _ ← forced "("
  let ps ← optional (parameters rules .function)
  let _ ← symbol ")"
  let r ← returnHint rules
  let _ ← forced ":"
  let b ← rules .block
  return build k
    ([textField .name (nameText t), nodeField .positional (ps.getD {}).node, listField .body b,
      listField .decoratorList ds] ++ optionalField .returns r)

def functionDefinition (rules : Rules) (ds : List Node) : Parse Node :=
  invalidFunction rules <|>
  spanned (functionOf rules .functionDef ds) <|>
  spanned (do
    let _ ← symbol "async"
    functionOf rules .asyncFunctionDef ds)

def decorated (rules : Rules) (definition : List Node → Parse Node) : Parse Node :=
  (do
    let ds ← decorators rules
    definition ds) <|>
  definition []

def invalidElse : Parse α := searching <| rule do
  let t ← symbol "else"
  let _ ← symbol ":"
  faultNoBlock "'else' statement" t

def elsePart (rules : Rules) : Parse (List Node) :=
  invalidElse <|>
  (do
    let _ ← symbol "else"
    let _ ← forced ":"
    rules .block)

def invalidCondition (rules : Rules) (word : String) : Parse α := searching <| rule <|
  (do
    let _ ← symbol word
    let _ ← rules.one .namedExpression
    faultNoColon) <|>
  (do
    let t ← symbol word
    let _ ← rules.one .namedExpression
    let _ ← symbol ":"
    faultNoBlock ("'" ++ word ++ "' statement") t)

def branch (rules : Rules) (word : String) : Parse Node :=
  invalidCondition rules word <|>
  (spanned do
    let _ ← symbol word
    let c ← rules.one .namedExpression
    let _ ← symbol ":"
    let b ← rules .block
    let e ← (do return some (← rules .elifPart)) <|> optional (elsePart rules)
    return build .ifStmt
      [nodeField .test c, listField .body b, listField .otherwise (e.getD [])])

def whileStatement (rules : Rules) : Parse Node :=
  invalidCondition rules "while" <|>
  (spanned do
    let _ ← symbol "while"
    let c ← rules.one .namedExpression
    let _ ← symbol ":"
    let b ← rules .block
    let e ← optional (elsePart rules)
    return build .whileLoop
      [nodeField .test c, listField .body b, listField .otherwise (e.getD [])])

def invalidFor (rules : Rules) : Parse α :=
  let head : Parse Token := do
    let _ ← optional (symbol "async")
    let t ← symbol "for"
    let _ ← starTargets rules
    let _ ← symbol "in"
    let _ ← rules.one .starExpressions
    return t
  searching <| rule <|
    (do
      let _ ← head
      faultNoColon) <|>
    (do
      let t ← head
      let _ ← symbol ":"
      faultNoBlock "'for' statement" t)

def forOf (rules : Rules) (k : Kind) : Parse (Place → Node) := do
  let _ ← symbol "for"
  let n ← starTargets rules
  let _ ← symbol "in"
  commit do
    let e ← rules.one .starExpressions
    let _ ← symbol ":"
    let b ← rules .block
    let o ← optional (elsePart rules)
    return build k [nodeField .target n, nodeField .iterable e, listField .body b,
      listField .otherwise (o.getD [])]

def forStatement (rules : Rules) : Parse Node := rule <|
  invalidFor rules <|>
  spanned (forOf rules .forLoop) <|>
  spanned (do
    let _ ← symbol "async"
    forOf rules .asyncFor) <|>
  invalidForTarget rules

def withItemNode (e : Node) (target : Option Node) : Node :=
  .mk .withItem {} (nodeField .contextExpr e :: optionalField .optionalVars target)

def withItem (rules : Rules) : Parse Node :=
  let behind : Parse Unit := ahead (oneOf [",", ")", ":"])
  (do
    let e ← rules.one .expression
    let _ ← symbol "as"
    let n ← rules.one .starTarget
    behind
    return withItemNode e n) <|>
  (searching <| rule do
    let _ ← rules.one .expression
    let _ ← symbol "as"
    let a ← rules.one .expression
    behind
    faultAtTarget .assigned a) <|>
  (do return withItemNode (← rules.one .expression) none)

def looseItems (rules : Rules) (bracketed : Bool) : Parse Token := do
  let item (e : Parse Node) : Parse Unit := do
    let _ ← e
    let _ ← optional (do let _ ← symbol "as"; rules.one .starTarget)
  let _ ← optional (symbol "async")
  let t ← symbol "with"
  if bracketed then
    let _ ← symbol "("
    let _ ← sepBy1 (item (expressions rules)) (symbol ",")
    let _ ← optional (symbol ",")
    let _ ← symbol ")"
  else
    let _ ← sepBy1 (item (rules.one .expression)) (symbol ",")
  return t

def invalidWithBlock (rules : Rules) : Parse α :=
  let missing (bracketed : Bool) : Parse α := do
    let t ← looseItems rules bracketed
    let _ ← symbol ":"
    faultNoBlock "'with' statement" t
  searching <| rule <| missing false <|> missing true

def invalidWith (rules : Rules) : Parse α :=
  let missing (bracketed : Bool) : Parse α := do
    let _ ← looseItems rules bracketed
    faultNoColon
  searching <| rule <| missing false <|> missing true

def withOf (rules : Rules) (k : Kind) (bracketed : Bool) : Parse (Place → Node) := do
  let _ ← symbol "with"
  let items ←
    if bracketed then do
      let _ ← symbol "("
      let items ← sepBy1 (withItem rules) (symbol ",")
      let _ ← optional (symbol ",")
      let _ ← symbol ")"
      pure items
    else sepBy1 (withItem rules) (symbol ",")
  let _ ← symbol ":"
  let b ← rules .block
  return build k [listField .items items, listField .body b]

def withStatement (rules : Rules) : Parse Node :=
  let asynchronous (bracketed : Bool) : Parse Node := spanned do
    let _ ← symbol "async"
    withOf rules .asyncWith bracketed
  invalidWithBlock rules <|>
  spanned (withOf rules .withStmt true) <|>
  spanned (withOf rules .withStmt false) <|>
  asynchronous true <|> asynchronous false <|>
  invalidWith rules

def handlerName : Parse (Option String) :=
  optional (do let _ ← symbol "as"; return nameText (← nameToken))

def handlerNode (type : Option Node) (n : Option String) (b : List Node) : Place → Node :=
  build .exceptHandler
    (optionalField .exceptionType type ++ optionalText .name n ++ [listField .body b])

def invalidHandler (rules : Rules) : Parse α := searching <| rule <|
  (do
    let _ ← symbol "except"
    let _ ← optional (symbol "*")
    let a ← rules.one .expression
    let _ ← symbol ","
    let _ ← expressions rules
    let _ ← handlerName
    let _ ← symbol ":"
    faultAtNode a .bareExceptionList) <|>
  (do
    let _ ← symbol "except"
    let _ ← optional (symbol "*")
    let _ ← rules.one .expression
    let _ ← handlerName
    faultNoColon) <|>
  (do
    let _ ← symbol "except"
    faultNoColon) <|>
  (do
    let _ ← symbol "except"
    let _ ← symbol "*"
    (do let _ ← ofKind .newline) <|> (do let _ ← symbol ":")
    faultHere .expectedExceptionType)

def invalidHandlerBlock (rules : Rules) : Parse α := searching <| rule <|
  (do
    let t ← symbol "except"
    let _ ← rules.one .expression
    let _ ← handlerName
    let _ ← symbol ":"
    faultNoBlock "'except' statement" t) <|>
  (do
    let t ← symbol "except"
    let _ ← symbol ":"
    faultNoBlock "'except' statement" t)

def handler (rules : Rules) : Parse Node :=
  invalidHandlerBlock rules <|>
  (spanned do
    let _ ← symbol "except"
    let e ← rules.one .expression
    let n ← handlerName
    let _ ← symbol ":"
    return handlerNode (some e) n (← rules .block)) <|>
  (spanned do
    let _ ← symbol "except"
    let _ ← symbol ":"
    return handlerNode none none (← rules .block)) <|>
  invalidHandler rules

def starHandler (rules : Rules) : Parse Node :=
  (searching <| rule do
    let t ← symbol "except"
    let _ ← symbol "*"
    let _ ← rules.one .expression
    let _ ← handlerName
    let _ ← symbol ":"
    faultNoBlock "'except*' statement" t) <|>
  (spanned do
    let _ ← symbol "except"
    let _ ← symbol "*"
    let e ← rules.one .expression
    let n ← handlerName
    let _ ← symbol ":"
    return handlerNode (some e) n (← rules .block)) <|>
  invalidHandler rules

def finallyPart (rules : Rules) : Parse (List Node) :=
  (searching <| rule do
    let t ← symbol "finally"
    let _ ← symbol ":"
    faultNoBlock "'finally' statement" t) <|>
  (do
    let _ ← symbol "finally"
    let _ ← forced ":"
    rules .block)

def invalidTry (rules : Rules) : Parse α := searching <| rule <|
  (do
    let t ← symbol "try"
    let _ ← symbol ":"
    faultNoBlock "'try' statement" t) <|>
  (do
    let _ ← symbol "try"
    let _ ← symbol ":"
    let _ ← rules .block
    notAhead (oneOf ["except", "finally"])
    faultHere .expectedHandler) <|>
  (do
    let _ ← symbol "try"
    let _ ← symbol ":"
    let _ ← many (rules .block)
    let _ ← many1 (handler rules)
    let t ← symbol "except"
    let _ ← symbol "*"
    let _ ← rules.one .expression
    let _ ← handlerName
    let _ ← symbol ":"
    faultAt t .mixedHandlers) <|>
  (do
    let _ ← symbol "try"
    let _ ← symbol ":"
    let _ ← many (rules .block)
    let _ ← many1 (starHandler rules)
    let t ← symbol "except"
    let _ ← optional (do
      let _ ← rules.one .expression
      handlerName)
    let _ ← symbol ":"
    faultAt t .mixedHandlers)

def tryNode (k : Kind) (b hs o f : List Node) : Place → Node :=
  build k [listField .body b, listField .handlers hs, listField .otherwise o,
    listField .finalBody f]

def tryStatement (rules : Rules) : Parse Node :=
  invalidTry rules <|>
  (spanned do
    let _ ← symbol "try"
    let _ ← forced ":"
    let b ← rules .block
    let handled (k : Kind) (h : Parse Node) : Parse (Place → Node) := do
      let hs ← many1 h
      let o ← optional (elsePart rules)
      let f ← optional (finallyPart rules)
      return tryNode k b hs (o.getD []) (f.getD [])
    (do return tryNode .tryStmt b [] [] (← finallyPart rules)) <|>
      handled .tryStmt (handler rules) <|> handled .tryStar (starHandler rules))

def subject (rules : Rules) : Parse Node :=
  (spanned do
    let n ← starNamedExpression rules
    let _ ← symbol ","
    let ns ← optional (starNamedExpressions rules)
    return tupleOf .load (n :: ns.getD [])) <|>
  rules.one .namedExpression

def guardPart (rules : Rules) : Parse (Option Node) :=
  optional (do let _ ← symbol "if"; rules.one .namedExpression)

def invalidCase (rules : Rules) : Parse α := searching <| rule <|
  (do
    let _ ← softKeyword "case"
    let _ ← openPattern rules
    let _ ← guardPart rules
    faultNoColon) <|>
  (do
    let t ← softKeyword "case"
    let _ ← openPattern rules
    let _ ← guardPart rules
    let _ ← symbol ":"
    faultNoBlock "'case' statement" t)

def casePart (rules : Rules) : Parse Node :=
  invalidCase rules <|>
  (do
    let _ ← softKeyword "case"
    let p ← openPattern rules
    let g ← guardPart rules
    let _ ← symbol ":"
    let b ← rules .block
    return .mk .matchCase {}
      ([nodeField .pattern p] ++ optionalField .guard g ++ [listField .body b]))

def matchStatement (rules : Rules) : Parse Node :=
  (spanned do
    let _ ← softKeyword "match"
    let s ← subject rules
    let _ ← symbol ":"
    let _ ← ofKind .newline
    let _ ← ofKind .indent
    let cs ← many1 (casePart rules)
    let _ ← ofKind .dedent
    return build .matchStmt [nodeField .subject s, listField .cases cs]) <|>
  (searching <| rule <|
    (do
      let _ ← softKeyword "match"
      let _ ← subject rules
      faultNoColon) <|>
    (do
      let t ← softKeyword "match"
      let _ ← subject rules
      let _ ← symbol ":"
      faultNoBlock "'match' statement" t))

/-- A statement with blocks. The first word decides which, but behind decorators and `async` there
are several. -/
def compoundStatement (rules : Rules) : Parse Node := do
  let t ← peek
  let starts (ws : List String) : Bool :=
    (t.kind == .keyword || t.kind == .operator) && ws.contains t.text
  let only (ws : List String) (p : Parse Node) : Parse Node := if starts ws then p else miss
  only ["def", "@", "async"] (decorated rules (functionDefinition rules)) <|>
    only ["if"] (branch rules "if") <|>
    only ["class", "@"] (decorated rules (classDefinition rules)) <|>
    only ["with", "async"] (withStatement rules) <|>
    only ["for", "async"] (forStatement rules) <|>
    only ["try"] (tryStatement rules) <|>
    only ["while"] (whileStatement rules) <|>
    matchStatement rules

def statements (rules : Rules) : Parse (List Node) := do
  let nss ← many1 (single (compoundStatement rules) <|> simpleStatements rules)
  return nss.flatten

end CodeLint.Source.Grammar
