import CodeLint.Source.Grammar.Target

/-!
Statements that fit on one line.
-/

namespace CodeLint.Source.Grammar

open CodeLint.Tree Parse

def assignedValue (rules : Rules) : Parse Node :=
  yieldExpression rules <|> rules.one .starExpressions

def annotationValue (rules : Rules) : Parse (Option Node) :=
  optional (do let _ ← symbol "="; assignedValue rules)

def annotatedNode (target hint : Node) (value : Option Node) (simple : Int) : Place → Node :=
  build .annAssign ([nodeField .target target, nodeField .typeHint hint] ++
    optionalField .value value ++ [atomField .simple (.int simple)])

def augmentedOperators : List (String × Kind) :=
  [("+=", .add), ("-=", .sub), ("*=", .mult), ("@=", .matMult), ("/=", .div), ("%=", .mod),
   ("&=", .bitAnd), ("|=", .bitOr), ("^=", .bitXor), ("<<=", .lShift), (">>=", .rShift),
   ("**=", .pow), ("//=", .floorDiv)]

def augmentedOperator : Parse Kind := do
  let t ← oneOf (augmentedOperators.map (·.1))
  return (augmentedOperators.lookup t.text).getD .add

def invalidAnnotationTarget (rules : Rules) : Parse Node :=
  rule (listDisplay rules) <|> rule (tupleDisplay rules) <|>
  (do
    let _ ← symbol "("
    let n ← rules.one .bracketedTarget
    let _ ← symbol ")"
    return n)

def targetsBefore (rules : Rules) : Parse (List Node) :=
  many (do
    let n ← starTargets rules
    let _ ← symbol "="
    return n)

def invalidAssignment (rules : Rules) : Parse α := searching <| rule <|
  (do
    let a ← rules.one .bracketedTarget
    let _ ← symbol ":"
    let _ ← rules.one .expression
    faultAtNode a (.severalAnnotated (describe a))) <|>
  (do
    let a ← starNamedExpression rules
    let _ ← symbol ","
    let _ ← many (starNamedExpressions rules)
    let _ ← symbol ":"
    let _ ← rules.one .expression
    faultAtNode a (.severalAnnotated "tuple")) <|>
  (do
    let a ← rules.one .expression
    let _ ← symbol ":"
    let _ ← rules.one .expression
    faultAtNode a .illegalHint) <|>
  (do
    let _ ← targetsBefore rules
    let a ← rules.one .starExpressions
    let _ ← symbol "="
    faultAtTarget .assigned a) <|>
  (do
    let _ ← targetsBefore rules
    let a ← yieldExpression rules
    let _ ← symbol "="
    faultAtNode a .assignmentToYield) <|>
  (do
    let a ← rules.one .starExpressions
    let _ ← augmentedOperator
    let _ ← assignedValue rules
    faultAtNode a (.illegalAugmented (describe a)))

def assignment (rules : Rules) : Parse Node := rule <|
  (spanned do
    let t ← nameToken
    let _ ← symbol ":"
    let a ← rules.one .expression
    return annotatedNode (nameNode .store t) a (← annotationValue rules) 1) <|>
  (spanned do
    let n ← (do
      let _ ← symbol "("
      let n ← rules.one .singleTarget
      let _ ← symbol ")"
      return n) <|> attributeOrSubscript rules .store
    let _ ← symbol ":"
    let a ← rules.one .expression
    return annotatedNode n a (← annotationValue rules) 0) <|>
  (spanned do
    let targets ← many1 (do
      let n ← starTargets rules
      let _ ← symbol "="
      return n)
    let v ← assignedValue rules
    notAhead (symbol "=")
    return build .assign [listField .targets targets, nodeField .value v]) <|>
  (spanned do
    let n ← rules.one .singleTarget
    let k ← augmentedOperator
    let v ← commit (assignedValue rules)
    return build .augAssign
      [nodeField .target n, nodeField .operator (bare k), nodeField .value v]) <|>
  invalidAssignment rules

def returnStatement (rules : Rules) : Parse Node := spanned do
  let _ ← symbol "return"
  return build .returnStmt (optionalField .value (← optional (rules.one .starExpressions)))

def raiseStatement (rules : Rules) : Parse Node :=
  (spanned do
    let _ ← symbol "raise"
    let e ← rules.one .expression
    let c ← optional (do let _ ← symbol "from"; rules.one .expression)
    return build .raiseStmt (nodeField .exception e :: optionalField .cause c)) <|>
  (spanned do
    let _ ← symbol "raise"
    return build .raiseStmt [])

def namesStatement (s : String) (k : Kind) : Parse Node := spanned do
  let _ ← symbol s
  let ts ← sepBy1 nameToken (symbol ",")
  return build k [.mk .names (.list (ts.map fun t => .atom (.str (nameText t))))]

def deleteStatement (rules : Rules) : Parse Node := rule <|
  (spanned do
    let _ ← symbol "del"
    let ns ← delTargets rules
    ahead ((do let _ ← symbol ";") <|> (do let _ ← ofKind .newline))
    return build .deleteStmt [listField .targets ns]) <|>
  (searching <| rule do
    let _ ← symbol "del"
    faultAtTarget .deleted (← rules.one .starExpressions))

def assertStatement (rules : Rules) : Parse Node := spanned do
  let _ ← symbol "assert"
  let e ← rules.one .expression
  let m ← optional (do let _ ← symbol ","; rules.one .expression)
  return build .assertStmt (nodeField .test e :: optionalField .message m)

def dottedName : Parse String := do
  let t ← nameToken
  let ts ← many (do let _ ← symbol "."; nameToken)
  return ".".intercalate ((t :: ts).map nameText)

def aliasPart : Parse (Option String) :=
  optional (do let _ ← symbol "as"; return nameText (← nameToken))

def aliasOf (n : String) (a : Option String) : Place → Node :=
  build .importItem (textField .name n :: optionalText .otherName a)

def importStatement : Parse Node := spanned do
  let _ ← symbol "import"
  let ns ← sepBy1 (spanned do
    let n ← dottedName
    return aliasOf n (← aliasPart)) (symbol ",")
  return build .importStmt [listField .names ns]

def importedName : Parse Node := spanned do
  let t ← nameToken
  return aliasOf (nameText t) (← aliasPart)

def importedNames : Parse (List Node) := sepBy1 importedName (symbol ",")

def importTargets : Parse (List Node) := rule <|
  (do
    let _ ← symbol "("
    let ns ← importedNames
    let _ ← optional (symbol ",")
    let _ ← symbol ")"
    return ns) <|>
  (do
    let ns ← importedNames
    notAhead (symbol ",")
    return ns) <|>
  single (spanned do
    let _ ← symbol "*"
    return aliasOf "*" none) <|>
  (searching <| rule do
    let _ ← importedNames
    let _ ← symbol ","
    let _ ← ofKind .newline
    faultHere .trailingComma)

def dots : Parse Nat := do
  let t ← oneOf [".", "..."]
  return t.text.length

def importFromNode (package : Option String) (ns : List Node) (level : Nat) : Place → Node :=
  build .importFrom (optionalText .package package ++
    [listField .names ns, atomField .level (.int level)])

def importFromStatement : Parse Node :=
  (spanned do
    let _ ← symbol "from"
    let ds ← many dots
    let n ← dottedName
    let _ ← symbol "import"
    return importFromNode (some n) (← importTargets) (ds.foldl (· + ·) 0)) <|>
  (spanned do
    let _ ← symbol "from"
    let ds ← many1 dots
    let _ ← symbol "import"
    return importFromNode none (← importTargets) (ds.foldl (· + ·) 0))

def wordStatement (s : String) (k : Kind) : Parse Node := spanned do
  let _ ← symbol s
  return build k []

def expressionStatement (e : Parse Node) : Parse Node := spanned do
  return build .expr [nodeField .value (← e)]

def simpleStatement (rules : Rules) : Parse Node :=
  assignment rules <|>
  expressionStatement (rules.one .starExpressions) <|>
  returnStatement rules <|>
  importStatement <|> importFromStatement <|>
  raiseStatement rules <|>
  wordStatement "pass" .passStmt <|>
  deleteStatement rules <|>
  expressionStatement (yieldExpression rules) <|>
  assertStatement rules <|>
  wordStatement "break" .breakStmt <|>
  wordStatement "continue" .continueStmt <|>
  namesStatement "global" .globalStmt <|>
  namesStatement "nonlocal" .nonlocalStmt

def simpleStatements (rules : Rules) : Parse (List Node) :=
  (do
    let n ← rules.one .simpleStatement
    notAhead (symbol ";")
    let _ ← ofKind .newline
    return [n]) <|>
  (do
    let ns ← sepBy1 (rules.one .simpleStatement) (symbol ";")
    let _ ← optional (symbol ";")
    let _ ← ofKind .newline
    return ns)

end CodeLint.Source.Grammar
