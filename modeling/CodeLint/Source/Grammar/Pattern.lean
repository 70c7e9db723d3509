import CodeLint.Source.Grammar.Expression

/-!
Patterns of match statements.
-/

namespace CodeLint.Source.Grammar

open CodeLint.Tree Parse

def isComplex (n : Node) : Bool :=
  match n.get? .value with
  | some (.atom (.complex _ _)) => true
  | _ => false

def realNumberNode : Parse Node := do
  let n ← number
  if isComplex n then faultAtNode n .realRequired else return n

def imaginaryNumberNode : Parse Node := do
  let n ← number
  if isComplex n then return n else faultAtNode n .imaginaryRequired

def signedNumber : Parse Node := number <|> unary "-" .uSub number

def complexNumber : Parse Node := spanned do
  let re ← realNumberNode <|> unary "-" .uSub realNumberNode
  let t ← oneOf ["+", "-"]
  let im ← imaginaryNumberNode
  return build .binOp
    [nodeField .left re, nodeField .operator (bare (if t.text == "+" then .add else .sub)),
      nodeField .right im]

def literalValue (rules : Rules) : Parse Node :=
  (do
    let n ← signedNumber
    notAhead (oneOf ["+", "-"])
    return n) <|>
  complexNumber <|> rules.one .strings

def literalPattern (rules : Rules) : Parse Node :=
  let singleton (s : String) (a : Atom) : Parse Node := spanned do
    let _ ← symbol s
    return build .matchSingleton [atomField .value a]
  (spanned do return build .matchValue [nodeField .value (← literalValue rules)]) <|>
    singleton "None" .none <|> singleton "True" (.bool true) <|> singleton "False" (.bool false)

def literalExpression (rules : Rules) : Parse Node :=
  literalValue rules <|> constantOf "None" .none <|> constantOf "True" (.bool true) <|>
    constantOf "False" (.bool false)

def captureTarget : Parse Token := do
  notAhead (softKeyword "_")
  let t ← nameToken
  notAhead (oneOf [".", "(", "="])
  return t

def capturePattern : Parse Node := spanned do
  return build .matchAs [textField .name (nameText (← captureTarget))]

def wildcardPattern : Parse Node := spanned do
  let _ ← softKeyword "_"
  return build .matchAs []

def dottedValue : Parse Node := do
  let n ← leftward name fun n => attributeStep .load n
  if n.kind == .name then miss else return n

def nameOrDotted : Parse Node := leftward name fun n => attributeStep .load n

def valuePattern : Parse Node := spanned do
  let n ← dottedValue
  notAhead (oneOf [".", "(", "="])
  return build .matchValue [nodeField .value n]

def groupPattern (rules : Rules) : Parse Node := do
  let _ ← symbol "("
  let p ← rules.one .pattern
  let _ ← symbol ")"
  return p

def maybeStarPattern (rules : Rules) : Parse Node := rules.one .starPattern <|> rules.one .pattern

def maybeSequence (rules : Rules) : Parse (List Node) := do
  let ps ← sepBy1 (maybeStarPattern rules) (symbol ",")
  let _ ← optional (symbol ",")
  return ps

def openSequence (rules : Rules) : Parse (List Node) := do
  let p ← maybeStarPattern rules
  let _ ← symbol ","
  let ps ← optional (maybeSequence rules)
  return p :: ps.getD []

def sequencePattern (rules : Rules) : Parse Node :=
  (spanned do
    let _ ← symbol "["
    let ps ← optional (maybeSequence rules)
    let _ ← symbol "]"
    return build .matchSequence [listField .patterns (ps.getD [])]) <|>
  (spanned do
    let _ ← symbol "("
    let ps ← optional (openSequence rules)
    let _ ← symbol ")"
    return build .matchSequence [listField .patterns (ps.getD [])])

def starPattern : Parse Node :=
  (spanned do
    let _ ← symbol "*"
    return build .matchStar [textField .name (nameText (← captureTarget))]) <|>
  (spanned do
    let _ ← symbol "*"
    let _ ← wildcardPattern
    return build .matchStar [])

def keyPattern (rules : Rules) : Parse (Node × Node) := do
  let k ← literalExpression rules <|> dottedValue
  let _ ← symbol ":"
  return (k, ← rules.one .pattern)

def restPattern : Parse Token := do
  let _ ← symbol "**"
  captureTarget

def mappingOf (items : List (Node × Node)) (rest : Option Token) : Place → Node :=
  build .matchMapping
    ([listField .keys (items.map (·.1)), listField .patterns (items.map (·.2))] ++
      optionalText .rest (rest.map nameText))

def mappingPattern (rules : Rules) : Parse Node :=
  (spanned do
    let _ ← symbol "\x7b"
    let _ ← symbol "\x7d"
    return mappingOf [] none) <|>
  (spanned do
    let _ ← symbol "\x7b"
    let r ← restPattern
    let _ ← optional (symbol ",")
    let _ ← symbol "\x7d"
    return mappingOf [] (some r)) <|>
  (spanned do
    let _ ← symbol "\x7b"
    let items ← sepBy1 (keyPattern rules) (symbol ",")
    let _ ← symbol ","
    let r ← restPattern
    let _ ← optional (symbol ",")
    let _ ← symbol "\x7d"
    return mappingOf items (some r)) <|>
  (spanned do
    let _ ← symbol "\x7b"
    let items ← sepBy1 (keyPattern rules) (symbol ",")
    let _ ← optional (symbol ",")
    let _ ← symbol "\x7d"
    return mappingOf items none)

def keywordPattern (rules : Rules) : Parse (Token × Node) := do
  let t ← nameToken
  let _ ← symbol "="
  return (t, ← rules.one .pattern)

def positionalPatterns (rules : Rules) : Parse (List Node) :=
  sepBy1 (rules.one .pattern) (symbol ",")

def keywordPatterns (rules : Rules) : Parse (List (Token × Node)) :=
  sepBy1 (keywordPattern rules) (symbol ",")

def classOf (n : Node) (ps : List Node) (ks : List (Token × Node)) : Place → Node :=
  build .matchClass
    [nodeField .className n, listField .patterns ps,
      .mk .keywordNames (.list (ks.map fun k => .atom (.str (nameText k.1)))),
      listField .keywordPatterns (ks.map (·.2))]

def invalidClassPattern (rules : Rules) : Parse α := searching <| rule do
  let _ ← nameOrDotted
  let _ ← symbol "("
  let _ ← optional (do
    let _ ← positionalPatterns rules
    symbol ",")
  let _ ← keywordPatterns rules
  let _ ← symbol ","
  let ps ← positionalPatterns rules
  match ps with
  | p :: _ => faultAtNode p .positionalPatternAfterKeyword
  | [] => miss

def classPattern (rules : Rules) : Parse Node :=
  let closing : Parse Unit := do
    let _ ← optional (symbol ",")
    let _ ← symbol ")"
  (spanned do
    let n ← nameOrDotted
    let _ ← symbol "("
    let _ ← symbol ")"
    return classOf n [] []) <|>
  (spanned do
    let n ← nameOrDotted
    let _ ← symbol "("
    let ps ← positionalPatterns rules
    closing
    return classOf n ps []) <|>
  (spanned do
    let n ← nameOrDotted
    let _ ← symbol "("
    let ks ← keywordPatterns rules
    closing
    return classOf n [] ks) <|>
  (spanned do
    let n ← nameOrDotted
    let _ ← symbol "("
    let ps ← positionalPatterns rules
    let _ ← symbol ","
    let ks ← keywordPatterns rules
    closing
    return classOf n ps ks) <|>
  invalidClassPattern rules

def closedPattern (rules : Rules) : Parse Node :=
  literalPattern rules <|> capturePattern <|> wildcardPattern <|> valuePattern <|>
    groupPattern rules <|> sequencePattern rules <|> mappingPattern rules <|> classPattern rules

def orPattern (rules : Rules) : Parse Node := do
  let first ← peek
  let ps ← sepBy1 (rules.one .closedPattern) (symbol "|")
  match ps with
  | [p] => return p
  | ps =>
    let last ← passed
    return build .matchOr [listField .patterns ps] ⟨some first.line, first.column.getD 0, last.stop⟩

def invalidAsPattern (rules : Rules) : Parse α := searching <| rule <|
  (do
    let _ ← orPattern rules
    let _ ← symbol "as"
    faultAt (← softKeyword "_") .wildcardTarget) <|>
  (do
    let _ ← orPattern rules
    let _ ← symbol "as"
    notAhead nameToken
    faultAtNode (← rules.one .expression) .patternTarget)

def asPattern (rules : Rules) : Parse Node :=
  (spanned do
    let p ← orPattern rules
    let _ ← symbol "as"
    let t ← captureTarget
    return build .matchAs [nodeField .pattern p, textField .name (nameText t)]) <|>
  invalidAsPattern rules

def pattern (rules : Rules) : Parse Node := asPattern rules <|> orPattern rules

def openPattern (rules : Rules) : Parse Node :=
  (spanned do return build .matchSequence [listField .patterns (← openSequence rules)]) <|>
  rules.one .pattern

end CodeLint.Source.Grammar
