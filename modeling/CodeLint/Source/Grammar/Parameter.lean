import CodeLint.Source.Grammar.Comprehension

/-!
The parameters of functions and lambda expressions. Both have the same form; they differ in what
closes them and in annotations, which only functions have.
-/

namespace CodeLint.Source.Grammar

open CodeLint.Tree Parse

inductive Owner
  | function
  | lambda
  deriving DecidableEq

def Owner.close : Owner → String
  | .function => ")"
  | .lambda => ":"

structure Default where
  parameter : Node
  value : Option Node

structure Parameters where
  positionalOnly : List Node := []
  positional : List Node := []
  defaults : List Node := []
  rest : Option Node := none
  keywordOnly : List Default := []
  restKeywords : Option Node := none

def Parameters.node (p : Parameters) : Node :=
  .mk .parameters {}
    ([listField .positionalOnly p.positionalOnly, listField .positional p.positional] ++
      optionalField .restPositional p.rest ++
      [listField .keywordOnly (p.keywordOnly.map (·.parameter)),
        .mk .keywordDefaults (.list (p.keywordOnly.map fun d =>
          match d.value with
          | some n => .node n
          | none => .atom .none))] ++
      optionalField .restKeywords p.restKeywords ++ [listField .defaults p.defaults])

def parameterNode (t : Token) (hint : Option Node) : Place → Node :=
  build .parameter (textField .argument (nameText t) :: optionalField .typeHint hint)

def parameter (rules : Rules) (o : Owner) : Parse Node := spanned do
  let t ← nameToken
  let hint ←
    if o = .function then optional (do let _ ← symbol ":"; rules.one .expression)
    else pure none
  return parameterNode t hint

def parameterWithStar (rules : Rules) : Parse Node := spanned do
  let t ← nameToken
  let _ ← symbol ":"
  return parameterNode t (← rules.one .starExpression)

/-- The end of a parameter: a comma, or the end of all of them. Functions look behind the comma. -/
def parameterEnd (o : Owner) : Parse Unit :=
  (do
    let _ ← symbol ","
    if o = .function then
      let _ ← peek) <|>
  ahead (symbol o.close)

def plainParameter (rules : Rules) (o : Owner) : Parse Node := do
  let p ← parameter rules o
  parameterEnd o
  return p

def starAnnotatedParameter (rules : Rules) (o : Owner) : Parse Node := do
  let p ← parameterWithStar rules
  parameterEnd o
  return p

def defaultValue (rules : Rules) : Parse Node :=
  (do let _ ← symbol "="; rules.one .expression) <|>
  (searching <| rule do
    let t ← symbol "="
    ahead (oneOf [")", ","])
    faultAt t .missingDefault)

def defaultParameter (rules : Rules) (o : Owner) : Parse Default := do
  let p ← parameter rules o
  let v ← defaultValue rules
  parameterEnd o
  return ⟨p, some v⟩

def anyParameter (rules : Rules) (o : Owner) : Parse Default := do
  let p ← parameter rules o
  let v ← optional (defaultValue rules)
  parameterEnd o
  return ⟨p, v⟩

def slash (o : Owner) : Parse Unit := do
  let _ ← symbol "/"
  (do let _ ← symbol ",") <|> ahead (symbol o.close)

def slashPlain (rules : Rules) (o : Owner) : Parse (List Node) := do
  let ps ← many1 (plainParameter rules o)
  slash o
  return ps

def slashDefault (rules : Rules) (o : Owner) : Parse (List Node × List Default) := do
  let ps ← many (plainParameter rules o)
  let ds ← many1 (defaultParameter rules o)
  slash o
  return (ps, ds)

def invalidRestKeywords (rules : Rules) (o : Owner) : Parse α := searching <| rule <|
  (do
    let _ ← symbol "**"
    let _ ← parameter rules o
    faultAt (← symbol "=") .defaultOfRestKeywords) <|>
  (do
    let _ ← symbol "**"
    let _ ← parameter rules o
    let _ ← symbol ","
    faultAtNode (← parameter rules o) .afterRestKeywords) <|>
  (do
    let _ ← symbol "**"
    let _ ← parameter rules o
    let _ ← symbol ","
    faultAt (← oneOf ["*", "**", "/"]) .afterRestKeywords)

def restKeywords (rules : Rules) (o : Owner) : Parse Node :=
  invalidRestKeywords rules o <|>
  (do let _ ← symbol "**"; plainParameter rules o)

def plainOrComma (rules : Rules) (o : Owner) : Parse Unit :=
  (do let _ ← plainParameter rules o) <|> (do let _ ← symbol ",")

def invalidRest (rules : Rules) (o : Owner) : Parse α := searching <| rule <|
  (do
    let t ← symbol "*"
    (do let _ ← symbol o.close) <|> (do
      let _ ← symbol ","
      let _ ← symbol o.close <|> symbol "**")
    if o = .function then faultAt t .bareStar else faultHere .bareStar) <|>
  (do
    let _ ← symbol "*"
    let _ ← parameter rules o
    faultAt (← symbol "=") .defaultOfRest) <|>
  (do
    let _ ← symbol "*"
    plainOrComma rules o
    let _ ← many (anyParameter rules o)
    let t ← symbol "*"
    plainOrComma rules o
    faultAt t .secondStar)

structure StarPart where
  rest : Option Node
  keywordOnly : List Default
  restKeywords : Option Node

def starPart (rules : Rules) (o : Owner) : Parse StarPart :=
  invalidRest rules o <|>
  (do
    let _ ← symbol "*"
    let p ← plainParameter rules o
    let ds ← many (anyParameter rules o)
    return ⟨some p, ds, ← optional (restKeywords rules o)⟩) <|>
  (do
    if o = .lambda then miss
    let _ ← symbol "*"
    let p ← starAnnotatedParameter rules o
    let ds ← many (anyParameter rules o)
    return ⟨some p, ds, ← optional (restKeywords rules o)⟩) <|>
  (do
    let _ ← symbol "*"
    let _ ← symbol ","
    let ds ← many1 (anyParameter rules o)
    return ⟨none, ds, ← optional (restKeywords rules o)⟩) <|>
  (do return ⟨none, [], some (← restKeywords rules o)⟩)

def Parameters.withStar (p : Parameters) : Option StarPart → Parameters
  | some s =>
    { p with rest := s.rest, keywordOnly := s.keywordOnly, restKeywords := s.restKeywords }
  | none => p

def Parameters.withDefaults (p : Parameters) (ds : List Default) : Parameters :=
  { p with
    positional := p.positional ++ ds.map (·.parameter)
    defaults := p.defaults ++ ds.filterMap (·.value) }

def validParameters (rules : Rules) (o : Owner) : Parse Parameters :=
  (do
    let only ← slashPlain rules o
    let ps ← many (plainParameter rules o)
    let ds ← many (defaultParameter rules o)
    let s ← optional (starPart rules o)
    let all : Parameters := { positionalOnly := only, positional := ps }
    return (all.withDefaults ds).withStar s) <|>
  (do
    let (only, onlyDefaults) ← slashDefault rules o
    let ds ← many (defaultParameter rules o)
    let s ← optional (starPart rules o)
    let all : Parameters :=
      { positionalOnly := only ++ onlyDefaults.map (·.parameter)
        defaults := onlyDefaults.filterMap (·.value) }
    return (all.withDefaults ds).withStar s) <|>
  (do
    let ps ← many1 (plainParameter rules o)
    let ds ← many (defaultParameter rules o)
    let s ← optional (starPart rules o)
    let all : Parameters := { positional := ps }
    return (all.withDefaults ds).withStar s) <|>
  (do
    let ds ← many1 (defaultParameter rules o)
    let s ← optional (starPart rules o)
    return (({} : Parameters).withDefaults ds).withStar s) <|>
  (do return ({} : Parameters).withStar (some (← starPart rules o)))

def bracketedParameters (rules : Rules) (o : Owner) : Parse Unit :=
  if o = .function then do
    let _ ← many1 (plainParameter rules o)
  else do
    let _ ← sepBy1 (parameter rules o) (symbol ",")

def anySlash (rules : Rules) (o : Owner) : Parse Unit :=
  (do let _ ← slashPlain rules o) <|> (do let _ ← slashDefault rules o)

def invalidParameters (rules : Rules) (o : Owner) : Parse α := searching <| rule <|
  (do
    let _ ← many (plainParameter rules o)
    (do let _ ← slashDefault rules o) <|> (do let _ ← many1 (defaultParameter rules o))
    faultAtNode (← plainParameter rules o) .nonDefaultAfterDefault) <|>
  (do
    let _ ← many (plainParameter rules o)
    let t ← symbol "("
    bracketedParameters rules o
    let _ ← optional (symbol ",")
    let _ ← symbol ")"
    faultAt t (if o = .function then .bracketedParameters else .bracketedLambdaParameters)) <|>
  (do
    let t ← symbol "/"
    let _ ← symbol ","
    faultAt t .nothingBeforeSlash) <|>
  (do
    anySlash rules o
    let _ ← many (anyParameter rules o)
    faultAt (← symbol "/") .secondSlash) <|>
  (do
    let _ ← optional (anySlash rules o)
    let _ ← many (anyParameter rules o)
    let _ ← symbol "*"
    (do let _ ← symbol ",") <|> (do let _ ← plainParameter rules o)
    let _ ← many (anyParameter rules o)
    faultAt (← symbol "/") .slashAfterStar) <|>
  (do
    let _ ← many1 (anyParameter rules o)
    let _ ← symbol "/"
    faultAt (← symbol "*") .slashWithoutComma)

def parameters (rules : Rules) (o : Owner) : Parse Parameters :=
  invalidParameters rules o <|> validParameters rules o

end CodeLint.Source.Grammar
