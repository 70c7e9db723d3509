import CodeLint.Source.Grammar.Comprehension

/-!
The arguments of a call: positional ones and unpacked ones first, then keywords. Arguments are
given as a call node without a callee.
-/

namespace CodeLint.Source.Grammar

open CodeLint.Tree Parse

/-- A starred argument counts as positional even among keywords. -/
inductive Argument
  | keyword (n : Node)
  | starred (n : Node)

def Argument.keyword? : Argument → Option Node
  | .keyword n => some n
  | .starred _ => none

def Argument.starred? : Argument → Option Node
  | .keyword _ => none
  | .starred n => some n

def invalidKeyword (rules : Rules) : Parse α := searching <| rule <|
  (do
    let t ← oneOf ["True", "False", "None"]
    let _ ← symbol "="
    faultAt t (.cannotAssign t.text)) <|>
  (do
    let t ← nameToken
    let _ ← symbol "="
    let _ ← rules.one .expression
    let _ ← forClauses rules
    faultAt t .assignmentInCondition) <|>
  (do
    notAhead (do let _ ← nameToken; symbol "=")
    let a ← rules.one .expression
    let _ ← symbol "="
    faultAtNode a .assignmentInCall)

def keywordArgument (rules : Rules) : Parse Node := spanned do
  let t ← nameToken
  let _ ← symbol "="
  let e ← rules.one .expression
  return build .keyword [textField .argument (nameText t), nodeField .value e]

def unpackedKeywords (rules : Rules) : Parse Node := spanned do
  let _ ← symbol "**"
  return build .keyword [nodeField .value (← rules.one .expression)]

def keywordOrStarred (rules : Rules) : Parse Argument :=
  invalidKeyword rules <|>
  (do return .keyword (← keywordArgument rules)) <|>
  (do return .starred (← starredExpression rules))

def keywordOrUnpacked (rules : Rules) : Parse Argument :=
  invalidKeyword rules <|>
  (do return .keyword (← keywordArgument rules)) <|>
  (do return .keyword (← unpackedKeywords rules))

def keywordArguments (rules : Rules) : Parse (List Argument) :=
  (do
    let xs ← sepBy1 (keywordOrStarred rules) (symbol ",")
    let _ ← symbol ","
    let ys ← sepBy1 (keywordOrUnpacked rules) (symbol ",")
    return xs ++ ys) <|>
  sepBy1 (keywordOrStarred rules) (symbol ",") <|>
  sepBy1 (keywordOrUnpacked rules) (symbol ",")

def positionalArgument (rules : Rules) : Parse Node :=
  starredExpression rules <|>
  (do
    let e ← generatorElement rules
    notAhead (symbol "=")
    return e)

def argumentsNode (args : List Node) (rest : List Argument) : Place → Node :=
  build .call
    [listField .positional (args ++ rest.filterMap Argument.starred?),
      listField .keywords (rest.filterMap Argument.keyword?)]

def argumentList (rules : Rules) : Parse Node :=
  (spanned do
    let args ← sepBy1 (positionalArgument rules) (symbol ",")
    let rest ← optional (do let _ ← symbol ","; keywordArguments rules)
    return argumentsNode args (rest.getD [])) <|>
  (spanned do return argumentsNode [] (← keywordArguments rules))

/-- A generator expression among other arguments needs its own parentheses. -/
def bareGeneratorIn (args : Node) : Parse α :=
  match nodesAt args .positional with
  | _ :: b :: rest => faultAtNode ((b :: rest).getLast?.getD b) .bareGenerator
  | _ => refuse

def invalidArguments (rules : Rules) : Parse α := searching <| rule <|
  (do
    let a ← argumentList rules
    let _ ← symbol ","
    let _ ← symbol "*"
    faultAtNode a .unpackingOrder) <|>
  (do
    let a ← rules.one .expression
    let _ ← forClauses rules
    let _ ← symbol ","
    let _ ← optional (argumentList rules <|> (do
      let e ← rules.one .expression
      let _ ← forClauses rules
      return e))
    faultAtNode a .bareGenerator) <|>
  (do
    let t ← nameToken
    let _ ← symbol "="
    let _ ← rules.one .expression
    let _ ← forClauses rules
    faultAt t .assignmentInCondition) <|>
  (do
    let a ← argumentList rules
    let _ ← forClauses rules
    bareGeneratorIn a) <|>
  (do
    let _ ← argumentList rules
    let _ ← symbol ","
    let a ← rules.one .expression
    let _ ← forClauses rules
    faultAtNode a .bareGenerator) <|>
  (do
    let a ← argumentList rules
    let _ ← symbol ","
    let _ ← argumentList rules
    let unpacked := (nodesAt a .keywords).any fun k => (k.fields.all (·.label != .argument))
    faultHere (if unpacked then .positionalAfterUnpacking else .positionalAfterKeyword))

def arguments (rules : Rules) : Parse Node :=
  (do
    let a ← argumentList rules
    let _ ← optional (symbol ",")
    ahead (symbol ")")
    return a) <|>
  invalidArguments rules

end CodeLint.Source.Grammar
