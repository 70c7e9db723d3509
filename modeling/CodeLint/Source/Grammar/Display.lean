import CodeLint.Source.Grammar.Comprehension
import CodeLint.Source.Grammar.Literal

/-!
Atoms: names, constants, strings and what stands in brackets.
-/

namespace CodeLint.Source.Grammar

open CodeLint.Tree Parse

def tupleDisplay (rules : Rules) : Parse Node := spanned do
  let _ ← symbol "("
  let ns ← optional (do
    let n ← starNamedExpression rules
    let _ ← symbol ","
    let ns ← optional (starNamedExpressions rules)
    return n :: ns.getD [])
  let _ ← symbol ")"
  return tupleOf .load (ns.getD [])

def invalidGroup (rules : Rules) : Parse α := searching <| rule <|
  (do
    let _ ← symbol "("
    let a ← starredExpression rules
    let _ ← symbol ")"
    faultAtNode a .starredHere) <|>
  (do
    let _ ← symbol "("
    let t ← symbol "**"
    let _ ← rules.one .expression
    let _ ← symbol ")"
    faultAt t .doubleStarredHere)

def group (rules : Rules) : Parse Node :=
  (do
    let _ ← symbol "("
    let n ← yieldExpression rules <|> rules.one .namedExpression
    let _ ← symbol ")"
    return n) <|>
  invalidGroup rules

def listDisplay (rules : Rules) : Parse Node := spanned do
  let _ ← symbol "["
  let ns ← optional (starNamedExpressions rules)
  let _ ← symbol "]"
  return listOf .load (ns.getD [])

def listComprehension (rules : Rules) : Parse Node :=
  (spanned do
    let _ ← symbol "["
    let e ← rules.one .namedExpression
    let clauses ← forClauses rules
    let _ ← symbol "]"
    return build .listComp [nodeField .element e, listField .generators clauses]) <|>
  invalidComprehension rules

def setDisplay (rules : Rules) : Parse Node := spanned do
  let _ ← symbol "\x7b"
  let ns ← starNamedExpressions rules
  let _ ← symbol "\x7d"
  return build .setLit [listField .elements ns]

def setComprehension (rules : Rules) : Parse Node :=
  (spanned do
    let _ ← symbol "\x7b"
    let e ← rules.one .namedExpression
    let clauses ← forClauses rules
    let _ ← symbol "\x7d"
    return build .setComp [nodeField .element e, listField .generators clauses]) <|>
  invalidComprehension rules

structure Entry where
  key : Option Node
  value : Node

def keyedEntry (rules : Rules) : Parse Entry := do
  let k ← rules.one .expression
  let _ ← symbol ":"
  return ⟨some k, ← rules.one .expression⟩

def entry (rules : Rules) : Parse Entry :=
  (do let _ ← symbol "**"; return ⟨none, ← rules.one .bitwiseOr⟩) <|> keyedEntry rules

def invalidEntryValue (rules : Rules) : Parse α :=
  (do
    let _ ← rules.one .expression
    let _ ← symbol ":"
    let t ← symbol "*"
    let _ ← rules.one .bitwiseOr
    faultAt t .starredDictValue) <|>
  (do
    let _ ← rules.one .expression
    let t ← symbol ":"
    ahead (oneOf ["\x7d", ","])
    faultAt t .missingDictValue)

def invalidEntry (rules : Rules) : Parse α := searching <| rule <|
  (do
    let a ← rules.one .expression
    notAhead (symbol ":")
    faultAtBytes (a.line?.getD 0).toNat a.place.stop .missingDictColon) <|>
  invalidEntryValue rules

def invalidEntries (rules : Rules) : Parse α := searching <| rule <|
  (do
    let _ ← sepBy1 (entry rules) (symbol ",")
    let _ ← symbol ","
    invalidEntry rules) <|>
  invalidEntryValue rules

def dictDisplay (rules : Rules) : Parse Node :=
  (spanned do
    let _ ← symbol "\x7b"
    let es ← optional (do
      let es ← sepBy1 (entry rules) (symbol ",")
      let _ ← optional (symbol ",")
      return es)
    let _ ← symbol "\x7d"
    let es := es.getD []
    let keys := es.map fun e =>
      match e.key with
      | some k => Value.node k
      | none => Value.atom .none
    return build .dictLit [.mk .keys (.list keys), listField .values (es.map (·.value))]) <|>
  (searching do
    let _ ← symbol "\x7b"
    invalidEntries rules)

def dictComprehension (rules : Rules) : Parse Node :=
  (spanned do
    let _ ← symbol "\x7b"
    let e ← keyedEntry rules
    let clauses ← forClauses rules
    let _ ← symbol "\x7d"
    return build .dictComp
      (optionalField .key e.key ++ [nodeField .value e.value, listField .generators clauses])) <|>
  (searching <| rule do
    let _ ← symbol "\x7b"
    let t ← symbol "**"
    let _ ← rules.one .bitwiseOr
    let _ ← forClauses rules
    let _ ← symbol "\x7d"
    faultAt t .dictUnpackingInComprehension)

def constantOf (text : String) (a : Atom) : Parse Node := do
  let t ← symbol text
  return constantNode a (placeOf t)

def atom (rules : Rules) : Parse Node := do
  let t ← peek
  match t.kind with
  | .name => name
  | .number => number
  | .string => rules.one .strings
  | .keyword =>
    constantOf "True" (.bool true) <|> constantOf "False" (.bool false) <|> constantOf "None" .none
  | .operator =>
    if t.text == "(" then
      rule (tupleDisplay rules) <|> rule (group rules) <|> generator rules
    else if t.text == "[" then rule (listDisplay rules) <|> rule (listComprehension rules)
    else if t.text == "\x7b" then
      rule (dictDisplay rules) <|> rule (setDisplay rules) <|> rule (dictComprehension rules) <|>
        rule (setComprehension rules)
    else constantOf "..." .ellipsis
  | _ => miss

end CodeLint.Source.Grammar
