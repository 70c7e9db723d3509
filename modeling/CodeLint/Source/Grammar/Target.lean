import CodeLint.Source.Grammar.Expression

/-!
Targets of assignments and deletions: names, attributes, subscripts, and tuples and lists of them.
-/

namespace CodeLint.Source.Grammar

open CodeLint.Tree Parse

def targetContinues : Parse Token := oneOf ["(", "[", "."]

def targetPrimary (rules : Rules) : Parse Node :=
  let step (f : Parse (Place → Node)) : Parse (Place → Node) := do
    let n ← f
    ahead targetContinues
    return n
  leftward
    (do
      let n ← atom rules
      ahead targetContinues
      return n)
    fun n =>
      step (attributeStep .load n) <|> step (subscriptStep rules .load n) <|>
        step (generatorCall rules n) <|> step (callArguments rules n)

def attributeOrSubscript (rules : Rules) (context : Kind) : Parse Node :=
  (spanned do
    let n ← rules.one .targetPrimary
    let f ← attributeStep context n
    notAhead targetContinues
    return f) <|>
  (spanned do
    let n ← rules.one .targetPrimary
    let f ← subscriptStep rules context n
    notAhead targetContinues
    return f)

def starTarget (rules : Rules) : Parse Node :=
  (spanned do
    let _ ← symbol "*"
    notAhead (symbol "*")
    let n ← rules.one .starTarget
    return starredOf .store (withContext .store n)) <|>
  rules.one .targetWithStarAtom

def starTargetTuple (rules : Rules) : Parse (List Node) :=
  (do
    let n ← rules.one .starTarget
    let ns ← many1 (do let _ ← symbol ","; rules.one .starTarget)
    let _ ← optional (symbol ",")
    return n :: ns) <|>
  (do
    let n ← rules.one .starTarget
    let _ ← symbol ","
    return [n])

def starTargetList (rules : Rules) : Parse (List Node) := do
  let ns ← sepBy1 (rules.one .starTarget) (symbol ",")
  let _ ← optional (symbol ",")
  return ns

def starAtom (rules : Rules) : Parse Node :=
  (do return nameNode .store (← nameToken)) <|>
  (do
    let _ ← symbol "("
    let n ← rules.one .targetWithStarAtom
    let _ ← symbol ")"
    return withContext .store n) <|>
  (spanned do
    let _ ← symbol "("
    let ns ← optional (starTargetTuple rules)
    let _ ← symbol ")"
    return tupleOf .store (ns.getD [])) <|>
  (spanned do
    let _ ← symbol "["
    let ns ← optional (starTargetList rules)
    let _ ← symbol "]"
    return listOf .store (ns.getD []))

def targetWithStarAtom (rules : Rules) : Parse Node :=
  attributeOrSubscript rules .store <|> starAtom rules

def singleTarget (rules : Rules) : Parse Node :=
  attributeOrSubscript rules .store <|>
  (do return nameNode .store (← nameToken)) <|>
  (do
    let _ ← symbol "("
    let n ← rules.one .singleTarget
    let _ ← symbol ")"
    return n)

def delTargets (rules : Rules) : Parse (List Node) := do
  let ns ← sepBy1 (rules.one .delTarget) (symbol ",")
  let _ ← optional (symbol ",")
  return ns

def delTarget (rules : Rules) : Parse Node :=
  attributeOrSubscript rules .del <|>
  (do return nameNode .del (← nameToken)) <|>
  (do
    let _ ← symbol "("
    let n ← rules.one .delTarget
    let _ ← symbol ")"
    return withContext .del n) <|>
  (spanned do
    let _ ← symbol "("
    let ns ← optional (delTargets rules)
    let _ ← symbol ")"
    return tupleOf .del (ns.getD [])) <|>
  (spanned do
    let _ ← symbol "["
    let ns ← optional (delTargets rules)
    let _ ← symbol "]"
    return listOf .del (ns.getD []))

end CodeLint.Source.Grammar
