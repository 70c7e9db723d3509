import CodeLint.Source.Grammar.Compound

/-!
The grammar as a whole: what each rule stands for, and the parser of the rules.
-/

namespace CodeLint.Source.Grammar

open CodeLint.Tree Parse

def body (rules : Rules) : Rule → Parse (List Node)
  | .simpleStatement => single (simpleStatement rules)
  | .block => block rules
  | .expression => single (expression rules)
  | .starExpression => single (starExpression rules)
  | .disjunction => single (joined "or" .orOp (rules.one .conjunction))
  | .conjunction => single (joined "and" .andOp (rules.one .inversion))
  | .inversion => single (inversion rules)
  | .bitwiseOr => single (binary [("|", .bitOr)] (rules.one .bitwiseXor))
  | .bitwiseXor => single (binary [("^", .bitXor)] (rules.one .bitwiseAnd))
  | .bitwiseAnd => single (binary [("&", .bitAnd)] (rules.one .shift))
  | .shift => single (binary [("<<", .lShift), (">>", .rShift)] (rules.one .sum))
  | .sum => single (binary [("+", .add), ("-", .sub)] (rules.one .term))
  | .term => single (binary
      [("*", .mult), ("/", .div), ("//", .floorDiv), ("%", .mod), ("@", .matMult)]
      (rules.one .factor))
  | .factor => single (factor rules)
  | .awaitPrimary => single (awaitPrimary rules)
  | .primary => single (primary rules)
  | .strings => single strings
  | .arguments => single (arguments rules)
  | .starTarget => single (starTarget rules)
  | .targetWithStarAtom => single (targetWithStarAtom rules)
  | .targetPrimary => single (targetPrimary rules)
  | .delTarget => single (delTarget rules)
  | .closedPattern => single (closedPattern rules)
  | .starPattern => single starPattern
  | .invalidNamed => invalidNamed rules
  | .statements => statements rules
  | .elifPart => single (branch rules "elif")
  | .singleTarget => single (singleTarget rules)
  | .namedExpression => single (namedExpression rules)
  | .starExpressions => single (starExpressions rules)
  | .pattern => single (pattern rules)
  | .bracketedTarget => single (invalidAnnotationTarget rules)

/-- The parser of the rules. Fuel bounds how deep rules stand inside each other. -/
def parser : Nat → Rule → Context → Progress → Answer (List Node) × Progress
  | 0, _, _, s => (.missing, s)
  | n + 1, r, x, s =>
    match r.key? with
    | some k => remember k (body (parser n) r) x s
    | none => rule (body (parser n) r) x s

def program (rules : Rules) : Parse Node := do
  let ns ← optional (rules .statements)
  let _ ← ofKind .finish
  return .mk .program {} [listField .body (ns.getD []), listField .ignoredTypes []]

end CodeLint.Source.Grammar
