import CodeLint.Proofs.Names

/-!
What a traversal does to an analysis, one small change at a time. An effect is a report, an entry
in one of the records of the analysis, or the opening or closing of a scope; some effects depend on
what the analysis already knows. Entering a node and leaving it perform lists of effects that can
be read off the node and the nodes above it.
-/

namespace CodeLint.Lint

open CodeLint.Tree CodeLint.Text

inductive Effect
  | report (f : Finding) (line : Line)
  | useModuleScope
  | noteConstant (x : String) (line : Line)
  | addImport (x : String) (line : Line)
  | bind (x : String) (b : Binding)
  | addClass (x : String)
  | openScope
  | closeScope (previous : ScopeRef)
  | setFunction (f : Option String)
  | define (f : String) (line : Line)
  | addReturn (hasValue : Bool)
  | checkReturns (f : String) (line : Line)
  | noteAssignment (x : String) (line : Line)
  | checkVariable (x : String) (line : Line)
  | checkDefined (x : String) (line : Line)
  | noteUsage (x : String) (line : Line)
  | markUsed (x : String)
  | store (x : String)
  | declareGlobal (x : String)
  | declareNonlocal (x : String)
  | enterLoop
  | checkDepth (line : Line)
  | leaveLoop
  | reportUnusedImports

namespace Effect

def apply : Effect → Analysis → Analysis
  | .report f line, a => a.report f line
  | .useModuleScope, a => { a with current := .global }
  | .noteConstant x line, a => { a with moduleLevel := a.moduleLevel.put x line }
  | .addImport x line, a => { a with imports := insertNew (x, line) a.imports }
  | .bind x b, a => a.bind x b
  | .addClass x, a => { a with classNames := insertNew x a.classNames }
  | .openScope, a => a.push []
  | .closeScope previous, a => { a with scopes := a.scopes.dropLast, current := previous }
  | .setFunction f, a => { a with currentFunction := f }
  | .define f line, a => a.define f ⟨[], line⟩
  | .addReturn hasValue, a =>
    match a.currentFunction with
    | none => a
    | some f => if f.isEmpty then a else a.addReturn f hasValue
  | .checkReturns f line, a =>
    match a.definition? f with
    | none => a
    | some r => if r.returns.any id && !r.returns.all id then a.report (.mixedReturns f) line else a
  | .noteAssignment x line, a => { a with assignments := a.assignments.put x line }
  | .checkVariable x line, a =>
    if a.classNames.contains x then a else a.report (.variableName x) line
  | .checkDefined x line, a => if a.isDefined x then a else a.report (.undefinedVariable x) line
  | .noteUsage x line, a => { a with usages := a.usages.put x line }
  | .markUsed x, a => a.markUsed x
  | .store x, a => if a.currentScope.has x then a else a.bind x .assigned
  | .declareGlobal x, a =>
    { a with
      globalVars := insertNew x a.globalVars
      globalScope := a.globalScope.put x .global }
  | .declareNonlocal x, a => { a with nonlocalVars := insertNew x a.nonlocalVars }
  | .enterLoop, a => { a with loopDepth := a.loopDepth + 1 }
  | .checkDepth line, a => if 2 < a.loopDepth then a.report .deepLoop line else a
  | .leaveLoop, a => { a with loopDepth := a.loopDepth - 1 }
  | .reportUnusedImports, a => a.reportUnusedImports

end Effect

def Analysis.after (a : Analysis) (es : List Effect) : Analysis := es.foldl (fun a e => e.apply a) a

namespace Analysis

variable (a : Analysis)

@[simp] theorem after_nil : a.after [] = a := rfl

@[simp] theorem after_cons (e : Effect) (es : List Effect) :
    a.after (e :: es) = (e.apply a).after es := rfl

@[simp] theorem after_append (es fs : List Effect) :
    a.after (es ++ fs) = (a.after es).after fs := List.foldl_append

end Analysis

def atLine (found : Bool) (f : Finding) (v : Value) : List Effect :=
  if found then [.report f v.line] else []

theorem after_atLine (a : Analysis) (found : Bool) (f : Finding) (v : Value) :
    a.after (atLine found f v) = if found then a.report f v.line else a := by
  cases found <;> rfl

/-! ### Modules and imports -/

def constantEffects (target : Value) : List Effect :=
  if target.isKind .name then
    .noteConstant (target.textAt .ident) target.line ::
      atLine (!constantCase.accepts (target.textAt .ident) && isUpper (target.textAt .ident))
        (.constantName (target.textAt .ident)) target
  else []

def statementEffects (v : Value) : List Effect :=
  if v.isKind .assign then (v.membersAt .targets).flatMap constantEffects else []

def moduleEffects (n : Node) : List Effect :=
  .useModuleScope :: ((Value.node n).membersAt .body).flatMap statementEffects

def itemEffects (n : Node) (item : Value) : List Effect :=
  [.addImport (importName item) n.line?, .bind (importName item) .imported]

def importEffects (n : Node) : List Effect :=
  ((Value.node n).membersAt .names).flatMap (itemEffects n)

def severalEffects (n : Node) : List Effect :=
  atLine (1 < ((Value.node n).membersAt .names).length) .severalImports (.node n)

/-! ### Definitions -/

def classEffects (n : Node) : List Effect :=
  [Effect.bind (n.title) .classDef, .addClass (n.title)] ++
    atLine (!capWords.accepts (n.title)) (.className (n.title)) (.node n) ++ [Effect.openScope]

def documented (n : Node) : Bool :=
  let body := (Value.node n).part .body
  let value := (body.item 0).part .value
  if body.isFalsy then false
  else if !(body.item 0).isKind .expr then false
  else if !value.isKind .constant then false
  else (value.part .value).isText && isDocumentation (value.part .value).text

def parameterEffects (allowed : List String) (finding : String → Finding) (p : Value) :
    List Effect :=
  atLine (!snakeCase.accepts (p.textAt .argument) && !allowed.contains (p.textAt .argument))
    (finding (p.textAt .argument)) p

def defaultEffects (function : String) (n : Node) (v : Value) : List Effect :=
  atLine (v.isKindIn [.listLit, .dictLit, .setLit]) (.mutableDefault function) (.node n)

def signatureEffects (n : Node) (f : String) (params : Value) : List Effect :=
  (params.membersAt .positional).flatMap (parameterEffects ["self", "cls"] (.argumentName · f)) ++
    (restParameter (params.part .restPositional)).flatMap
      (parameterEffects [] (.restArgumentName · f)) ++
    (restParameter (params.part .restKeywords)).flatMap
      (parameterEffects [] (.restKeywordName · f)) ++
    (params.membersAt .keywordOnly).flatMap (parameterEffects [] (.keywordOnlyName · f)) ++
    (params.membersAt .defaults).flatMap (defaultEffects f n)

def functionEffects (n : Node) : List Effect :=
  atLine (!isDunder n.title && !snakeCase.accepts n.title) (.functionName n.title) (.node n) ++
    atLine (!documented n) (.missingDocstring n.title) (.node n) ++
    signatureEffects n n.title ((Value.node n).part .positional) ++
    [Effect.setFunction (some n.title), .define n.title n.line?, .openScope] ++
    n.parameterNames.map (Effect.bind · .param)

/-! ### Assignments and names -/

def lambdaEffects (n : Node) : List Effect :=
  let targets := (Value.node n).part .targets
  if ((Value.node n).part .value).isKind .lambda then
    if targets.members.length == 1 then
      if (targets.item 0).isKind .name then
        [.report (.lambdaAssigned ((targets.item 0).textAt .ident)) n.line?]
      else []
    else []
  else []

def variableEffects (atModule : Bool) (x : String) (target : Value) : List Effect :=
  if atModule && isUpper x && !isLower x then
    atLine (!constantCase.accepts x) (.constantName x) target
  else if !isDunder x && !snakeCase.accepts x && !capWords.accepts x then
    [.checkVariable x target.line]
  else []

def leafEffects (atModule : Bool) (n : Node) : List Effect :=
  atLine (isBuiltIn n.ident) (.builtInRedefined n.ident) (.node n) ++
    variableEffects atModule n.ident (.node n) ++
    [Effect.bind n.ident .assigned, .noteAssignment n.ident n.line?] ++
    if atModule then [Effect.noteConstant n.ident n.line?] else []

def topLevel : List Link → Bool
  | [] => false
  | link :: _ => link.node.kind == .program

def assignEffects (above : List Link) (n : Node) : List Effect :=
  lambdaEffects n ++ n.assignedLeaves.flatMap (leafEffects (topLevel above))

def nameEffects (n : Node) : List Effect :=
  if ((Value.node n).part .context).isKind .load then
    [.checkDefined n.ident n.line?, .noteUsage n.ident n.line?, .markUsed n.ident]
  else if ((Value.node n).part .context).isKind .store then [.store n.ident]
  else []

/-! ### Loops -/

def loopEffects (n : Node) : List Effect := [.enterLoop, .checkDepth n.line?]

def forEffects (above : List Link) (n : Node) : List Effect :=
  loopEffects n ++ Effect.openScope :: n.loopLeaves.flatMap (leafEffects (topLevel above))

def constantIs (test : Value → Bool) (v : Value) : Bool :=
  v.isKind .constant && test (v.part .value)

def isTrueValue : Value → Bool
  | .atom (.bool b) => b
  | _ => false

def whileEffects (n : Node) : List Effect :=
  loopEffects n ++
    atLine (constantIs isTrueValue ((Value.node n).part .test) && !n.contains .breakStmt)
      .endlessLoop (.node n) ++ [Effect.openScope]

/-! ### Expressions -/

def callsType (v : Value) : Bool :=
  v.isKind .call && (v.part .callee).isKind .name && (v.part .callee).textAt .ident == "type"

def comparisonEffects (n : Node) (left operator right : Value) : List Effect :=
  (if operator.isKindIn [.eq, .notEq] then
    atLine (constantIs Value.isNone left || constantIs Value.isNone right) .comparedToNone
        (.node n) ++
      atLine (constantIs isBoolValue left || constantIs isBoolValue right) .comparedToBool
        (.node n)
  else []) ++
  if operator.isKindIn [.isSame, .isNotSame] then
    atLine (callsType left && callsType right) .comparedTypes (.node n)
  else []

def leftOperand (n : Node) (i : Nat) : Value :=
  if i == 0 then (Value.node n).part .left else ((Value.node n).part .comparators).item (i - 1)

def chainEffects (n : Node) (i : Nat) : List Value → List Effect
  | [] => []
  | operator :: rest =>
    comparisonEffects n (leftOperand n i) operator (((Value.node n).part .comparators).item i) ++
      chainEffects n (i + 1) rest

def binaryEffects (n : Node) : List Effect :=
  atLine (((Value.node n).part .operator).isKindIn [.div, .floorDiv, .mod] &&
    constantIs isZeroValue ((Value.node n).part .right)) .divisionByZero (.node n)

def handlerEffects (h : Value) : List Effect :=
  let type := h.part .exceptionType
  atLine (h.part .body).isFalsy .emptyHandler h ++
    if type.isNone then [.report .bareHandler h.line]
    else atLine (type.isKind .name && type.textAt .ident == "Exception") .broadHandler h

def managed (above : List Link) : Bool :=
  above.any fun link => link.node.kind == .withStmt &&
    link.item.any (· < ((Value.node link.node).membersAt .items).length)

def callEffects (above : List Link) (n : Node) : List Effect :=
  let callee := (Value.node n).part .callee
  if callee.isKind .name then
    atLine (callee.textAt .ident == "open" && !managed above) .unmanagedFile (.node n) ++
      [.markUsed (callee.textAt .ident)]
  else if callee.isKind .attributeOf && (callee.part .value).isKind .name then
    [.markUsed ((callee.part .value).textAt .ident)]
  else []

/-! ### Entering and leaving -/

def entering (above : List Link) (n : Node) : List Effect :=
  match n.kind with
  | .program => moduleEffects n
  | .importStmt => severalEffects n ++ importEffects n
  | .importFrom => importEffects n
  | .classDef => classEffects n
  | .functionDef => functionEffects n
  | .returnStmt => [.addReturn (!((Value.node n).part .value).isNone)]
  | .assign => assignEffects above n
  | .name => nameEffects n
  | .globalStmt => n.declaredNames.map .declareGlobal
  | .nonlocalStmt => n.declaredNames.map .declareNonlocal
  | .forLoop => forEffects above n
  | .whileLoop => whileEffects n
  | .compare => chainEffects n 0 ((Value.node n).membersAt .operators)
  | .binOp => binaryEffects n
  | .tryStmt => ((Value.node n).membersAt .handlers).flatMap handlerEffects
  | .call => callEffects above n
  | _ => []

def leaving (n : Node) (previous : ScopeRef) : List Effect :=
  match n.kind with
  | .program => [.reportUnusedImports]
  | .classDef => [.closeScope previous]
  | .functionDef => [.closeScope previous, .checkReturns n.title n.line?, .setFunction none]
  | .forLoop => [.closeScope previous, .leaveLoop]
  | .whileLoop => [.closeScope previous, .leaveLoop]
  | _ => []

end CodeLint.Lint
