import CodeLint.Lint.Assign
import CodeLint.Text.Margin

/-!
What is done on entering a node and on leaving it. Entering binds names, opens scopes and makes the
checks that concern the node itself; leaving closes what entering opened. The nodes above are
given as links, innermost first.
-/

namespace CodeLint.Lint

open CodeLint.Tree CodeLint.Text

/-- A node above, and which item of it leads down when the way down skips the item itself. -/
structure Link where
  node : Node
  item : Option Nat := none

/-- Whether the node directly above is a whole module. Without a node above this cannot be told. -/
def underModule (n : Node) : List Link → Check Bool
  | [] => throw (.missingAttribute n.kind.spelling "parent")
  | link :: _ => pure (link.node.kind == .program)

/-! ### Modules and imports -/

def checkConstant (target : Value) : Check Unit := do
  if target.isKind .name then
    let x ← textAttr target .ident
    let line ← lineOf target
    modify fun a => { a with moduleLevel := a.moduleLevel.put x line }
    reportIf (!constantCase.accepts x && isUpper x) (.constantName x) target

def checkStatement (v : Value) : Check Unit := do
  if v.isKind .assign then (← membersAttr v .targets).forM checkConstant

def enterModule (n : Node) : Check Unit := do
  modify fun a => { a with current := .global }
  (← membersAttr (.node n) .body).forM checkStatement

def itemName (item : Value) : Check String := do
  let asName ← attr item .otherName
  if asName.isFalsy then textAttr item .name else textOf asName

def recordImport (n : Node) (item : Value) : Check Unit := do
  let x ← itemName item
  let line ← lineOf (.node n)
  modify fun a => { a with imports := insertNew (x, line) a.imports }
  modify (·.bind x .imported)

def enterImport (n : Node) : Check Unit := do
  let names ← attr (.node n) .names
  let count ← sizeOf names
  reportIf (1 < count) .severalImports (.node n)
  (← members names).forM (recordImport n)

def enterImportFrom (n : Node) : Check Unit := do
  (← membersAttr (.node n) .names).forM (recordImport n)

/-! ### Definitions -/

def enterClass (n : Node) : Check Unit := do
  let x ← textAttr (.node n) .name
  modify (·.bind x .classDef)
  modify fun a => { a with classNames := insertNew x a.classNames }
  reportIf (!capWords.accepts x) (.className x) (.node n)
  modify (·.push [])

def hasDocstring (n : Node) : Check Bool := do
  let body ← attr (.node n) .body
  if body.isFalsy then return false
  let first ← element body 0
  if !first.isKind .expr then return false
  let value ← attr first .value
  if !value.isKind .constant then return false
  match ← attr value .value with
  | .atom (.str s) => return isDocumentation s
  | _ => return false

def checkParameter (allowed : List String) (finding : String → Finding) (p : Value) :
    Check Unit := do
  let x ← textAttr p .argument
  reportIf (!snakeCase.accepts x && !allowed.contains x) (finding x) p

def checkDefault (function : String) (n : Node) (v : Value) : Check Unit := do
  reportIf (v.isKindIn [.listLit, .dictLit, .setLit]) (.mutableDefault function) (.node n)

def restParameter (p : Value) : List Value := if p.isFalsy then [] else [p]

def bindParameter (p : Value) : Check Unit := do
  let x ← textAttr p .argument
  modify (·.bind x .param)

def checkSignature (n : Node) (f : String) (params : Value) : Check Unit := do
  (← membersAttr params .positional).forM (checkParameter ["self", "cls"] (.argumentName · f))
  (restParameter (← attr params .restPositional)).forM (checkParameter [] (.restArgumentName · f))
  (restParameter (← attr params .restKeywords)).forM (checkParameter [] (.restKeywordName · f))
  (← membersAttr params .keywordOnly).forM (checkParameter [] (.keywordOnlyName · f))
  (← membersAttr params .defaults).forM (checkDefault f n)

/-- Binds all parameters but the positional-only ones. -/
def bindParameters (params : Value) : Check Unit := do
  (← membersAttr params .positional).forM bindParameter
  (restParameter (← attr params .restPositional)).forM bindParameter
  (restParameter (← attr params .restKeywords)).forM bindParameter
  (← membersAttr params .keywordOnly).forM bindParameter

def beginFunction (n : Node) (f : String) : Check Unit := do
  modify fun a => { a with currentFunction := some f }
  let line ← lineOf (.node n)
  modify (·.define f ⟨[], line⟩)
  modify (·.push [])

def enterFunction (n : Node) : Check Unit := do
  let f ← textAttr (.node n) .name
  reportIf (!isDunder f && !snakeCase.accepts f) (.functionName f) (.node n)
  let documented ← hasDocstring n
  reportIf (!documented) (.missingDocstring f) (.node n)
  let params ← attr (.node n) .positional
  checkSignature n f params
  beginFunction n f
  bindParameters params

def checkReturns (n : Node) : Check Unit := do
  let f ← textAttr (.node n) .name
  match (← get).definition? f with
  | none => throw (.unknownFunction f)
  | some r => reportIf (r.returns.any id && !r.returns.all id) (.mixedReturns f) (.node n)

def enterReturn (n : Node) : Check Unit := do
  match (← get).currentFunction with
  | none => pure ()
  | some f =>
    if !f.isEmpty then
      let v ← attr (.node n) .value
      match (← get).definition? f with
      | none => throw (.unknownFunction f)
      | some _ => modify (·.addReturn f (!v.isNone))

/-! ### Assignments and names -/

def checkLambda (n : Node) (value : Value) : Check Unit := do
  if value.isKind .lambda then
    let targets ← attr (.node n) .targets
    if (← sizeOf targets) == 1 then
      let target ← element targets 0
      if target.isKind .name then
        let x ← textAttr target .ident
        report (.lambdaAssigned x) (← lineOf (.node n))

def enterAssign (above : List Link) (n : Node) : Check Unit := do
  checkLambda n (← attr (.node n) .value)
  (← membersAttr (.node n) .targets).forM fun target => do
    assign (← underModule n above) target

def enterName (n : Node) : Check Unit := do
  let context ← attr (.node n) .context
  if context.isKind .load then
    let x ← textAttr (.node n) .ident
    let defined := (← get).isDefined x
    reportIf (!defined) (.undefinedVariable x) (.node n)
    let line ← lineOf (.node n)
    modify fun a => { a with usages := a.usages.put x line }
    modify (·.markUsed x)
  else if context.isKind .store then
    let x ← textAttr (.node n) .ident
    if !(← get).currentScope.has x then modify (·.bind x .assigned)

def declareGlobal (v : Value) : Check Unit := do
  let x ← textOf v
  modify fun a =>
    { a with
      globalVars := insertNew x a.globalVars
      globalScope := a.globalScope.put x .global }

def declareNonlocal (v : Value) : Check Unit := do
  let x ← textOf v
  modify fun a => { a with nonlocalVars := insertNew x a.nonlocalVars }

/-! ### Loops -/

def enterLoop (n : Node) : Check Unit := do
  modify fun a => { a with loopDepth := a.loopDepth + 1 }
  let depth := (← get).loopDepth
  reportIf (2 < depth) .deepLoop (.node n)

def enterFor (above : List Link) (n : Node) : Check Unit := do
  enterLoop n
  modify (·.push [])
  let target ← attr (.node n) .target
  assign (← underModule n above) target

def isTrue (v : Value) : Check Bool := do
  if !v.isKind .constant then return false
  match ← attr v .value with
  | .atom (.bool b) => return b
  | _ => return false

def enterWhile (n : Node) : Check Unit := do
  enterLoop n
  let endless ← isTrue (← attr (.node n) .test)
  reportIf (endless && !n.contains .breakStmt) .endlessLoop (.node n)
  modify (·.push [])

/-! ### Expressions -/

def isConstant (test : Value → Bool) (v : Value) : Check Bool := do
  if v.isKind .constant then return test (← attr v .value) else return false

def isBoolValue : Value → Bool
  | .atom a => a.isBool
  | _ => false

def isTypeCall (v : Value) : Check Bool := do
  if !v.isKind .call then return false
  let callee ← attr v .callee
  if !callee.isKind .name then return false
  return (← textAttr callee .ident) == "type"

def checkEquality (n : Node) (left : Check Value) (operator right : Value) : Check Unit := do
  if operator.isKindIn [.eq, .notEq] then
    let leftNone ← isConstant Value.isNone (← left)
    let rightNone ← isConstant Value.isNone right
    reportIf (leftNone || rightNone) .comparedToNone (.node n)
    let leftBool ← isConstant isBoolValue (← left)
    let rightBool ← isConstant isBoolValue right
    reportIf (leftBool || rightBool) .comparedToBool (.node n)

def checkIdentity (n : Node) (left : Check Value) (operator right : Value) : Check Unit := do
  if operator.isKindIn [.isSame, .isNotSame] then
    let leftType ← isTypeCall (← left)
    let rightType ← isTypeCall right
    reportIf (leftType && rightType) .comparedTypes (.node n)

def checkComparison (n : Node) (left : Check Value) (operator right : Value) : Check Unit := do
  checkEquality n left operator right
  checkIdentity n left operator right

def checkComparisons (n : Node) (i : Nat) : List Value → Check Unit
  | [] => pure ()
  | operator :: rest => do
    let comparators ← attr (.node n) .comparators
    let right ← element comparators i
    let left := if i == 0 then attr (.node n) .left else element comparators (i - 1)
    checkComparison n left operator right
    checkComparisons n (i + 1) rest

def enterCompare (n : Node) : Check Unit := do
  checkComparisons n 0 (← membersAttr (.node n) .operators)

def isZeroValue : Value → Bool
  | .atom a => a.isZero
  | _ => false

def enterBinary (n : Node) : Check Unit := do
  if (← attr (.node n) .operator).isKindIn [.div, .floorDiv, .mod] then
    let zero ← isConstant isZeroValue (← attr (.node n) .right)
    reportIf zero .divisionByZero (.node n)

def checkHandler (h : Value) : Check Unit := do
  let body ← attr h .body
  reportIf body.isFalsy .emptyHandler h
  let type ← attr h .exceptionType
  if type.isNone then report .bareHandler (← lineOf h)
  else if type.isKind .name then
    let x ← textAttr type .ident
    reportIf (x == "Exception") .broadHandler h

def enterTry (n : Node) : Check Unit := do
  (← membersAttr (.node n) .handlers).forM checkHandler

def leadsDown (item : Option Nat) (i : Nat) : List Value → Check Bool
  | [] => pure false
  | v :: vs => do
    discard (attr v .contextExpr)
    if item = some i then pure true else leadsDown item (i + 1) vs

def manages (link : Link) : Check Bool := do
  if link.node.kind == .withStmt then
    leadsDown link.item 0 (← membersAttr (.node link.node) .items)
  else pure false

/-- Whether a `with` statement above has the node as the context of one of its items. -/
def isManaged : List Link → Check Bool
  | [] => pure false
  | link :: above => do
    if ← manages link then pure true else isManaged above

def checkOpen (above : List Link) (n : Node) (f : String) : Check Unit := do
  if f == "open" then
    let managed ← isManaged above
    reportIf (!managed) .unmanagedFile (.node n)

def enterCall (above : List Link) (n : Node) : Check Unit := do
  let callee ← attr (.node n) .callee
  if callee.isKind .name then
    let f ← textAttr callee .ident
    checkOpen above n f
    modify (·.markUsed f)
  else if callee.isKind .attributeOf then
    let object ← attr callee .value
    if object.isKind .name && !(← get).imports.isEmpty then
      let x ← textAttr object .ident
      modify (·.markUsed x)

/-! ### Entering and leaving -/

def enter (above : List Link) (n : Node) : Check Unit :=
  match n.kind with
  | .program => enterModule n
  | .importStmt => enterImport n
  | .importFrom => enterImportFrom n
  | .classDef => enterClass n
  | .functionDef => enterFunction n
  | .returnStmt => enterReturn n
  | .assign => enterAssign above n
  | .name => enterName n
  | .globalStmt => do (← membersAttr (.node n) .names).forM declareGlobal
  | .nonlocalStmt => do (← membersAttr (.node n) .names).forM declareNonlocal
  | .forLoop => enterFor above n
  | .whileLoop => enterWhile n
  | .compare => enterCompare n
  | .binOp => enterBinary n
  | .tryStmt => enterTry n
  | .call => enterCall above n
  | .constant => discard (attr (.node n) .value)
  | _ => pure ()

def closeScope (previous : ScopeRef) : Check Unit := do
  if (← get).scopes.isEmpty then throw .popFromEmpty
  else modify fun a => { a with scopes := a.scopes.dropLast, current := previous }

def leaveLoop (previous : ScopeRef) : Check Unit := do
  closeScope previous
  modify fun a => { a with loopDepth := a.loopDepth - 1 }

def leave (n : Node) (previous : ScopeRef) : Check Unit :=
  match n.kind with
  | .program => modify (·.reportUnusedImports)
  | .classDef => closeScope previous
  | .functionDef => do
    closeScope previous
    checkReturns n
    modify fun a => { a with currentFunction := none }
  | .forLoop => leaveLoop previous
  | .whileLoop => leaveLoop previous
  | _ => pure ()

def descends : Kind → Bool
  | .globalStmt => false
  | .nonlocalStmt => false
  | _ => true

mutual
def visit (above : List Link) : Node → Check Unit
  | .mk kind place fields => do
    let n := Node.mk kind place fields
    let previous := (← get).current
    enter above n
    if descends kind then visitFields (⟨n, none⟩ :: above) fields
    leave n previous
def visitFields (above : List Link) : List Field → Check Unit
  | [] => pure ()
  | .mk _ v :: fs => do
    visitValue above v
    visitFields above fs
def visitValue (above : List Link) : Value → Check Unit
  | .atom _ => pure ()
  | .node n => visit above n
  | .list vs => visitEach above vs
def visitEach (above : List Link) : List Value → Check Unit
  | [] => pure ()
  | .node n :: vs => do
    visit above n
    visitEach above vs
  | _ :: vs => visitEach above vs
end

/-! ### Nesting -/

def hasCheck : Kind → Bool
  | .program | .importStmt | .importFrom | .classDef | .functionDef | .returnStmt | .assign | .name
  | .globalStmt | .nonlocalStmt | .forLoop | .whileLoop | .compare | .binOp | .tryStmt | .call
  | .constant => true
  | _ => false

/-- How many calls stand inside each other while the children of a node are visited: one that looks
for the check, the check if there is one, and two that go through the children. -/
def callsOf (k : Kind) : Nat := if !descends k then 2 else if hasCheck k then 4 else 3

/-- How many calls a node takes by itself. Listing the children is one more. -/
def callsAt (k : Kind) : Nat := if descends k then callsOf k + 1 else callsOf k

mutual
def visitWithin (room : Nat) (above : List Link) : Node → Check Unit
  | .mk kind place fields => do
    if room < callsAt kind then throw .tooDeep
    let n := Node.mk kind place fields
    let previous := (← get).current
    enter above n
    if descends kind then visitFieldsWithin (room - callsOf kind) (⟨n, none⟩ :: above) fields
    leave n previous
def visitFieldsWithin (room : Nat) (above : List Link) : List Field → Check Unit
  | [] => pure ()
  | .mk _ v :: fs => do
    visitValueWithin room above v
    visitFieldsWithin room above fs
def visitValueWithin (room : Nat) (above : List Link) : Value → Check Unit
  | .atom _ => pure ()
  | .node n => visitWithin room above n
  | .list vs => visitEachWithin room above vs
def visitEachWithin (room : Nat) (above : List Link) : List Value → Check Unit
  | [] => pure ()
  | .node n :: vs => do
    visitWithin room above n
    visitEachWithin room above vs
  | _ :: vs => visitEachWithin room above vs
end

end CodeLint.Lint
