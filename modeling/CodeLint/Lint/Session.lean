import CodeLint.Lint.Analyzer

/-!
Sessions: one analysis that goes on through several steps. A step that stops with a fault keeps
the changes that it has made, and the session goes on.
-/

namespace CodeLint.Lint

open CodeLint.Tree

inductive Step
  | visit (s : Subject)
  | statements (s : Subject)
  | assign (target : Value) (atModule : Bool)
  | defined (name : String)
  | push (names : List String)
  | pop
  | enterFunction (name : String) (returns : List Bool) (line : Line)
  | consistency (v : Value)
  | withCall (v : Value) (item : Int)
  | addIssue (code message : String) (line : Line)
  | reportUnused
  | snapshot

inductive Reply
  | nothing
  | truth (b : Bool)
  | state (a : Analysis)

def Subject.read (s : Subject) : Check Node :=
  match s.tree with
  | .ok n => pure n
  | .error f => throw f

/-- The index into a list of that length; a negative one counts from the end. -/
def placeIn (length : Nat) (i : Int) : Check Nat :=
  let k := if i < 0 then i + length else i
  if 0 ≤ k ∧ k < length then pure k.toNat else throw .indexOutOfRange

def pushNames (names : List String) (a : Analysis) : Analysis :=
  a.push (names.foldl (fun s x => Ordered.put x Binding.assigned s) [])

def popScope : Check Unit := do
  if (← get).scopes.isEmpty then throw .popFromEmpty
  modify fun a =>
    let left := a.scopes.dropLast
    { a with
      scopes := left
      current := if left.isEmpty then .global else .level (left.length - 1) }

def visitItem (v : Value) (i : Int) : Check Unit := do
  let items ← membersAttr v .items
  let k ← placeIn items.length i
  let item ← element (.list items) k
  match ← attr item .contextExpr, v with
  | .node call, .node n => visit [⟨n, some k⟩] call
  | _, _ => pure ()

def Step.run : Step → Check Reply
  | .visit s => do
    Lint.visit [] (← s.read)
    return .nothing
  | .statements s => do
    (← membersAttr (.node (← s.read)) .body).forM fun v =>
      match v with
      | .node n => Lint.visit [] n
      | _ => pure ()
    return .nothing
  | .assign (.node n) atModule => do
    assignNode atModule n
    return .nothing
  | .assign _ _ => return .nothing
  | .defined x => do return .truth ((← get).isDefined x)
  | .push names => do
    modify (pushNames names)
    return .nothing
  | .pop => do
    popScope
    return .nothing
  | .enterFunction x returns line => do
    modify fun a => { a.define x ⟨returns, line⟩ with currentFunction := some x }
    return .nothing
  | .consistency (.node n) => do
    checkReturns n
    return .nothing
  | .consistency v => do
    discard (attr v .name)
    return .nothing
  | .withCall v i => do
    visitItem v i
    return .nothing
  | .addIssue code message line => do
    report (.note code message) line
    return .nothing
  | .reportUnused => do
    modify (·.reportUnused)
    return .nothing
  | .snapshot => do return .state (← get)

/-- A step of a session as it is shown: its reply or fault, the issues it added, and where the
analysis stands behind it. -/
structure StepResult where
  reply : Except Fault Reply
  added : List String
  scopeCount : Nat
  loopDepth : Nat
  function : Option String

def Step.result (s : Step) (a : Analysis) : StepResult × Analysis :=
  let (reply, b) := Check.apply s.run a
  let added := (b.issues.drop a.issues.length).map Issue.text
  (⟨reply, added, b.scopes.length, b.loopDepth, b.currentFunction⟩, b)

def runSteps : List Step → Analysis → List StepResult × Analysis
  | [], a => ([], a)
  | s :: ss, a =>
    let (r, a) := s.result a
    let (rs, a) := runSteps ss a
    (r :: rs, a)

/-- A snapshot shows each definition as it stands at the end: a return met later in a definition
that was met before counts there. -/
def StepResult.settle (last : Analysis) (r : StepResult) : StepResult :=
  match r.reply with
  | .ok (.state a) => { r with reply := .ok (.state { a with definitions := last.definitions }) }
  | _ => r

def runSession (steps : List Step) : List StepResult :=
  let (rs, last) := runSteps steps {}
  rs.map (·.settle last)

end CodeLint.Lint
