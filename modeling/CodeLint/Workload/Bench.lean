import CodeLint.Lint.Session
import CodeLint.Window.Window
import CodeLint.Workload.Source

/-!
Benches: pieces of work to time, each of a size. A bench can be run again. One that keeps an
analysis or a window between its runs gives the same result every time all the same.
-/

namespace CodeLint.Workload

open CodeLint.Lint CodeLint.Tree

inductive Bench
  | naming
  | controlFlow
  | comparison
  | visiting
  | windowing
  | lookup
  | largeModule
  | unused
  deriving DecidableEq

inductive Result
  | issues (lists : List (List String))
  | counts (ns : List Nat)
  | truths (bs : List Bool)
  | texts (ts : List String)

def Bench.sizes : Bench → List Nat
  | naming => [250, 450, 800]
  | controlFlow => [300, 450, 800]
  | comparison => [250, 450, 800]
  | visiting => [250, 400, 700]
  | windowing => [300, 450, 800]
  | lookup => [500, 2000, 8000]
  | largeModule => [15, 40, 120]
  | unused => [300, 1200, 4800]

/-- What benches work with besides a size: how many calls an analysis can nest, the files that can
be opened, what is done in a window when its sources are analysed, and the targets that are assigned
besides the variables, each with whether it counts as one of the module. -/
structure Surroundings where
  room : Nat := 1000
  files : Window.FileSystem := Window.emptyDisk
  scrolled : List Json := []
  turned : Window.Turn := .whole 0
  chosen : List String := []
  targets : List (Node × Bool) := []

/-! ### Sources -/

def brokenFunction : String := "def broken(\n"

def brokenFunctionOf (n : Int) : String := "def broken_" ++ toString n ++ "(\n"

def issuesOf (room : Nat) (source : String) : Except Window.Fault (List String) :=
  (issues room (.text source)).mapError .notAnalyzed

def issueLists (room : Nat) (sources : List String) : Except Window.Fault Result :=
  .issues <$> sources.mapM (issuesOf room)

def issueCounts (room : Nat) (sources : List String) : Except Window.Fault Result :=
  (fun ls => .counts (ls.map List.length)) <$> sources.mapM (issuesOf room)

/-! ### Windows -/

def windowSources (n : Int) : List String :=
  [(Builder.controlFlow 0).source n, (Builder.controlFlow 1).source n,
   (Builder.naming 0).source n, ""]

def resultOf (source : String) : Window.Event String := do
  (Window.Input.type source).event
  Window.analyze
  return (← get).window.results

def Surroundings.closing (s : Surroundings) : List Window.Input :=
  [.display [], .numbers, .scroll s.scrolled, .wheel s.turned] ++ s.chosen.map .upload

def windowRun (s : Surroundings) (n : Int) : Window.Event (List String) := do
  let ts ← (windowSources n).mapM resultOf
  s.closing.forM Window.Input.event
  return ts

def windowRuns (s : Surroundings) (n : Int) :
    Nat → Window.State → List (Except Window.Fault (List String))
  | 0, _ => []
  | k + 1, w =>
    let (r, p) := (windowRun s n).run.run ⟨w, []⟩
    r :: windowRuns s n k p.window

/-! ### Looking up names -/

def localName (i : Nat) : String := "local_" ++ toString i

def globalName (i : Nat) : String := "gvar_" ++ toString i

def className (i : Nat) : String := "Klass" ++ toString i

def importName (i : Nat) : String := "imp_" ++ toString i

def missingName (i : Nat) : String := "missing_" ++ toString i

def importsOf (count : Nat) : List (String × Line) :=
  (List.range count).map fun i => (importName i, some (i + 1))

def populated : Analysis :=
  { scopes := [] :: (List.range 20).map fun i => [(localName i, .assigned)]
    globalScope := (List.range 50).map fun i => (globalName i, .assigned)
    classNames := (List.range 20).map className
    imports := importsOf 20 }

def lookedUp (i : Nat) : String :=
  match i % 6 with
  | 0 => localName (i % 20)
  | 1 => globalName (i % 50)
  | 2 => className (i % 20)
  | 3 => importName (i % 20)
  | 4 => "len"
  | _ => missingName i

def lookups (n : Int) : List Bool := (numbersBelow n).map fun i => populated.isDefined (lookedUp i)

/-! ### Unused variables -/

def variableName (i : Nat) : String := "var_" ++ toString i

def nameNode (x : String) (line : Nat) : Node :=
  .mk .name ⟨some line, 0, 0⟩
    [.mk .ident (.atom (.str x)), .mk .context (.node (.mk .store ⟨none, 0, 0⟩ []))]

def variableTargets (n : Int) : List Node :=
  (numbersBelow n).map fun i => nameNode (variableName i) (i + 1)

def beforeAssignments : Analysis :=
  { imports := importsOf 30, usages := [(variableName 0, some 1)] }

def assignTargets (targets : List (Node × Bool)) : Check Unit :=
  targets.forM fun (n, atModule) => assignNode atModule n

/-- Assigns the variables and the other targets, forgets the issues of that, and reports what is
unused. -/
def unusedRun (s : Surroundings) (n : Int) : Check (List String) := do
  assignTargets ((variableTargets n).map (·, false) ++ s.targets)
  modify fun a => { a with issues := [] }
  modify (·.reportUnused)
  return (← get).texts

def unusedRuns (s : Surroundings) (n : Int) : Nat → Analysis → List (Except Fault (List String))
  | 0, _ => []
  | k + 1, a =>
    let (r, a) := (unusedRun s n).apply a
    r :: unusedRuns s n k a

def Bench.results (s : Surroundings) (b : Bench) (n : Int) (runs : Nat) :
    List (Except Window.Fault Result) :=
  match b with
  | naming =>
    List.replicate runs
      (issueLists s.room [(Builder.naming 0).source n, (Builder.naming 1).source n])
  | controlFlow =>
    List.replicate runs (issueLists s.room
      [(Builder.controlFlow 0).source n, (Builder.controlFlow 1).source n, brokenFunction])
  | comparison =>
    List.replicate runs
      (issueLists s.room [(Builder.comparison 0).source n, (Builder.comparison 1).source n])
  | visiting =>
    List.replicate runs (issueCounts s.room
      [(Builder.naming 0).source n, (Builder.controlFlow 0).source n,
       (Builder.comparison 0).source n])
  | windowing =>
    (windowRuns s n runs { files := s.files, room := s.room }).map (Result.texts <$> ·)
  | lookup => List.replicate runs (.ok (.truths (lookups n)))
  | largeModule =>
    List.replicate runs (issueLists s.room [(Builder.large n).source 350, brokenFunctionOf n])
  | unused =>
    (unusedRuns s n runs beforeAssignments).map fun r =>
      Result.texts <$> r.mapError .notAnalyzed

end CodeLint.Workload
