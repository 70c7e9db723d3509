import CodeLint.Lint.Analyzer
import CodeLint.Number.Nearest
import CodeLint.Text.Blank
import CodeLint.Window.Action
import CodeLint.Window.Files
import CodeLint.Window.Index

/-!
The window: a pane to enter code, a pane for the issues found in it, and a margin with the numbers
of the visible lines. An event changes the panes and lists the actions that did so. An event that
fails keeps the actions done before.
-/

namespace CodeLint.Window

open CodeLint.Number CodeLint.Text

structure Row where
  top : Int
  height : Int

/-- The panes, the view of the code, the files that can be opened, and how many calls an analysis
can nest. -/
structure State where
  code : String := ""
  results : String := ""
  rows : List Row := []
  first : Int := 1
  width : Int := 40
  files : FileSystem := emptyDisk
  room : Nat := 1000

inductive Item
  | text (s : String)
  | other (type : String)

inductive Turn
  | whole (i : Int)
  | real (x : Double)
  | other (type : String)

inductive Fault
  | notAnalyzed (f : Lint.Fault)
  | itemNotText (index : Nat) (type : String)
  | notSearchable (type : String)
  | tooManyDigits (count : Nat)
  | notWhole (text : String)
  | notDivisible (type : String)
  | quotientTooLarge
  | infiniteTurn
  | undefinedTurn

def Fault.message : Fault → String
  | notAnalyzed f => f.message
  | itemNotText i type =>
    "sequence item " ++ toString i ++ ": expected str instance, " ++ type ++ " found"
  | notSearchable type => "expected string or bytes-like object, got '" ++ type ++ "'"
  | tooManyDigits n =>
    "Exceeds the limit (4300 digits) for integer string conversion: value has " ++ toString n ++
      " digits; use sys.set_int_max_str_digits() to increase the limit"
  | notWhole text => "invalid literal for int() with base 10: " ++ quoted text
  | notDivisible type => "unsupported operand type(s) for /: '" ++ type ++ "' and 'int'"
  | quotientTooLarge => "integer division result too large for a float"
  | infiniteTurn => "cannot convert float infinity to integer"
  | undefinedTurn => "cannot convert float NaN to integer"

/-- A window with the actions done so far, reversed. -/
structure Progress where
  window : State
  actions : List Action

/-- Something that happens in the window. When it fails, what was done before stays done. -/
abbrev Event := ExceptT Fault (StateM Progress)

def act (a : Action) : Event Unit := modify fun p => { p with actions := a :: p.actions }

def update (f : State → State) : Event Unit := modify fun p => { p with window := f p.window }

/-! ### Results -/

def badItem? : Nat → List Item → Option (Nat × String)
  | _, [] => none
  | i, .text _ :: items => badItem? (i + 1) items
  | i, .other type :: _ => some (i, type)

def Item.shown : Item → String
  | .text s => s
  | .other _ => ""

def noIssues : String := "no issues found!"

def showResults (items : List Item) : Event Unit := do
  act .unlockResults
  act .clearResults
  update fun w => { w with results := "" }
  match badItem? 0 items with
  | some (i, type) => throw (.itemNotText i type)
  | none => pure ()
  let text := if items.isEmpty then noIssues else "\n".intercalate (items.map Item.shown)
  act (.insertResults text)
  update fun w => { w with results := w.results ++ text }
  act .lockResults

/-- The digits behind the first `line ` that digits follow. -/
def lineDigits? : List Char → Option (List Char)
  | [] => none
  | c :: cs =>
    let word := "line ".toList
    let ds := ((c :: cs).drop word.length).takeWhile isDigit
    if word.isPrefixOf (c :: cs) && !ds.isEmpty then some ds else lineDigits? cs

def highlightItem : Item → Event Unit
  | .other type => throw (.notSearchable type)
  | .text s =>
    match lineDigits? s.toList with
    | none => pure ()
    | some ds =>
      if ds.length > Source.maxDigits then throw (.tooManyDigits ds.length)
      else act (.highlight (lineStart (numeral ds)) (lineEnd (numeral ds)))

def highlight (items : List Item) : Event Unit := do
  act .removeHighlights
  items.forM highlightItem
  act .styleHighlights

def analyze : Event Unit := do
  act .readCode
  let text := (trimRight ((← get).window.code ++ "\n").toList)
  if (trim text).isEmpty then
    act (.showError "ERROR" "Please enter or upload code for analysis.")
  else
    match Lint.issues (← get).window.room (.text (String.ofList text)) with
    | .error f => throw (.notAnalyzed f)
    | .ok found =>
      showResults (found.map Item.text)
      highlight (found.map Item.text)

/-! ### The margin -/

def State.rowAt? (w : State) (index : String) : Option Row :=
  match lineOf? index with
  | some line => if line < w.first then none else w.rows[(line - w.first).toNat]?
  | none => none

def State.rowsFrom (w : State) (index : String) : Nat :=
  w.rows.length - ((lineOf? index).getD 0 - w.first).toNat

theorem State.rowsFrom_nextLine {w : State} {index : String} {row : Row}
    (h : w.rowAt? index = some row) : w.rowsFrom (nextLine index) < w.rowsFrom index := by
  unfold State.rowAt? at h
  cases hline : lineOf? index with
  | none =>
    rw [hline] at h
    cases h
  | some line =>
    simp only [hline] at h
    by_cases hbefore : line < w.first
    · rw [if_pos hbefore] at h
      cases h
    · rw [if_neg hbefore] at h
      have hvisible : (line - w.first).toNat < w.rows.length := (List.getElem?_eq_some_iff.mp h).1
      simp only [State.rowsFrom, nextLine, lineOf?_lineStart, hline, Option.getD_some]
      omega

def bandColor (line : Int) : String := if line % 2 == 0 then "#D3D3D3" else "#FFFFFF"

def numberLeft : Int := 2

/-- Draws the rows from an index on, as long as there is a row at the index. The number of a line is
taken from the index, and the next index is asked for. -/
def drawRows (w : State) (index : String) : Event Unit := do
  act (.askLine index)
  match _hrow : w.rowAt? index with
  | none => pure ()
  | some row =>
    let text := printedLine index
    match whole? text with
    | none => throw (.notWhole text)
    | some line =>
      act .askWidth
      act (.drawBand (bandColor line) 0 row.top w.width (row.top + row.height))
      act (.drawNumber text numberLeft row.top)
      act (.askNext index)
      drawRows w (nextLine index)
termination_by w.rowsFrom index
decreasing_by exact State.rowsFrom_nextLine _hrow

def drawMargin : Event Unit := do
  act .clearMargin
  act .askTop
  let w := (← get).window
  drawRows w (lineStart w.first)

def scroll (arguments : List Json) : Event Unit := do
  act (.scrollCode arguments)
  act (.scrollMargin arguments)
  drawMargin

def turnUnit : Double := .ofInt 120

def opposite (negative : Bool) (b : Binary) : Int :=
  if negative then (b.floor : Int) else -(b.floor : Int)

/-- The lines to move for a turn of the wheel: against it, one for every unit, rounded to a
floating-point number first and then toward zero. -/
def linesFor : Turn → Except Fault Int
  | .other type => .error (.notDivisible type)
  | .whole i =>
    match Double.ofRatio (i < 0) ⟨i.natAbs, 120⟩ with
    | .finite s b => .ok (opposite s b)
    | _ => .error .quotientTooLarge
  | .real x =>
    match x.div turnUnit with
    | .finite s b => .ok (opposite s b)
    | .infinite _ => .error .infiniteTurn
    | .undefined => .error .undefinedTurn

def turnWheel (t : Turn) : Event Unit := do
  match linesFor t with
  | .error f => throw f
  | .ok n =>
    act (.moveCode n)
    act (.moveMargin n)
    drawMargin

/-! ### Files -/

def openFile (path : String) : Event Unit := do
  if path.isEmpty then return
  match readFile (← get).window.files path with
  | .error e => act (.showError "error" ("failed to open file: " ++ e))
  | .ok text =>
    act .clearCode
    act (.insertCode text)
    update fun w => { w with code := text }
    drawMargin

/-! ### Events -/

inductive Input
  | type (text : String)
  | view (rows : List Row) (first width : Int)
  | analyze
  | display (items : List Item)
  | highlight (items : List Item)
  | numbers
  | scroll (arguments : List Json)
  | wheel (turn : Turn)
  | disk (files : FileSystem)
  | upload (path : String)

def Input.event : Input → Event Unit
  | .type text => update fun w => { w with code := text }
  | .view rows first width => update fun w => { w with rows, first, width }
  | .analyze => Window.analyze
  | .display items => showResults items
  | .highlight items => Window.highlight items
  | .numbers => drawMargin
  | .scroll arguments => Window.scroll arguments
  | .wheel turn => turnWheel turn
  | .disk files => update fun w => { w with files }
  | .upload path => openFile path

structure Outcome where
  actions : List Action
  code : String
  results : String
  fault : Option Fault

def Input.outcome (i : Input) (w : State) : Outcome × State :=
  match i.event.run.run ⟨w, []⟩ with
  | (r, p) =>
    let fault := match r with
      | .ok _ => none
      | .error f => some f
    (⟨p.actions.reverse, p.window.code, p.window.results, fault⟩, p.window)

def runInputs : List Input → State → List Outcome
  | [], _ => []
  | i :: is, w =>
    let (o, w) := i.outcome w
    o :: runInputs is w

end CodeLint.Window
