import CodeLint.Measure.Runner
import CodeLint.Text.Split

/-!
The history of rounds. Every round adds a line in JSON to a file. Its lines that are not blank are
the rounds so far. Reading them gives the time of the last round and the counts of benches below the
floor. A line that cannot be read ends the reading.
-/

namespace CodeLint.Measure

open CodeLint.Number CodeLint.Text

def recordLines (text : Option String) : List String :=
  ((splitAt '\n' (text.getD "").toList).filter fun line => !(trim line).isEmpty).map String.ofList

structure History where
  lastTime : Option Json := none
  counts : List Int := []

def countOf? : Option Json → Option Int
  | some (.int i) => some i
  | some (.bool b) => some (if b then 1 else 0)
  | _ => none

def History.add (h : History) (j : Json) : History :=
  { lastTime := j.member? "ts"
    counts := h.counts ++ (countOf? (j.member? "n_below_repo_time")).toList }

/-- Reads lines on, and says whether all could be read. -/
def History.read (h : History) : List String → History × Bool
  | [] => (h, true)
  | line :: lines =>
    match Json.read line with
    | .ok (.object ms) => (h.add (.object ms)).read lines
    | _ => (h, false)

def History.elapsed (h : History) (now : Double) : Option Double :=
  match h.lastTime with
  | none => some .zero
  | some j =>
    if isEmptyJson j then some .zero
    else match j with
      | .int i => some ((now.sub (.ofInt i)).roundTo 2)
      | .real x => some ((now.sub x).roundTo 2)
      | .bool b => some ((now.sub (.ofInt (if b then 1 else 0))).roundTo 2)
      | _ => none

/-! ### Convergence -/

/-- The best count so far and how many rounds ago it was first reached. -/
structure Progress where
  best : Int
  since : Nat
  deriving DecidableEq

def Progress.step : Option Progress → Int → Progress
  | none, n => ⟨n, 0⟩
  | some p, n => if n < p.best then ⟨n, 0⟩ else ⟨p.best, p.since + 1⟩

def progress (counts : List Int) : Option Progress :=
  counts.foldl (fun p n => some (Progress.step p n)) none

inductive Stop
  | allAbove
  | noImprovement (since : Nat) (best : Int)
  deriving DecidableEq

def patience : Nat := 3

def stopFor (earlier : List Int) (count : Int) : Option Stop :=
  if count = 0 then some .allAbove
  else match progress (earlier ++ [count]) with
    | some p => if p.since ≥ patience then some (.noImprovement p.since p.best) else none
    | none => none

def Stop.text : Stop → String
  | allAbove => "0 below"
  | noImprovement since best =>
    "no improvement in " ++ toString since ++ " rounds; best " ++ toString best ++ " below"

end CodeLint.Measure
