import CodeLint.Json.Basic
import CodeLint.Measure.Profile
import CodeLint.Measure.Suite
import CodeLint.Ordered

/-!
The share of the time of a bench that is spent in the repository, in percent, and the two places
outside it that take most. A bench that fails has the share minus one, and its failure stands in
the place of the others.
-/

namespace CodeLint.Measure

open CodeLint.Number

structure Share where
  percent : Double
  hottest : List (Double × String)

def hundred : Double := .ofInt 100

def percentOf (part total : Double) : Double := ((hundred.mul part).div total).roundTo 1

def placeName (file : String) : String :=
  if file == "~" then "builtins"
  else if realPath file.toList == benchFile.toList then "<run() body>"
  else
    let last := String.ofList (lastPart file.toList)
    if last == "" then file
    else if last.endsWith ".py" then String.ofList (last.toList.take (last.length - 3))
    else last

def placeTimes (ts : List Timing) : Ordered Double :=
  (ts.filter fun t => !isRepoFrame t.file).foldl (fun m t =>
    let name := placeName t.file
    m.put name ((m.get? name |>.getD .zero).add t.time)) []

def hotter (a b : Double × String) : Bool :=
  b.1.lt a.1 || (b.1.same a.1 && !(a.2 < b.2))

def hottestPlaces (p : Profile) : List (Double × String) :=
  let places := (placeTimes p.timings).map fun (name, t) => (percentOf t p.total, name)
  (places.mergeSort hotter).take 2

def Profile.share (p : Profile) : Share :=
  if Double.zero.lt p.total then ⟨percentOf p.repoTime p.total, hottestPlaces p⟩
  else ⟨.zero, []⟩

def failedShare (f : Failure) : Share := ⟨.ofInt (-1), [(.zero, f.mark)]⟩

def shares : List Bench → List Profile → List (String × Share)
  | [], _ => []
  | b :: bs, ps =>
    match b.timed with
    | .error f => (b.name, failedShare f) :: shares bs ps
    | .ok _ =>
      let (p, ps) := takeProfile ps
      (b.name, p.share) :: shares bs ps

def Share.placesJson (s : Share) : Json :=
  .list (s.hottest.map fun (x, name) => .list [.real x, .text name])

def sharesJson (ss : List (String × Share)) : Json :=
  .object
    [("repo_time_pct", .object (ss.map fun (k, s) => (k, .real s.percent))),
     ("hot_ext", .object (ss.map fun (k, s) => (k, s.placesJson)))]

end CodeLint.Measure
