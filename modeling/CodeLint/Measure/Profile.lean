import CodeLint.Measure.Frame
import CodeLint.Number.Fixed

/-!
Profiles: the time that each function took on its own, and the total. Each profiled run uses the
next profile at hand; when none is left, profiles are empty.
-/

namespace CodeLint.Measure

open CodeLint.Number

structure Timing where
  file : String
  time : Double

structure Profile where
  timings : List Timing := []
  total : Double := .zero

def sumTimes (ts : List Timing) : Double := ts.foldl (fun x t => x.add t.time) .zero

def takeProfile : List Profile → Profile × List Profile
  | [] => ({}, [])
  | p :: ps => (p, ps)

def Profile.repoTime (p : Profile) : Double :=
  sumTimes (p.timings.filter fun t => isRepoFrame t.file)

def isCompiled (file : String) : Bool :=
  file == "~" || file.endsWith ".so" || file.endsWith ".pyd"

def Profile.compiledTime (p : Profile) : Double :=
  sumTimes (p.timings.filter fun t => isCompiled t.file && !isRepoFrame t.file)

def Profile.fraction (p : Profile) (time : Double) : Double :=
  if Double.zero.lt p.total then time.div p.total else .zero

end CodeLint.Measure
