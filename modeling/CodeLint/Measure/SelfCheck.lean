import CodeLint.Json.Basic
import CodeLint.Measure.Profile
import CodeLint.Measure.Suite
import CodeLint.Ordered

/-!
Self-checks: what a bench returns, whether it returns the same twice, and how the result and the
time depend on the parameters. A bench is called once as it is, once more with a profile, and then
for each of its parameters. What a call returns is known by its fingerprint. A call that fails, or
whose result has no fingerprint, ends the checks of that bench and is noted in the place of the
type.
-/

namespace CodeLint.Measure

open CodeLint.Number

structure Row where
  returnType : Option String := none
  stable : List String := []
  byParameter : Ordered String := []
  repoShare : Ordered Double := []
  compiledShare : Ordered Double := []
  repoMillis : Ordered Double := []
  parameters : List String := []

def defaultTag : String := "<default>"

def argumentTag (arguments : Arguments) : String :=
  ",".intercalate (arguments.map fun (k, v) => k ++ "=" ++ v.plain)

def Row.addProfile (r : Row) (tag : String) (p : Profile) : Row :=
  { r with
    repoShare := r.repoShare.put tag ((p.fraction p.repoTime).roundTo 3)
    compiledShare := r.compiledShare.put tag ((p.fraction p.compiledTime).roundTo 3)
    repoMillis := r.repoMillis.put tag ((p.repoTime.mul (.ofInt 1000)).roundTo 3) }

def Row.fail (r : Row) (f : Failure) : Row := { r with returnType := some f.mark }

abbrev Printing := Value → Except Failure String

structure Returned where
  type : String
  print : String

def Bench.returned (print : Printing) (b : Bench) (number : Nat) (arguments : Arguments) :
    Except Failure Returned := do
  let v ← b.call number arguments
  return ⟨v.typeName, ← print v⟩

def Row.addCall (r : Row) (tag : String) (v : Returned) (p : Profile) : Row :=
  Row.addProfile { r with byParameter := r.byParameter.put tag v.print } tag p

def checkParameters (print : Printing) (b : Bench) :
    Nat → List Arguments → Row → List Profile → Row × List Profile
  | _, [], r, ps => (r, ps)
  | k, a :: as, r, ps =>
    match b.returned print k a with
    | .error f => (r.fail f, ps)
    | .ok v =>
      let next := takeProfile ps
      checkParameters print b (k + 1) as (r.addCall (argumentTag a) v next.1) next.2

def parameterPrints (b : Bench) : List String :=
  b.parameters.flatMap fun a => a.map fun (_, v) => fingerprint v

def Bench.check (print : Printing) (b : Bench) (ps : List Profile) : Row × List Profile :=
  match b.returned print 0 [] with
  | .error f => (Row.fail {} f, ps)
  | .ok first =>
    let r : Row :=
      { returnType := some first.type
        stable := [first.print]
        parameters := parameterPrints b }
    match b.returned print 1 [] with
    | .error f => (r.fail f, ps)
    | .ok second =>
      let next := takeProfile ps
      let r := Row.addProfile { r with stable := [first.print, second.print] } defaultTag next.1
      checkParameters print b 2 b.parameters r next.2

def checks (print : Printing) : List Bench → List Profile → List (String × Row)
  | [], _ => []
  | b :: bs, ps =>
    let checked := b.check print ps
    (b.name, checked.1) :: checks print bs checked.2

/-! ### What is printed -/

def textList (ts : List String) : Json := .list (ts.map .text)

def numbersJson (ms : Ordered Double) : Json := .object (ms.map fun (k, x) => (k, .real x))

def Row.json (r : Row) : Json :=
  .object
    [("ret_type", Json.ofOption Json.text r.returnType), ("fp_stable", textList r.stable),
     ("fp_by_param", .object (r.byParameter.map fun (k, t) => (k, .text t))),
     ("repo_frac", numbersJson r.repoShare), ("ext_frac", numbersJson r.compiledShare),
     ("repo_tt_ms", numbersJson r.repoMillis), ("param_fps", textList r.parameters)]

def checksJson (rows : List (String × Row)) : Json :=
  .object [("semcheck", .object (rows.map fun (k, r) => (k, r.json)))]

end CodeLint.Measure
