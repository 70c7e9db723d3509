/-!
Sources to analyse, made to size. Each begins with a block of imports, half of them of modules and
half of them of names from packages, and refers to what it imports. A tag keeps the names of one
source apart from those of another.
-/

namespace CodeLint.Workload

def moduleCount (n : Int) : Nat := max 1 (n / 2).toNat

def moduleName (k : Nat) : String := "mod_a_" ++ toString k

def packageName (k : Nat) : String := "pkg_b_" ++ toString k

def memberName (k : Nat) : String := "name_b_" ++ toString k

def numbersBelow (n : Int) : List Nat := List.range n.toNat

def moduleImport (k : Nat) : String := "import " ++ moduleName k

def memberImport (k : Nat) : String := "from " ++ packageName k ++ " import " ++ memberName k

def importLines (n : Int) : List String :=
  "import os, sys" :: (List.range (moduleCount n)).map moduleImport ++
    (numbersBelow (n - moduleCount n)).map memberImport

def referenceLine (family : String) (i : Nat) : String :=
  family ++ "_" ++ toString i ++ " = " ++ moduleName i

def referenceLines (family : String) (n : Int) : List String :=
  (numbersBelow n).map (referenceLine family)

def sourceText (lines : List String) : String := String.join (lines.map (· ++ "\n"))

/-! ### Templates -/

def filled (first second : String) (template : String) : String :=
  String.ofList (template.toList.flatMap fun c =>
    if c == '#' then first.toList else if c == '@' then second.toList else [c])

def tagged (tag : Int) (template : String) : String := filled (toString tag) "" template

def namingTemplates : List String :=
  ["Ä = 1",
   "MY_CONST = 2",
   "mixedCase# = 3",
   "aB# = 4",
   "__dunder__ = 5",
   "class my_class_#:",
   "    pass",
   "class GoodClass#:",
   "    attr = 1",
   "    attr = attr + mod_a_0.x",
   "def BadFunc#(BadArg, *VarArg, KwOnly=1, **KwArg):",
   "    x# = BadArg",
   "    return x#",
   "def good_func_#(a, b=[], c=\x7b\x7d, *args, kw_only=0, **kwargs):",
   "    '''doc.'''",
   "    global MY_CONST",
   "    def inner():",
   "        nonlocal a",
   "        return a",
   "    return inner",
   "def __init__(self):",
   "    self.value = 1"]

def namingEnd : List String :=
  ["call_# = name_b_0()",
   "print(os.path, sys.version, GoodClass#)"]

def controlFlowTemplates : List String :=
  ["def mixed_returns_#(flag):",
   "    if flag:",
   "        return 1",
   "    return",
   "def use_open_#():",
   "    '''doc.'''",
   "    f = open('x')",
   "    with open('y') as g:",
   "        g.read()",
   "    mod_a_0.helper()",
   "    return f",
   "for i# in range(3):",
   "    for j# in range(3):",
   "        for (k#, m#) in []:",
   "            while True:",
   "                pass",
   "while True:",
   "    break",
   "while x_cond:",
   "    break",
   "try:",
   "    a# = 1 / 0",
   "    b# = 1 // 0",
   "    c# = 1 % 0",
   "    d# = 1 + 0",
   "    e# = 1 / 2",
   "except Exception:",
   "    pass",
   "try:",
   "    undefined_#",
   "except:",
   "    pass",
   "try:",
   "    pass",
   "except ValueError:",
   "    pass",
   "list = [1, 2, 3]",
   "[p#, q#] = [1, 2]",
   "lam_# = lambda z: z",
   "lam2_#, other_# = (lambda z: z), 0"]

def comparisonTemplates : List String :=
  ["a# = 1",
   "b# = 2",
   "c# = 3",
   "r0 = a# == None",
   "r1 = None != a#",
   "r2 = a# == True",
   "r3 = False == a#",
   "r4 = a# == None == b#",
   "r5 = a# == True == b#",
   "r6 = type(a#) is type(b#)",
   "r7 = a# is type(b#) is type(c#)",
   "r8 = a# is b#",
   "r9 = a# == b#",
   "r10 = a# < b# < c#"]

/-- A class with a method. The second mark is the number of the imports that it uses. -/
def classTemplates : List String :=
  ["class Klass#:",
   "    def method_#(self, Arg#, *VA, **KW):",
   "        '''doc.'''",
   "        tmp_# = Arg# + mod_a_@.x",
   "        unused_# = name_b_@",
   "        chk_# = mod_a_@ + name_b_@ + mod_a_@ + name_b_@",
   "        if tmp_# == None:",
   "            return 1 / 0",
   "        for a_# in mod_a_@:",
   "            for b_# in mod_a_@:",
   "                for c_# in mod_a_@:",
   "                    pass",
   "        return tmp_#"]

/-! ### Builders -/

def callLine (i : Nat) : String := "cv_" ++ toString i ++ " = " ++ memberName i ++ "()"

def callLines (n : Int) : List String := (numbersBelow (min (n / 2) 50)).map callLine

def classLines (i k : Nat) : List String :=
  classTemplates.map (filled (toString i) (toString k))

inductive Builder
  | naming (tag : Int)
  | controlFlow (tag : Int)
  | comparison (tag : Int)
  | large (classes : Int)

def Builder.body (n : Int) : Builder → List String
  | .naming tag =>
    namingTemplates.map (tagged tag) ++ referenceLines "use" n ++ namingEnd.map (tagged tag)
  | .controlFlow tag =>
    controlFlowTemplates.map (tagged tag) ++ referenceLines "ref" n ++ callLines n
  | .comparison tag => comparisonTemplates.map (tagged tag) ++ referenceLines "cmp" n
  | .large classes =>
    referenceLines "gref" n ++
      (numbersBelow classes).flatMap fun i => classLines i (i % moduleCount n)

def Builder.source (b : Builder) (n : Int) : String := sourceText (importLines n ++ b.body n)

end CodeLint.Workload
