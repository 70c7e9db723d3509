/-!
What the analysis reports. A finding says what is wrong, an issue adds the line. Each finding has
a code and a message; `Issue.text` is the line that is shown.
-/

namespace CodeLint.Lint

abbrev Line := Option Int

def lineText : Line → String
  | some i => toString i
  | none => "None"

inductive Finding
  | undefinedVariable (name : String)
  | unusedVariable (name : String)
  | unusedImport (name : String)
  | severalImports
  | builtInRedefined (name : String)
  | constantName (name : String)
  | variableName (name : String)
  | className (name : String)
  | functionName (name : String)
  | argumentName (name function : String)
  | restArgumentName (name function : String)
  | restKeywordName (name function : String)
  | keywordOnlyName (name function : String)
  | missingDocstring (function : String)
  | mutableDefault (function : String)
  | mixedReturns (function : String)
  | lambdaAssigned (name : String)
  | deepLoop
  | endlessLoop
  | comparedToNone
  | comparedToBool
  | comparedTypes
  | divisionByZero
  | emptyHandler
  | bareHandler
  | broadHandler
  | unmanagedFile
  | note (code message : String)
  deriving DecidableEq

namespace Finding

def code : Finding → String
  | undefinedVariable _ => "E0602"
  | unusedVariable _ => "W0612"
  | unusedImport _ => "W0611"
  | severalImports => "E401"
  | builtInRedefined _ => "W0622"
  | constantName _ => "C0103"
  | variableName _ => "C0103"
  | className _ => "C0103"
  | functionName _ => "C0103"
  | argumentName _ _ => "C0103"
  | restArgumentName _ _ => "C0103"
  | restKeywordName _ _ => "C0103"
  | keywordOnlyName _ _ => "C0103"
  | missingDocstring _ => "C0111"
  | mutableDefault _ => "W0102"
  | mixedReturns _ => "W0631"
  | lambdaAssigned _ => "E731"
  | deepLoop => "C0200"
  | endlessLoop => "W0104"
  | comparedToNone => "E711"
  | comparedToBool => "E712"
  | comparedTypes => "E721"
  | divisionByZero => "E0001"
  | emptyHandler => "W0702"
  | bareHandler => "E722"
  | broadHandler => "W0703"
  | unmanagedFile => "W6001"
  | note c _ => c

def message : Finding → String
  | undefinedVariable x => "Undefined variable '" ++ x ++ "'"
  | unusedVariable x => "Unused variable '" ++ x ++ "'"
  | unusedImport x => "Unused import '" ++ x ++ "'"
  | severalImports => "Multiple imports on one line"
  | builtInRedefined x => "Redefining built-in '" ++ x ++ "'"
  | constantName x => "Constant '" ++ x ++ "' should be in UPPER_CASE_WITH_UNDERSCORES"
  | variableName x => "Variable '" ++ x ++ "' should be in snake_case"
  | className x => "Class '" ++ x ++ "' should be in CapWords (CamelCase) format"
  | functionName x => "Function '" ++ x ++ "' should be in snake_case"
  | argumentName x f => "Argument '" ++ x ++ "' in function '" ++ f ++ "' should be in snake_case"
  | restArgumentName x f =>
    "Variable argument '*" ++ x ++ "' in function '" ++ f ++ "' should be in snake_case"
  | restKeywordName x f =>
    "Keyword argument '**" ++ x ++ "' in function '" ++ f ++ "' should be in snake_case"
  | keywordOnlyName x f =>
    "Keyword-only argument '" ++ x ++ "' in function '" ++ f ++ "' should be in snake_case"
  | missingDocstring f => "Function '" ++ f ++ "' is missing a docstring"
  | mutableDefault f => "Mutable default argument in function '" ++ f ++ "'"
  | mixedReturns f => "Inconsistent return statements in function '" ++ f ++ "'"
  | lambdaAssigned x =>
    "Do not assign a lambda expression, use a 'def' for '" ++ x ++ "'"
  | deepLoop => "Nested loop too deep"
  | endlessLoop => "Possible infinite loop (while True without break)"
  | comparedToNone => "Comparison to None should be 'is None' or 'is not None'"
  | comparedToBool =>
    "Comparison to True/False should be 'is True/False' or direct use of boolean"
  | comparedTypes => "Do not compare types directly, use isinstance()"
  | divisionByZero => "Division by zero"
  | emptyHandler => "Empty except block"
  | bareHandler => "Do not use bare 'except:'"
  | broadHandler => "Catching too general exception 'Exception'"
  | unmanagedFile => "File opened without 'with' statement"
  | note _ m => m

end Finding

structure Issue where
  finding : Finding
  line : Line
  deriving DecidableEq

def Issue.text (i : Issue) : String :=
  i.finding.code ++ ": " ++ i.finding.message ++ " (line " ++ lineText i.line ++ ")"

end CodeLint.Lint
