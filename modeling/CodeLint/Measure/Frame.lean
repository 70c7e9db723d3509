import CodeLint.Text.Split

/-!
Frames of the repository. A profile names files; a file belongs to the repository when its path,
made absolute and normalised, lies below the root and is neither the file of the benches, nor one
of the measuring programs, nor in a directory of code from elsewhere.
-/

namespace CodeLint.Measure

open CodeLint.Text

/-! ### Paths -/

def root : String := "/repo"

/-- Empty parts and dots stay where they are, and two dots are a step up. -/
def stepInto (above : List (List Char)) (part : List Char) : List (List Char) :=
  if part == [] || part == ['.'] then above
  else if part == ['.', '.'] then above.dropLast
  else above ++ [part]

def normalParts (parts : List (List Char)) : List (List Char) := parts.foldl stepInto []

def isDoubled : List Char → Bool
  | '/' :: '/' :: rest => rest.head? != some '/'
  | _ => false

/-- An absolute path without needless parts. Exactly two slashes in front stay. -/
def normalPath (path : List Char) : List Char :=
  (if isDoubled path then ['/', '/'] else ['/']) ++
    ['/'].intercalate (normalParts (splitAt '/' path))

def isAbsolute (path : List Char) : Bool := path.head? == some '/'

def realPath (path : List Char) : List Char :=
  normalPath (if isAbsolute path then path else root.toList ++ '/' :: path)

def relativePath (path : List Char) : List Char :=
  let parts := normalParts (splitAt '/' path)
  let seen := if parts.head? == some "repo".toList then parts.tail else ['.', '.'] :: parts
  if seen.isEmpty then ['.'] else ['/'].intercalate seen

def lastPart (path : List Char) : List Char := (splitAt '/' path).getLastD []

/-! ### Patterns -/

inductive Piece
  | any
  | char (c : Char)
  deriving DecidableEq

def pattern (s : String) : List Piece := s.toList.map fun c => if c == '*' then .any else .char c

def suffixes {α : Type} : List α → List (List α)
  | [] => [[]]
  | a :: as => (a :: as) :: suffixes as

/-- Whether a whole text fits a pattern, in which a star stands for any characters. -/
def fits : List Piece → List Char → Bool
  | [], cs => cs.isEmpty
  | .char _ :: _, [] => false
  | .char c :: ps, d :: cs => c == d && fits ps cs
  | .any :: ps, cs => (suffixes cs).any (fits ps)

def foreignPatterns : List String :=
  ["*/site-packages/*", "*/dist-packages/*", "*/.venv/*", "*/venv/*", "*/.tox/*",
   "*/node_modules/*", "*/vendor/*", "*/vendored/*", "*/_vendor/*", "*/third_party/*",
   "*/thirdparty/*", "*/build/*", "*/dist/*", "*/.eggs/*", "*.egg-info/*"]

def isForeign (path : List Char) : Bool := foreignPatterns.any fun p => fits (pattern p) path

/-! ### Frames -/

def benchFile : String := root ++ "/microbench.py"

def ownMark : String := "_pti_"

def isRepoFrame (file : String) : Bool :=
  let path := realPath file.toList
  file.toList.head? != some '~' && file.toList.head? != some '<' &&
    (root ++ "/").toList.isPrefixOf path && path != benchFile.toList &&
    !ownMark.toList.isPrefixOf (lastPart path) && !isForeign path

end CodeLint.Measure
