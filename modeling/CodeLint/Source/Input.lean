/-!
A text to be read: its characters, the number of its first line, and, for an expression that
stands inside a formatted text, the column at which it starts there. Line ends are one character,
and the text ends with one.
-/

namespace CodeLint.Source

structure Input where
  chars : Array Char
  firstLine : Nat := 1
  shift : Option Nat := none

/-- How far a text has been read: the line reached, the number of characters read, the bytes read
of the line, where the line starts, and where the stretch of lines starts that is still kept. -/
structure Mark where
  line : Nat
  offset : Nat := 0
  bytes : Nat := 0
  lineStart : Nat := 0
  keptFrom : Nat := 0
  deriving Inhabited

def unifyLineEnds : List Char → List Char
  | [] => []
  | '\r' :: '\n' :: cs => '\n' :: unifyLineEnds cs
  | '\r' :: cs => '\n' :: unifyLineEnds cs
  | c :: cs => c :: unifyLineEnds cs

/-- Whether a line end is missing at the end of the text. A carriage return with a line feed at
the very end does not count as one. -/
def lacksLineEnd (cs : List Char) : Bool :=
  match cs.reverse with
  | '\n' :: '\r' :: _ => true
  | '\n' :: _ => false
  | '\r' :: _ => false
  | _ => true

def Input.ofText (text : String) : Input :=
  let cs := text.toList
  ⟨(unifyLineEnds cs ++ if lacksLineEnd cs then ['\n'] else []).toArray, 1, none⟩

def Input.ofExpression (cs : List Char) (line shift : Nat) : Input :=
  ⟨('(' :: cs ++ [')', '\n']).toArray, line, some shift⟩

/-- The number of characters that start within the first bytes of a line. One more is counted
when the line is shorter than that. -/
def charactersWithin : List Char → Nat → Nat
  | [], bytes => if bytes = 0 then 0 else 1
  | c :: cs, bytes => if bytes = 0 then 0 else 1 + charactersWithin cs (bytes - c.utf8Size)

def dropLines : Nat → List Char → List Char
  | 0, cs => cs
  | _ + 1, [] => []
  | n + 1, c :: cs => if c == '\n' then dropLines n cs else dropLines (n + 1) cs

def Input.keptText (i : Input) (m : Mark) : List Char :=
  let read := (i.chars.extract m.keptFrom m.offset).toList
  if m.offset > m.lineStart && i.chars[m.offset - 1]? == some '\n' then read
  else
    let ahead := (i.chars.extract m.offset i.chars.size).toList
    read ++ ahead.takeWhile (· != '\n') ++ ['\n']

def Input.lineText (i : Input) (line : Nat) : List Char :=
  (dropLines (line - i.firstLine) i.chars.toList).takeWhile (· != '\n')

/-- The column that is reported for a number of bytes on a line. Of a line not yet left, the kept
stretch is counted. Inside a formatted text, bytes are reported as they are. -/
def Input.column (i : Input) (m : Mark) (line bytes : Nat) : Int :=
  match i.shift with
  | some k => (bytes : Int) - k
  | none => charactersWithin (if m.line ≤ line then i.keptText m else i.lineText line) bytes

end CodeLint.Source
