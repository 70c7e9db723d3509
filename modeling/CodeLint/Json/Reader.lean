import CodeLint.Json.Basic
import CodeLint.Source.Number

/-!
Reading JSON. Where the text is not in the format, reading stops with a fault, which keeps how
many characters were left there. Numbers that are not finite are read by their names.
-/

namespace CodeLint.Json

open CodeLint.Source (hexNumber isHexDigit realNumber decimalNumber characterOf maxDigits)

inductive Reason
  | expectedValue
  | expectedName
  | expectedColon
  | expectedComma
  | extraData
  | unterminatedText
  | controlCharacter
  | invalidEscape
  | invalidNumberEscape
  | tooManyDigits (count : Nat)
  deriving DecidableEq

def Reason.text : Reason → String
  | expectedValue => "Expecting value"
  | expectedName => "Expecting property name enclosed in double quotes"
  | expectedColon => "Expecting ':' delimiter"
  | expectedComma => "Expecting ',' delimiter"
  | extraData => "Extra data"
  | unterminatedText => "Unterminated string starting at"
  | controlCharacter => "Invalid control character at"
  | invalidEscape => "Invalid \\escape"
  | invalidNumberEscape => "Invalid \\uXXXX escape"
  | tooManyDigits n =>
    "Exceeds the limit (4300 digits) for integer string conversion: value has " ++ toString n ++
      " digits; use sys.set_int_max_str_digits() to increase the limit"

/-- Why a text was refused, and how many of its characters were left at that place. -/
structure ReadFault where
  reason : Reason
  left : Nat
  deriving DecidableEq

def ReadFault.message (f : ReadFault) (text : String) : String :=
  match f.reason with
  | .tooManyDigits _ => f.reason.text
  | _ =>
    let before := text.toList.take (text.length - f.left)
    let line := before.count '\n' + 1
    let column := (before.reverse.takeWhile (· != '\n')).length + 1
    f.reason.text ++ ": line " ++ toString line ++ " column " ++ toString column ++
      " (char " ++ toString before.length ++ ")"

abbrev Reading := Except ReadFault

def refuse {α : Type} (reason : Reason) (left : List Char) : Reading α :=
  .error ⟨reason, left.length⟩

def isBlank (c : Char) : Bool := c == ' ' || c == '\t' || c == '\n' || c == '\r'

def skipBlanks (cs : List Char) : List Char := cs.dropWhile isBlank

def hex4? (cs : List Char) : Option Nat :=
  let ds := cs.take 4
  if ds.length = 4 && ds.all isHexDigit then some (hexNumber ds) else none

def shortEscape? : Char → Option Char
  | '"' => some '"'
  | '\\' => some '\\'
  | '/' => some '/'
  | 'b' => some '\x08'
  | 'f' => some '\x0c'
  | 'n' => some '\n'
  | 'r' => some '\r'
  | 't' => some '\t'
  | _ => none

/-- The character of an escape by number, which may take two of them. The text starts behind the
first `\u`, and something has to stand behind the digits. -/
def numberEscape? (cs : List Char) : Option (Char × List Char) :=
  match hex4? cs, cs.drop 4 with
  | none, _ => none
  | some _, [] => none
  | some n, rest =>
    if 0xD800 ≤ n && n ≤ 0xDBFF then
      match rest with
      | '\\' :: 'u' :: more =>
        match hex4? more with
        | some k =>
          if 0xDC00 ≤ k && k ≤ 0xDFFF then
            some (Char.ofNat (0x10000 + (n - 0xD800) * 1024 + (k - 0xDC00)), more.drop 4)
          else some (characterOf n, rest)
        | none => some (characterOf n, rest)
      | _ => some (characterOf n, rest)
    else some (characterOf n, rest)

/-- A text up to its closing quote, reversed. Fuel bounds the number of characters, and a text
that is not closed is at fault where it was opened. -/
def readText (opened : Nat) : Nat → List Char → List Char → Reading (List Char × List Char)
  | 0, _, _ => .error ⟨.unterminatedText, opened⟩
  | n + 1, cs, acc =>
    match cs with
    | [] => .error ⟨.unterminatedText, opened⟩
    | '"' :: rest => .ok (acc, rest)
    | '\\' :: 'u' :: rest =>
      match numberEscape? rest with
      | some (c, rest) => readText opened n rest (c :: acc)
      | none => refuse .invalidNumberEscape ('u' :: rest)
    | '\\' :: e :: rest =>
      match shortEscape? e with
      | some c => readText opened n rest (c :: acc)
      | none => refuse .invalidEscape cs
    | '\\' :: [] => .error ⟨.unterminatedText, opened⟩
    | c :: rest =>
      if c.toNat < 0x20 then refuse .controlCharacter cs else readText opened n rest (c :: acc)

def readString (rest : List Char) : Reading (String × List Char) := do
  let (acc, rest) ← readText (rest.length + 1) (rest.length + 1) rest []
  pure (String.ofList acc.reverse, rest)

def fractionPart : List Char → List Char
  | '.' :: r =>
    let ds := r.takeWhile Char.isDigit
    if ds.isEmpty then [] else '.' :: ds
  | _ => []

def exponentPart (cs : List Char) : List Char :=
  let sign := match cs with
    | e :: '+' :: _ => if e == 'e' || e == 'E' then [e, '+'] else []
    | e :: '-' :: _ => if e == 'e' || e == 'E' then [e, '-'] else []
    | e :: _ => if e == 'e' || e == 'E' then [e] else []
    | [] => []
  let digits := (cs.drop sign.length).takeWhile Char.isDigit
  if sign.isEmpty || digits.isEmpty then [] else sign ++ digits

def takeMinus : List Char → Bool × List Char
  | '-' :: cs => (true, cs)
  | cs => (false, cs)

def wholePart : List Char → List Char
  | '0' :: _ => ['0']
  | cs => cs.takeWhile Char.isDigit

def readNumber (cs : List Char) : Reading (Json × List Char) :=
  let (negative, body) := takeMinus cs
  let whole := wholePart body
  if whole.isEmpty then refuse .expectedValue cs
  else
    let rest := body.drop whole.length
    let part := fractionPart rest
    let power := exponentPart (rest.drop part.length)
    let rest := (rest.drop part.length).drop power.length
    if part.isEmpty && power.isEmpty then
      if whole.length > maxDigits then refuse (.tooManyDigits whole.length) rest
      else
        let n : Int := decimalNumber whole
        .ok (.int (if negative then -n else n), rest)
    else
      let x := realNumber (whole ++ part ++ power)
      .ok (.real (if negative then x.neg else x), rest)

def words : List (String × Json) :=
  [("null", .null), ("true", .bool true), ("false", .bool false), ("NaN", .real .undefined),
   ("Infinity", .real (.infinite false)), ("-Infinity", .real (.infinite true))]

def readWord (cs : List Char) : Option (Json × List Char) :=
  match words.find? fun w => w.1.toList.isPrefixOf cs with
  | some (w, j) => some (j, cs.drop w.length)
  | none => none

mutual
def readValue : Nat → List Char → Reading (Json × List Char)
  | 0, cs => refuse .expectedValue cs
  | n + 1, cs =>
    match skipBlanks cs with
    | '"' :: rest => do
      let (s, rest) ← readString rest
      pure (.text s, rest)
    | '[' :: rest =>
      match skipBlanks rest with
      | ']' :: rest => .ok (.list [], rest)
      | rest => do
        let (js, rest) ← readElements n rest
        pure (.list js, rest)
    | '\x7b' :: rest =>
      match skipBlanks rest with
      | '\x7d' :: rest => .ok (.object [], rest)
      | rest => do
        let (ms, rest) ← readMembers n rest
        pure (.object ms, rest)
    | cs =>
      match readWord cs with
      | some r => .ok r
      | none => readNumber cs
def readElements : Nat → List Char → Reading (List Json × List Char)
  | 0, cs => refuse .expectedValue cs
  | n + 1, cs => do
    let (j, rest) ← readValue n cs
    match skipBlanks rest with
    | ',' :: rest =>
      let (js, rest) ← readElements n rest
      pure (j :: js, rest)
    | ']' :: rest => pure ([j], rest)
    | rest => refuse .expectedComma rest
def readMembers : Nat → List Char → Reading (List (String × Json) × List Char)
  | 0, cs => refuse .expectedName cs
  | n + 1, cs =>
    match skipBlanks cs with
    | '"' :: rest => do
      let (name, rest) ← readString rest
      match skipBlanks rest with
      | ':' :: rest =>
        let (j, rest) ← readValue n rest
        match skipBlanks rest with
        | ',' :: rest =>
          let (ms, rest) ← readMembers n rest
          pure ((name, j) :: ms, rest)
        | '\x7d' :: rest => pure ([(name, j)], rest)
        | rest => refuse .expectedComma rest
      | rest => refuse .expectedColon rest
    | rest => refuse .expectedName rest
end

def read (s : String) : Reading Json := do
  let cs := s.toList
  let (j, rest) ← readValue (2 * cs.length + 2) cs
  match skipBlanks rest with
  | [] => pure j
  | left => .error ⟨.extraData, left.length⟩

def read? (s : String) : Option Json := (read s).toOption

end CodeLint.Json
