import CodeLint.Source.Fault

/-!
The extent of a number at the start of a text. A number that is not well formed gives a cause and
the count of characters up to the place of the fault.
-/

namespace CodeLint.Source

def isNameChar (c : Char) : Bool := c.isAlphanum || c == '_' || c.toNat ≥ 0x80

def isHexDigit (c : Char) : Bool :=
  c.isDigit || ('a' ≤ c && c ≤ 'f') || ('A' ≤ c && c ≤ 'F')

structure Extent where
  count : Nat
  rest : List Char

structure NumeralFault where
  cause : Cause
  count : Nat

abbrev Scan := Except NumeralFault

namespace Extent

def skip (e : Extent) : Extent := ⟨e.count + 1, e.rest.drop 1⟩

def skipWhile (p : Char → Bool) (e : Extent) : Extent :=
  ⟨e.count + (e.rest.takeWhile p).length, e.rest.dropWhile p⟩

def startsWith (p : Char → Bool) (e : Extent) : Bool :=
  match e.rest with
  | c :: _ => p c
  | [] => false

end Extent

def followsNumber (cs : List Char) : Bool :=
  ["and", "else", "for", "if", "in", "is", "or", "not"].any (·.toList.isPrefixOf cs)

def endNumber (kind : String) (e : Extent) : Scan Nat :=
  if e.startsWith isNameChar && !followsNumber e.rest then throw ⟨.invalidLiteral kind, e.count⟩
  else pure e.count

def digitGroups : Nat → Extent → Scan Extent
  | 0, e => pure e
  | n + 1, e =>
    let e := e.skipWhile Char.isDigit
    if e.startsWith (· == '_') then
      if e.skip.startsWith Char.isDigit then digitGroups n e.skip
      else throw ⟨.invalidLiteral "decimal", e.count + 1⟩
    else pure e

def digits (e : Extent) : Scan Extent := digitGroups (e.rest.length + 1) e

def radixGroups (isDigit : Char → Bool) (kind : String) : Nat → Extent → Scan Extent
  | 0, e => pure e
  | n + 1, e =>
    let e := if e.startsWith (· == '_') then e.skip else e
    if e.startsWith isDigit then
      let e := e.skipWhile isDigit
      if e.startsWith (· == '_') then radixGroups isDigit kind n e else pure e
    else match e.rest with
      | c :: _ =>
        if c.isDigit then throw ⟨.invalidDigit c kind, e.count + 1⟩
        else throw ⟨.invalidLiteral kind, e.count⟩
      | [] => throw ⟨.invalidLiteral kind, e.count⟩

def radixNumber (isDigit : Char → Bool) (kind : String) (e : Extent) : Scan Nat := do
  let e ← radixGroups isDigit kind (e.rest.length + 1) e
  match e.rest with
  | c :: _ => if c.isDigit then throw ⟨.invalidDigit c kind, e.count + 1⟩ else endNumber kind e
  | [] => endNumber kind e

def endReal (e : Extent) : Scan Nat :=
  if e.startsWith (fun c => c == 'j' || c == 'J') then endNumber "imaginary" e.skip
  else endNumber "decimal" e

/-- An exponent, if there is one. A letter that starts no exponent ends the number before it. -/
def exponent (e : Extent) : Scan Nat :=
  if e.startsWith (fun c => c == 'e' || c == 'E') then
    let letter := e.skip
    if letter.startsWith (fun c => c == '+' || c == '-') then
      if letter.skip.startsWith Char.isDigit then do endReal (← digits letter.skip)
      else throw ⟨.invalidLiteral "decimal", letter.skip.count⟩
    else if letter.startsWith Char.isDigit then do endReal (← digits letter)
    else endNumber "decimal" e
  else endReal e

def fraction (e : Extent) : Scan Nat :=
  if e.startsWith Char.isDigit then do exponent (← digits e) else exponent e

def zeroGroups : Nat → Extent → Scan Extent
  | 0, e => pure e
  | n + 1, e => do
    let e ←
      if e.startsWith (· == '_') then
        if e.skip.startsWith Char.isDigit then pure e.skip
        else throw ⟨.invalidLiteral "decimal", e.count + 1⟩
      else pure e
    if e.startsWith (· == '0') then zeroGroups n e.skip else pure e

def zeroNumber (e : Extent) : Scan Nat := do
  let e ← zeroGroups (e.rest.length + 1) e
  let nonzero := e.startsWith Char.isDigit
  let e ← if nonzero then digits e else pure e
  match e.rest with
  | '.' :: _ => fraction e.skip
  | c :: _ =>
    if c == 'e' || c == 'E' then exponent e
    else if c == 'j' || c == 'J' then endReal e
    else if nonzero then throw ⟨.leadingZeros, e.count⟩
    else endNumber "decimal" e
  | [] => if nonzero then throw ⟨.leadingZeros, e.count⟩ else endNumber "decimal" e

def numberExtent (cs : List Char) : Scan Nat :=
  match cs with
  | '0' :: c :: rest =>
    if c == 'x' || c == 'X' then radixNumber isHexDigit "hexadecimal" ⟨2, rest⟩
    else if c == 'o' || c == 'O' then
      radixNumber (fun d => '0' ≤ d && d ≤ '7') "octal" ⟨2, rest⟩
    else if c == 'b' || c == 'B' then radixNumber (fun d => d == '0' || d == '1') "binary" ⟨2, rest⟩
    else zeroNumber ⟨1, c :: rest⟩
  | '.' :: rest => fraction ⟨1, rest⟩
  | _ => do
    let e ← digits ⟨0, cs⟩
    match e.rest with
    | '.' :: _ => fraction e.skip
    | _ => exponent e

end CodeLint.Source
