import CodeLint.Source.Cursor
import CodeLint.Source.Numeral
import CodeLint.Source.Token
import CodeLint.Text.Name
import CodeLint.Text.Quoted

/-!
Reading the tokens of a text. At the start of a line the indentation is compared with that of the
lines before and gives indents or unindents; lines inside brackets and blank lines give none. The
outcome of a step is a token with the state behind it, or a stop.
-/

namespace CodeLint.Source

open CodeLint.Text

/-- Widths of indentation: with tab stops every eight columns, and with tabs of width one. -/
structure Indent where
  width : Nat
  narrow : Nat

structure Lexer where
  cursor : Cursor
  atLineStart : Bool := true
  /-- Indents still to be given, or unindents if negative. -/
  owed : Int := 0
  /-- The open indentations, innermost first, without the outermost of width zero. -/
  indents : List Indent := []
  brackets : List Bracket := []

abbrev Lexing := Except Stop

def maxIndents : Nat := 100
def maxBrackets : Nat := 200

namespace Lexer

def depth (l : Lexer) : Nat := l.brackets.length

def indent (l : Lexer) : Indent := l.indents.headD ⟨0, 0⟩

def decisive (l : Lexer) (c : Cursor) (cause : Cause) : Stop :=
  ⟨⟨cause, some c.mark.line, some c.column⟩, true, c.mark, l.brackets⟩

def reached (l : Lexer) (i : Input) (c : Cursor) (bytes : Nat) (cause : Cause) : Stop :=
  ⟨⟨cause, some c.mark.line, some (i.column c.mark c.mark.line bytes)⟩, false, c.mark, l.brackets⟩

def bytesBefore (c : Cursor) : Nat := if c.mark.offset = c.mark.keptFrom then 0 else c.mark.bytes

def neverClosed (i : Input) (m : Mark) (b : Bracket) : SyntaxFault :=
  ⟨.bracketNeverClosed b.char, some b.line, some (i.column m b.line (b.column + 1))⟩

def endStop (l : Lexer) (i : Input) (c : Cursor) : Stop :=
  match l.brackets with
  | b :: _ => ⟨neverClosed i c.mark b, false, c.mark, l.brackets⟩
  | [] => l.reached i c (bytesBefore c) .unexpectedEnd

/-- Behind a backslash there has to be a line end, and behind that another line. -/
def continuation (l : Lexer) (i : Input) (c : Cursor) (held : Bool) : Lexing Cursor :=
  let c := c.advance
  if c.next? == some '\n' then
    let c := (c.advance).enter held
    if c.rest.isEmpty then throw (l.endStop i c) else pure c
  else
    let c := c.advance
    let column := c.mark.offset - c.mark.keptFrom
    throw ⟨⟨.afterContinuation, some c.mark.line, some column⟩, false, c.mark, l.brackets⟩

/-- The indentation at the start of a line. Behind a continued line that of the first part
counts, if there is any. Fuel bounds the number of characters. -/
def indentation (l : Lexer) (i : Input) :
    Nat → Cursor → Indent → Nat → Lexing (Indent × Cursor)
  | 0, c, w, _ => pure (w, c)
  | n + 1, c, w, first =>
    let c := c.enter false
    match c.next? with
    | some ' ' => indentation l i n c.advance ⟨w.width + 1, w.narrow + 1⟩ first
    | some '\t' => indentation l i n c.advance ⟨(w.width / 8 + 1) * 8, w.narrow + 1⟩ first
    | some '\x0c' => indentation l i n c.advance ⟨0, 0⟩ first
    | some '\\' => do
      let first := if first ≠ 0 then first else w.width
      indentation l i n (← l.continuation i c false) w first
    | _ => pure (if first ≠ 0 then ⟨first, first⟩ else w, c)

def tabStop (l : Lexer) (i : Input) (c : Cursor) : Stop :=
  l.reached i c.toLineEnd 1 .tabsAndBlanks

def closeIndents (w : Nat) : List Indent → List Indent
  | [] => []
  | x :: xs => if w < x.width then closeIndents w xs else x :: xs

def settleIndent (l : Lexer) (i : Input) (c : Cursor) (w : Indent) : Lexing Lexer :=
  let top := l.indent
  if w.width = top.width then
    if w.narrow ≠ top.narrow then throw (l.tabStop i c) else pure { l with cursor := c }
  else if w.width > top.width then
    if l.indents.length + 1 ≥ maxIndents then throw (l.reached i c.toLineEnd 1 .tooManyIndents)
    else if w.narrow ≤ top.narrow then throw (l.tabStop i c)
    else pure { l with cursor := c, indents := w :: l.indents, owed := l.owed + 1 }
  else
    let left := closeIndents w.width l.indents
    let l' := { l with
      cursor := c, indents := left, owed := l.owed - (l.indents.length - left.length : Nat) }
    if w.width ≠ l'.indent.width then
      let c := c.toLineEnd
      throw (l.reached i c (bytesBefore c) .unindentMismatch)
    else if w.narrow ≠ l'.indent.narrow then throw (l.tabStop i c)
    else pure l'

def startLine (l : Lexer) (i : Input) : Lexing (Lexer × Bool) := do
  if !l.atLineStart then return (l, false)
  let l := { l with atLineStart := false }
  let (w, c) ← l.indentation i (l.cursor.rest.length + 1) l.cursor ⟨0, 0⟩ 0
  let blank := c.next? == some '#' || c.next? == some '\n'
  if blank || !l.brackets.isEmpty then return ({ l with cursor := c }, blank)
  else return (← l.settleIndent i c w, false)

def tokenOf (l : Lexer) (i : Input) (kind : TokenKind) (start stop : Cursor) : Token :=
  let text := String.ofList (i.chars.extract start.mark.offset stop.mark.offset).toList
  let moved := if stop.mark.line = i.firstLine then i.shift.getD 0 else 0
  ⟨kind, text, start.mark.line, some (start.mark.bytes + moved), stop.mark.bytes + moved, l.depth,
    stop.mark⟩

def markToken (l : Lexer) (kind : TokenKind) (c : Cursor) : Token :=
  ⟨kind, "", c.mark.line, none, 0, l.depth, c.mark⟩

def isBlankHere (c : Char) : Bool := c == ' ' || c == '\t' || c == '\x0c'

structure PrefixLetters where
  b : Bool := false
  u : Bool := false
  r : Bool := false
  f : Bool := false

def PrefixLetters.add? (s : PrefixLetters) (c : Char) : Option PrefixLetters :=
  if !(s.b || s.u || s.f) && (c == 'b' || c == 'B') then some { s with b := true }
  else if !(s.b || s.u || s.r || s.f) && (c == 'u' || c == 'U') then some { s with u := true }
  else if !(s.r || s.u) && (c == 'r' || c == 'R') then some { s with r := true }
  else if !(s.f || s.b || s.u) && (c == 'f' || c == 'F') then some { s with f := true }
  else none

def stringPrefix? (s : PrefixLetters) : List Char → Option Nat
  | [] => none
  | c :: cs =>
    if c == '\'' || c == '"' then some 0
    else match s.add? c with
      | some s => (stringPrefix? s cs).map (· + 1)
      | none => none

/-- The cursor behind the closing quotes of a string, or the place where it breaks off. `run` counts
the closing quotes seen in a row. Fuel bounds the number of characters. -/
def stringEnd (quote : Char) (size : Nat) : Nat → Cursor → Nat → Except Cursor Cursor
  | 0, c, _ => throw c
  | n + 1, c, run =>
    let c := c.enter true
    match c.next? with
    | none => throw c
    | some x =>
      if size = 1 && x == '\n' then throw c.advance
      else if x == quote then
        if run + 1 = size then pure c.advance else stringEnd quote size n c.advance (run + 1)
      else if x == '\\' then stringEnd quote size n (c.advance.enter true).advance 0
      else stringEnd quote size n c.advance 0

def stringToken (l : Lexer) (i : Input) (start : Cursor) (letters : Nat) :
    Lexing (Token × Cursor) :=
  let c := start.advanceBy letters
  let quote := c.next?.getD '"'
  let done (c : Cursor) := (l.tokenOf i .string start c, c)
  let body (size : Nat) : Lexing (Token × Cursor) :=
    match stringEnd quote size (c.rest.length + 1) (c.advanceBy size) 0 with
    | .ok c => pure (done c)
    | .error e =>
      let line := e.mark.line
      let cause := if size = 1 then .unterminatedText line else .unterminatedLongText line
      throw ⟨⟨cause, some start.mark.line, some (start.column + 1)⟩, true, e.mark, l.brackets⟩
  match c.rest with
  | _ :: y :: z :: _ =>
    if y == quote && z == quote then body 3 else if y == quote then pure (done (c.advanceBy 2))
    else body 1
  | _ => body 1

def nameToken (l : Lexer) (i : Input) (start : Cursor) : Lexing (Token × Cursor) :=
  let cs := start.rest.takeWhile isNameChar
  let valid := if cs.all (·.toNat < 0x80) then cs.length else validNamePart cs
  match cs[valid]? with
  | some x =>
    let width := if x.toNat < 0x10000 then 4 else if x.toNat < 0x100000 then 5 else 6
    let code := String.ofList (hexDigits width x.toNat |>.map Char.toUpper)
    let cause := if isPrintable x then .invalidCharacter x code else .unprintableCharacter code
    throw (l.decisive (start.advanceBy (valid + 1)) cause)
  | none =>
    let c := start.advanceBy cs.length
    let t := l.tokenOf i .name start c
    pure (if keywords.contains t.text then { t with kind := .keyword } else t, c)

def numberToken (l : Lexer) (i : Input) (start : Cursor) : Lexing (Token × Cursor) :=
  match numberExtent start.rest with
  | .ok n =>
    let c := start.advanceBy n
    pure (l.tokenOf i .number start c, c)
  | .error f =>
    let c := start.advanceBy f.count
    match f.cause with
    | .leadingZeros =>
      let column : Nat := start.mark.bytes + 1
      throw ⟨⟨f.cause, some start.mark.line, some column⟩, true, c.mark, l.brackets⟩
    | cause => throw (l.decisive c cause)

def opensBracket (c : Char) : Bool := c == '(' || c == '[' || c == '\x7b'
def closesBracket (c : Char) : Bool := c == ')' || c == ']' || c == '\x7d'

def bracketsMatch (opening close : Char) : Bool :=
  (opening == '(' && close == ')') || (opening == '[' && close == ']') ||
    (opening == '\x7b' && close == '\x7d')

def trackBracket (l : Lexer) (start : Cursor) (x : Char) : Lexing Lexer :=
  if opensBracket x then
    if l.depth ≥ maxBrackets then throw (l.decisive start.advance .tooManyBrackets)
    else pure { l with brackets := ⟨x, start.mark.line, start.mark.bytes⟩ :: l.brackets }
  else if closesBracket x then
    match l.brackets with
    | [] => throw (l.decisive start.advance (.unmatchedBracket x))
    | b :: bs =>
      if bracketsMatch b.char x then pure { l with brackets := bs }
      else
        let line := if b.line ≠ start.mark.line then some b.line else none
        throw ({ l with brackets := bs }.decisive start.advance (.mismatchedBracket x b.char line))
  else pure l

def operatorToken (l : Lexer) (i : Input) (start : Cursor) : Lexing (Token × Lexer) :=
  let taken (n : Nat) (l : Lexer) (kind : TokenKind) : Token × Lexer :=
    let c := start.advanceBy n
    (l.tokenOf i kind start c, { l with cursor := c })
  let opening (n : Nat) : String := String.ofList (start.rest.take n)
  if threeCharOperators.contains (opening 3) then pure (taken 3 l .operator)
  else if twoCharOperators.contains (opening 2) then pure (taken 2 l .operator)
  else
    let x := start.next?.getD ' '
    if !isPrintable x then
      throw (l.decisive start.advance
        (.unprintableCharacter (String.ofList ((hexDigits 4 x.toNat).map Char.toUpper))))
    else do
      let l ← l.trackBracket start x
      pure (taken 1 l (if oneCharOperators.contains x then .operator else .stray))

/-- The line end as a token, which starts at the comment before it if there is one. -/
def newlineToken (l : Lexer) (i : Input) (start c : Cursor) : Token × Lexer :=
  let t := { l.tokenOf i .newline start c with stop := c.mark.bytes }
  (t, { l with cursor := c.advance, atLineStart := true })

def nextToken (i : Input) : Nat → Lexer → Lexing (Token × Lexer)
  | 0, l => throw (l.endStop i l.cursor)
  | n + 1, l => do
    let (l, blank) ← l.startLine i
    if l.owed < 0 then
      return (l.markToken .dedent l.cursor, { l with owed := l.owed + 1 })
    if l.owed > 0 then
      return (l.markToken .indent l.cursor, { l with owed := l.owed - 1 })
    let c := l.cursor.enter false
    let c := c.advanceBy (c.rest.takeWhile isBlankHere).length
    let behind :=
      if c.next? == some '#' then c.advanceBy (c.rest.takeWhile (· != '\n')).length else c
    match behind.next? with
    | none =>
      if l.brackets.isEmpty then return (l.markToken .finish behind, { l with cursor := behind })
      else throw (l.endStop i behind)
    | some '\n' =>
      if blank || !l.brackets.isEmpty then
        nextToken i n { l with cursor := behind.advance, atLineStart := true }
      else
        let (t, l) := l.newlineToken i c behind
        return ({ t with mark := l.cursor.mark }, l)
    | some '\\' => nextToken i n { l with cursor := ← l.continuation i behind true }
    | some x =>
      match stringPrefix? {} c.rest with
      | some letters =>
        let (t, c) ← l.stringToken i c letters
        return (t, { l with cursor := c })
      | none =>
        if isNameChar x && !x.isDigit then
          let (t, c) ← l.nameToken i c
          return (t, { l with cursor := c })
        else if x.isDigit || (x == '.' && (c.rest[1]?.map Char.isDigit).getD false) then
          let (t, c) ← l.numberToken i c
          return (t, { l with cursor := c })
        else l.operatorToken i c

def allTokens (i : Input) : Nat → Lexer → Array Token → Tokens
  | 0, _, ts => ⟨ts, none⟩
  | n + 1, l, ts =>
    match l.nextToken i (l.cursor.rest.length + 2) with
    | .error s => ⟨ts, some s⟩
    | .ok (t, l) =>
      if t.kind = .finish then ⟨ts.push t, none⟩ else allTokens i n l (ts.push t)

end Lexer

/-- The tokens of a text. Every token but indents and unindents takes a character, and there are
no more of those than lines, twice over. -/
def Input.tokens (i : Input) : Tokens :=
  Lexer.allTokens i (3 * i.chars.size + 3) { cursor := Cursor.start i } #[]

end CodeLint.Source
