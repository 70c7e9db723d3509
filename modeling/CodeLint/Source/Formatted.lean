import CodeLint.Source.Escape
import CodeLint.Source.Lexer
import CodeLint.Tree.Node

/-!
Formatted texts: literal text with expressions in braces. An expression may be followed by an
equals sign, a conversion letter and a format, which is itself a formatted text with no further
format inside its own expressions.
-/

namespace CodeLint.Source

open CodeLint.Tree

/-- A place inside a token: the lines begun since its start, and the bytes on the last of them. -/
structure Spot where
  lines : Nat
  bytes : Nat

def Spot.pass (s : Spot) (c : Char) : Spot :=
  if c == '\n' then ⟨s.lines + 1, 0⟩ else ⟨s.lines, s.bytes + c.utf8Size⟩

def Spot.passAll (s : Spot) (cs : List Char) : Spot := cs.foldl Spot.pass s

structure Tail where
  spot : Spot
  rest : List Char

def Tail.skip (t : Tail) : Tail :=
  match t.rest with
  | [] => t
  | c :: cs => ⟨t.spot.pass c, cs⟩

inductive Piece
  | text (cs : List Char)
  | value (expression : Node) (conversion : Int) (format : Option (List Piece))

/-- What is wrong in a formatted text: a cause that is reported where the reading of the source
stands, or a fault of an expression, which has its own position. -/
inductive PieceFault
  | general (c : Cause)
  | inner (f : SyntaxFault)

abbrev Reading := Except PieceFault

abbrev ExpressionReader := List Char → Nat → Nat → Except SyntaxFault Node

/-- What the pieces of a formatted text depend on: whether backslashes are plain characters, the
line and column of the token, and how names of characters and expressions are read. -/
structure FormatContext where
  raw : Bool
  line : Nat
  column : Nat
  names : NameTable
  expression : ExpressionReader

/-- How a stretch of literal text ends: at a doubled brace, which counts once, or before an
expression, a closing brace or the end. -/
inductive LiteralEnd
  | doubled
  | plain

/-- A stretch of literal text, reversed. Braces are doubled only outside formats. -/
def literalPart (raw top : Bool) : Nat → Tail → List Char →
    Except Cause (List Char × LiteralEnd × Tail)
  | 0, t, acc => pure (acc, .plain, t)
  | n + 1, t, acc =>
    let brace (before : Tail) (c : Char) (t : Tail) (acc : List Char) :=
      if top then
        if t.rest.head? == some c then pure (c :: acc, .doubled, t.skip)
        else if c == '\x7d' then throw .formatSingleBrace
        else pure (acc, .plain, before)
      else pure (acc, .plain, before)
    match t.rest with
    | [] => pure (acc, .plain, t)
    | '\\' :: 'N' :: '\x7b' :: _ =>
      if raw then literalPart raw top n t.skip ('\\' :: acc)
      else
        let t := t.skip.skip.skip
        let name := t.rest.takeWhile (· != '\x7d')
        let behind := t.rest.drop (name.length + 1)
        let whole := t.rest.take (name.length + 1)
        literalPart raw top n ⟨t.spot.passAll whole, behind⟩
          (whole.reverse ++ '\x7b' :: 'N' :: '\\' :: acc)
    | '\\' :: 'N' :: c :: _ =>
      if raw then literalPart raw top n t.skip ('\\' :: acc)
      else literalPart raw top n t.skip.skip.skip (c :: 'N' :: '\\' :: acc)
    | '\\' :: c :: _ =>
      if raw then literalPart raw top n t.skip ('\\' :: acc)
      else if c == '\x7b' || c == '\x7d' then brace t.skip c t.skip.skip ('\\' :: acc)
      else literalPart raw top n t.skip.skip (c :: '\\' :: acc)
    | c :: _ =>
      if c == '\x7b' || c == '\x7d' then brace t c t.skip acc
      else literalPart raw top n t.skip (c :: acc)

inductive Quote
  | outside
  | single (mark : Char)
  | triple (mark : Char)

/-- The text of an expression, reversed, up to the character that ends it. Brackets have to match
and quotes have to close. -/
def expressionPart : Nat → Quote → List Char → Tail → List Char → Except Cause (List Char × Tail)
  | 0, _, _, t, acc => pure (acc, t)
  | n + 1, quote, stack, t, acc =>
    match t.rest with
    | [] =>
      match quote, stack with
      | .outside, [] => pure (acc, t)
      | .outside, b :: _ => throw (.formatUnmatched b)
      | _, _ => throw .formatUnterminated
    | '\\' :: _ => throw .formatBackslash
    | c :: more =>
      let tripled := match more with
        | a :: b :: _ => a == c && b == c
        | _ => false
      match quote with
      | .single q => expressionPart n (if c == q then .outside else quote) stack t.skip (c :: acc)
      | .triple q =>
        if c == q && tripled then
          expressionPart n .outside stack t.skip.skip.skip (c :: c :: c :: acc)
        else expressionPart n quote stack t.skip (c :: acc)
      | .outside =>
        if c == '\'' || c == '"' then
          if tripled then expressionPart n (.triple c) stack t.skip.skip.skip (c :: c :: c :: acc)
          else expressionPart n (.single c) stack t.skip (c :: acc)
        else if Lexer.opensBracket c then
          if stack.length ≥ maxBrackets then throw .formatTooManyBrackets
          else expressionPart n quote (c :: stack) t.skip (c :: acc)
        else if c == '#' then throw .formatComment
        else if stack.isEmpty &&
            (c == '!' || c == ':' || c == '\x7d' || c == '=' || c == '>' || c == '<') then
          if (c == '!' || c == '=' || c == '<' || c == '>') && more.head? == some '=' then
            expressionPart n quote stack t.skip.skip ('=' :: c :: acc)
          else if c == '>' || c == '<' then expressionPart n quote stack t.skip (c :: acc)
          else pure (acc, t)
        else if Lexer.closesBracket c then
          match stack with
          | [] => throw (.formatUnmatched c)
          | b :: bs =>
            if Lexer.bracketsMatch b c then expressionPart n quote bs t.skip (c :: acc)
            else throw (.formatMismatched c b)
        else expressionPart n quote stack t.skip (c :: acc)

def isFormatBlank (c : Char) : Bool := c == ' ' || c == '\t' || c == '\n' || c == '\x0c'

def breaksAfterBrace (cs : List Char) : Bool :=
  match cs.dropWhile (fun c => c == ' ' || c == '\t' || c == '\x0c') with
  | '\n' :: _ => true
  | '\x7d' :: _ => true
  | _ => false

def readExpression (x : FormatContext) (brace : Spot) (behind : List Char) (cs : List Char)
    (ending : Char) : Reading Node :=
  if cs.all isFormatBlank then
    throw (.general (if ending == '!' || ending == ':' || ending == '=' then
      .formatEmptyBefore ending else .formatEmpty))
  else
    let bytes := if breaksAfterBrace behind then 0 else brace.bytes
    let shift := if brace.lines = 0 then x.column + bytes else bytes
    match x.expression cs (x.line + brace.lines) shift with
    | .ok e => pure e
    | .error f => throw (.inner f)

def isSpace (c : Char) : Bool :=
  c == ' ' || c == '\t' || c == '\n' || c == '\r' || c == '\x0b' || c == '\x0c'

def general (r : Except Cause α) : Reading α :=
  match r with
  | .ok a => pure a
  | .error c => throw (.general c)

def endingOf (t : Tail) : Reading Char :=
  match t.rest with
  | [] => throw (.general .formatExpectingBrace)
  | c :: _ => pure c

def shownPart (ending : Char) (cs : List Char) (t : Tail) : Option (List Char) × Tail :=
  if ending == '=' then
    let blanks := t.skip.rest.takeWhile isSpace
    (some (cs ++ '=' :: blanks), ⟨t.skip.spot.passAll blanks, t.skip.rest.drop blanks.length⟩)
  else (none, t)

def conversionPart (t : Tail) : Reading (Option Char × Tail) :=
  match t.rest with
  | '!' :: c :: _ =>
    if c == 's' || c == 'r' || c == 'a' then pure (some c, t.skip.skip)
    else throw (.general .formatConversion)
  | ['!'] => throw (.general .formatExpectingBrace)
  | _ => pure (none, t)

def formatPart (format : Tail → Reading (List Piece × Tail)) (t : Tail) :
    Reading (Option (List Piece) × Tail) :=
  match t.rest with
  | [':'] => throw (.general .formatExpectingBrace)
  | ':' :: _ => do
    let (ps, t) ← format t.skip
    return (some ps, t)
  | _ => pure (none, t)

/-- An expression with its conversion and format. What is shown without a format is written as it
would be in a source. -/
def valuePieces (e : Node) (shown : Option (List Char)) (conversion : Option Char)
    (spec : Option (List Piece)) : List Piece :=
  let code : Int := match conversion with
    | some c => c.toNat
    | none => if shown.isSome && spec.isNone then 'r'.toNat else -1
  (shown.map Piece.text).toList ++ [Piece.value e code spec]

def fieldPiece (x : FormatContext) (level : Nat) (format : Tail → Reading (List Piece × Tail))
    (t : Tail) : Reading (List Piece × Tail) :=
  if level ≥ 2 then throw (.general .formatNesting)
  else do
    let brace := t.spot
    let start := t.skip
    let (acc, t) ← general (expressionPart (start.rest.length + 1) .outside [] start [])
    let ending ← endingOf t
    let e ← readExpression x brace start.rest acc.reverse ending
    let (shown, t) := shownPart ending acc.reverse t
    let (conversion, t) ← conversionPart t
    let (spec, t) ← formatPart format t
    if t.rest.head? == some '\x7d' then return (valuePieces e shown conversion spec, t.skip)
    else throw (.general .formatExpectingBrace)

def textPieces (x : FormatContext) (cs : List Char) : Reading (List Piece) := do
  let resolved ← if x.raw then pure cs else general (unescape x.names cs)
  return if resolved.isEmpty then [] else [.text resolved]

def piecesFrom (x : FormatContext) : Nat → Nat → Tail → Reading (List Piece × Tail)
  | 0, _, t => pure ([], t)
  | n + 1, level, t => do
    let (acc, ending, t) ← general (literalPart x.raw (level == 0) (t.rest.length + 1) t [])
    let text ← textPieces x acc.reverse
    match ending with
    | .doubled => do
      let (ps, t) ← piecesFrom x n level t
      return (text ++ ps, t)
    | .plain =>
      match t.rest with
      | [] => if level = 0 then return (text, t) else throw (.general .formatExpectingBrace)
      | '\x7d' :: _ => return (text, t)
      | _ => do
        let (field, t) ← fieldPiece x level (piecesFrom x n (level + 1)) t
        let (ps, t) ← piecesFrom x n level t
        return (text ++ field ++ ps, t)

def pieces (x : FormatContext) (start : Nat) (cs : List Char) : Reading (List Piece) := do
  return (← piecesFrom x (2 * cs.length + 2) 0 ⟨⟨0, start⟩, cs⟩).1

end CodeLint.Source
