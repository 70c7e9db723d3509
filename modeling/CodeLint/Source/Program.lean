import CodeLint.Source.Grammar

/-!
From text to tree. A text that cannot be parsed is parsed a second time to find a particular
fault; without one the fault is general. A fault of the text as such, anywhere behind, goes before
a fault of the grammar, and so does a bracket that is never closed on an earlier line.
-/

namespace CodeLint.Source

open CodeLint.Tree Parse

namespace Context

def depthBound (x : Context) : Nat := 100 * (x.tokens.tokens.size + 10)

def rules (x : Context) : Grammar.Rules := Grammar.parser x.depthBound

def override (x : Context) (s : Progress) (f : SyntaxFault) : SyntaxFault :=
  match x.tokens.stop with
  | none => f
  | some stop =>
    if s.fetched > x.tokens.tokens.size then f
    else if stop.decisive then stop.fault
    else match stop.brackets, x.tokens.tokens[s.fetched - 1]? with
      | b :: _, some last =>
        if last.line > b.line then Lexer.neverClosed x.input stop.mark b else f
      | _, _ => f

/-- The fault of a text in which no particular fault was found. `first` is the last token that
the first parse looked at. -/
def generalFault (x : Context) (s : Progress) (first : Option Token) : SyntaxFault :=
  let located (p : Parse Unit) : SyntaxFault :=
    match p x s with
    | (.faulty f, _) => f
    | _ => ⟨.invalidSyntax, none, none⟩
  match first with
  | none => ⟨.invalidSyntax, none, none⟩
  | some t =>
    if t.kind = .indent then located (faultHere .unexpectedIndent)
    else if t.kind = .dedent then located (faultHere .unexpectedUnindent)
    else x.override s (located (faultAt t .invalidSyntax))

def run (x : Context) (p : Grammar.Rules → Parse α) : Except SyntaxFault α :=
  match p x.rules { x with searching := false } {} with
  | (.found a, _) => .ok a
  | (.faulty f, s) => .error (x.override s f)
  | (_, s) =>
    let first := x.tokens.tokens[s.fetched - 1]?
    match p x.rules { x with searching := true } { fetched := s.fetched } with
    | (.faulty f, s) => .error (x.override s f)
    | (_, s) => .error (x.generalFault s first)

end Context

def readExpressionIn (names : NameTable) : Nat → ExpressionReader
  | 0, _, line, _ => .error ⟨.invalidSyntax, some line, none⟩
  | n + 1, cs, line, shift =>
    let input := Input.ofExpression cs line shift
    let x : Context := ⟨input, input.tokens, names, readExpressionIn names n, false⟩
    x.run fun rules => rules.one .starExpressions

def readProgram (names : NameTable) (text : String) : Except SyntaxFault Node :=
  if text.toList.contains '\x00' then .error ⟨.nullCharacter, none, none⟩
  else
    let input := Input.ofText text
    let x : Context :=
      ⟨input, input.tokens, names, readExpressionIn names (input.chars.size + 1), false⟩
    x.run Grammar.program

end CodeLint.Source
