import CodeLint.Source.Input

/-!
A place in a text that is being read. A line is entered only when its first character is looked
at, so that behind a line end the line before is still the current one. While a token is held, the
stretch of kept lines grows; otherwise it starts anew with each line.
-/

namespace CodeLint.Source

structure Cursor where
  mark : Mark
  rest : List Char
  /-- Whether the line of the next character has not been entered yet. -/
  pending : Bool

namespace Cursor

def start (i : Input) : Cursor := ⟨⟨i.firstLine - 1, 0, 0, 0, 0⟩, i.chars.toList, true⟩

def enter (c : Cursor) (held : Bool) : Cursor :=
  match c.rest with
  | [] => c
  | _ :: _ =>
    if c.pending then
      let m := c.mark
      ⟨⟨m.line + 1, m.offset, 0, m.offset, if held then m.keptFrom else m.offset⟩, c.rest, false⟩
    else c

def advance (c : Cursor) : Cursor :=
  match c.rest with
  | [] => c
  | x :: xs =>
    ⟨{ c.mark with offset := c.mark.offset + 1, bytes := c.mark.bytes + x.utf8Size }, xs, x == '\n'⟩

def advanceBy : Nat → Cursor → Cursor
  | 0, c => c
  | n + 1, c => advanceBy n c.advance

def next? (c : Cursor) : Option Char := c.rest.head?

def column (c : Cursor) : Nat := c.mark.offset - c.mark.lineStart

def toLineEnd (c : Cursor) : Cursor := advanceBy ((c.rest.takeWhile (· != '\n')).length + 1) c

end Cursor

end CodeLint.Source
