import CodeLint.Source.Numeral
import CodeLint.Text.Printable

/-!
Escapes in strings. Positions in faults count the bytes of the string with every character beyond
ASCII written as a backslash, a U and eight digits, and with a backslash in front of such a
character written as a backslash, a u and four digits.
-/

namespace CodeLint.Source

def simpleEscape? : Char → Option Char
  | '\\' => some '\\'
  | '\'' => some '\''
  | '"' => some '"'
  | 'a' => some '\x07'
  | 'b' => some '\x08'
  | 'f' => some '\x0c'
  | 'n' => some '\n'
  | 'r' => some '\r'
  | 't' => some '\t'
  | 'v' => some '\x0b'
  | _ => none

def isOctalDigit (c : Char) : Bool := '0' ≤ c && c ≤ '7'

def hexValue (c : Char) : Nat :=
  if c.isDigit then c.toNat - 48 else if 'a' ≤ c then c.toNat - 87 else c.toNat - 55

def hexNumber (cs : List Char) : Nat := cs.foldl (fun n c => 16 * n + hexValue c) 0
def octalNumber (cs : List Char) : Nat := cs.foldl (fun n c => 8 * n + (c.toNat - 48)) 0

/-- The character of a code point. Half of a surrogate pair is shown as a replacement. -/
def characterOf (n : Nat) : Char :=
  if 0xD800 ≤ n && n ≤ 0xDFFF then '�' else Char.ofNat n

def hexEscape? : Char → Option (Nat × String)
  | 'x' => some (2, "truncated \\xXX escape")
  | 'u' => some (4, "truncated \\uXXXX escape")
  | 'U' => some (8, "truncated \\UXXXXXXXX escape")
  | _ => none

def undecodable (first behind : Nat) (reason : String) : Cause :=
  .undecodable ("'unicodeescape' codec can't decode bytes in position " ++ toString first ++ "-" ++
    toString (behind - 1) ++ ": " ++ reason)

def asciiWidth (c : Char) : Nat := if c.toNat < 0x80 then 1 else 10

def asciiLength (cs : List Char) : Nat := (cs.map asciiWidth).foldl (· + ·) 0

abbrev NameTable := String → Option Char

/-- One escape at a position: its characters, the position behind it and the text behind it. The
text starts behind the backslash. -/
def escape (names : NameTable) (pos : Nat) (cs : List Char) :
    Except Cause (List Char × Nat × List Char) :=
  match cs with
  | [] => pure (['\\'], pos + 6, [])
  | '\n' :: rest => pure ([], pos + 2, rest)
  | 'N' :: rest =>
    match rest with
    | '\x7b' :: tail =>
      let name := tail.takeWhile (· != '\x7d')
      match tail.dropWhile (· != '\x7d') with
      | [] => throw (undecodable pos (pos + 3 + asciiLength tail) "malformed \\N character escape")
      | _ :: rest =>
        if name.isEmpty then throw (undecodable pos (pos + 3) "malformed \\N character escape")
        else match names (String.ofList name) with
          | some c => pure ([c], pos + 4 + asciiLength name, rest)
          | none =>
            throw (undecodable pos (pos + 4 + asciiLength name) "unknown Unicode character name")
    | _ => throw (undecodable pos (pos + 2) "malformed \\N character escape")
  | c :: rest =>
    match simpleEscape? c, hexEscape? c with
    | some d, _ => pure ([d], pos + 2, rest)
    | none, some (count, reason) =>
      let digits := (rest.take count).takeWhile isHexDigit
      if digits.length < count then throw (undecodable pos (pos + 2 + digits.length) reason)
      else if hexNumber digits > 0x10FFFF then
        throw (undecodable pos (pos + 2 + count) "illegal Unicode character")
      else pure ([characterOf (hexNumber digits)], pos + 2 + count, rest.drop count)
    | none, none =>
      if isOctalDigit c then
        let digits := c :: (rest.take 2).takeWhile isOctalDigit
        pure ([characterOf (octalNumber digits)], pos + 1 + digits.length,
          rest.drop (digits.length - 1))
      else if c.toNat < 0x80 then pure (['\\', c], pos + 2, rest)
      else pure (['\\', c], pos + 6 + 10, rest)

def unescapeFrom (names : NameTable) : Nat → Nat → List Char → Except Cause (List Char)
  | 0, _, _ => pure []
  | _ + 1, _, [] => pure []
  | n + 1, pos, '\\' :: cs => do
    let (out, pos, rest) ← escape names pos cs
    return out ++ (← unescapeFrom names n pos rest)
  | n + 1, pos, c :: cs => do return c :: (← unescapeFrom names n (pos + asciiWidth c) cs)

def unescape (names : NameTable) (cs : List Char) : Except Cause (List Char) :=
  unescapeFrom names cs.length 0 cs

def unescapeBytesFrom : Nat → Nat → List Char → Except Cause (List UInt8)
  | 0, _, _ => pure []
  | _ + 1, _, [] => pure []
  | n + 1, pos, '\\' :: c :: cs =>
    if c == '\n' then unescapeBytesFrom n (pos + 2) cs
    else match simpleEscape? c with
      | some d => do return UInt8.ofNat d.toNat :: (← unescapeBytesFrom n (pos + 2) cs)
      | none =>
        if c == 'x' then
          let digits := (cs.take 2).takeWhile isHexDigit
          if digits.length < 2 then
            throw (.unreadableBytes ("invalid \\x escape at position " ++ toString pos))
          else do
            return UInt8.ofNat (hexNumber digits) :: (← unescapeBytesFrom n (pos + 4) (cs.drop 2))
        else if isOctalDigit c then
          let digits := c :: (cs.take 2).takeWhile isOctalDigit
          do return UInt8.ofNat (octalNumber digits) ::
            (← unescapeBytesFrom n (pos + 1 + digits.length) (cs.drop (digits.length - 1)))
        else do
          return UInt8.ofNat '\\'.toNat :: UInt8.ofNat c.toNat ::
            (← unescapeBytesFrom n (pos + 2) cs)
  | n + 1, pos, c :: cs => do
    return UInt8.ofNat c.toNat :: (← unescapeBytesFrom n (pos + 1) cs)

def unescapeBytes (cs : List Char) : Except Cause (List UInt8) := unescapeBytesFrom cs.length 0 cs

end CodeLint.Source
