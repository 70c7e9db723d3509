import CodeLint.Number.Shortest
import CodeLint.Json.Basic
import CodeLint.Text.Quoted

/-!
Writing JSON, in two forms. The short one keeps characters beyond ASCII and escapes quotes,
backslashes and control characters. The plain one is all in ASCII and puts a blank behind every
comma and colon.
-/

namespace CodeLint.Json

open CodeLint.Text

def escapeChar (c : Char) : List Char :=
  if c == '"' then ['\\', '"']
  else if c == '\\' then ['\\', '\\']
  else if c == '\n' then ['\\', 'n']
  else if c == '\r' then ['\\', 'r']
  else if c == '\t' then ['\\', 't']
  else if c.toNat < 0x20 then '\\' :: 'u' :: Text.hexDigits 4 c.toNat
  else [c]

def quote (s : String) : String :=
  "\"" ++ String.ofList (s.toList.flatMap escapeChar) ++ "\""

def realText : Number.Double → String
  | .undefined => "NaN"
  | .infinite s => if s then "-Infinity" else "Infinity"
  | x => x.text

mutual
def render : Json → String
  | .null => "null"
  | .bool b => if b then "true" else "false"
  | .int i => toString i
  | .real x => realText x
  | .text s => quote s
  | .list js => "[" ++ ",".intercalate (renderList js) ++ "]"
  | .object ms => "\x7b" ++ ",".intercalate (renderMembers ms) ++ "\x7d"
def renderList : List Json → List String
  | [] => []
  | j :: js => render j :: renderList js
def renderMembers : List (String × Json) → List String
  | [] => []
  | (k, j) :: ms => (quote k ++ ":" ++ render j) :: renderMembers ms
end

/-! ### The plain form -/

def codeUnit (n : Nat) : List Char := '\\' :: 'u' :: hexDigits 4 n

def shortNames : List (Char × Char) :=
  [('"', '"'), ('\\', '\\'), ('\n', 'n'), ('\r', 'r'), ('\t', 't'), ('\x0c', 'f'), ('\x08', 'b')]

/-- A character of a text: what is not visible ASCII is escaped, beyond sixteen bits as a pair. -/
def asciiEscape (c : Char) : List Char :=
  match shortNames.lookup c with
  | some e => ['\\', e]
  | none =>
    if 0x20 ≤ c.toNat && c.toNat < 0x7f then [c]
    else if c.toNat < 0x10000 then codeUnit c.toNat
    else codeUnit (0xD800 + (c.toNat - 0x10000) / 1024) ++
      codeUnit (0xDC00 + (c.toNat - 0x10000) % 1024)

def quoteChars (s : String) : List Char := '"' :: (s.toList.flatMap asciiEscape ++ ['"'])

mutual
def chars : Json → List Char
  | .null => ['n', 'u', 'l', 'l']
  | .bool b => if b then ['t', 'r', 'u', 'e'] else ['f', 'a', 'l', 's', 'e']
  | .int i => (toString i).toList
  | .real x => (realText x).toList
  | .text s => quoteChars s
  | .list [] => ['[', ']']
  | .list (j :: js) => '[' :: (chars j ++ (charsAfter js ++ [']']))
  | .object [] => ['\x7b', '\x7d']
  | .object ((k, j) :: ms) =>
    '\x7b' :: (quoteChars k ++ (':' :: ' ' :: (chars j ++ (membersAfter ms ++ ['\x7d']))))
def charsAfter : List Json → List Char
  | [] => []
  | j :: js => ',' :: ' ' :: (chars j ++ charsAfter js)
def membersAfter : List (String × Json) → List Char
  | [] => []
  | (k, j) :: ms =>
    ',' :: ' ' :: (quoteChars k ++ (':' :: ' ' :: (chars j ++ membersAfter ms)))
end

end CodeLint.Json
