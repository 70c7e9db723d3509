import Std.Data.TreeMap
import CodeLint.Source.Formatted
import CodeLint.Tree.Node

/-!
Parsing steps over tokens. A step finds something, misses it, refuses or is faulty. After a miss
the next alternative is tried from the same place. A refusal makes the rule around it miss without
trying its other alternatives. A fault ends the parse.

The parser remembers how many tokens it has looked at, since faults without a place of their own
are reported at the last of them, and it keeps the outcomes of some rules by position.
-/

namespace CodeLint.Source

open CodeLint.Tree

inductive Answer (α : Type)
  | found (a : α)
  | missing
  | refused
  | faulty (f : SyntaxFault)

/-- The outcome of a rule at a position: what it found and where it ended, or a miss. -/
structure Remembered where
  nodes : Option (List Node)
  position : Nat
  deriving Inhabited

structure Progress where
  position : Nat := 0
  fetched : Nat := 0
  memo : Std.TreeMap Nat Remembered := {}

/-- What a parse depends on. Only a second parse looks for particular faults. -/
structure Context where
  input : Input
  tokens : Tokens
  names : NameTable
  expression : ExpressionReader
  searching : Bool

def Parse (α : Type) : Type := Context → Progress → Answer α × Progress

namespace Parse

protected def pure (a : α) : Parse α := fun _ s => (.found a, s)

protected def bind (p : Parse α) (f : α → Parse β) : Parse β := fun x s =>
  match p x s with
  | (.found a, s) => f a x s
  | (.missing, s) => (.missing, s)
  | (.refused, s) => (.refused, s)
  | (.faulty e, s) => (.faulty e, s)

instance : Monad Parse where
  pure := Parse.pure
  bind := Parse.bind

def miss : Parse α := fun _ s => (.missing, s)

def refuse : Parse α := fun _ s => (.refused, s)

protected def orElse (p : Parse α) (q : Unit → Parse α) : Parse α := fun x s =>
  let start := s.position
  match p x s with
  | (.missing, s) => q () x { s with position := start }
  | r => r

instance : OrElse (Parse α) := ⟨Parse.orElse⟩

/-- The bounds of a rule: a refusal inside is a miss outside. -/
def rule (p : Parse α) : Parse α := fun x s =>
  match p x s with
  | (.refused, s) => (.missing, s)
  | r => r

/-- From here on a miss is a refusal. -/
def commit (p : Parse α) : Parse α := fun x s =>
  match p x s with
  | (.missing, s) => (.refused, s)
  | r => r

def optional (p : Parse α) : Parse (Option α) := fun x s =>
  let start := s.position
  match p x s with
  | (.found a, s) => (.found (some a), s)
  | (.missing, s) => (.found none, { s with position := start })
  | (.refused, s) => (.found none, { s with position := start })
  | (.faulty e, s) => (.faulty e, s)

def ahead (p : Parse α) : Parse Unit := fun x s =>
  let start := s.position
  match p x s with
  | (.found _, s) => (.found (), { s with position := start })
  | (.missing, s) => (.missing, s)
  | (.refused, s) => (.missing, s)
  | (.faulty e, s) => (.faulty e, s)

def notAhead (p : Parse α) : Parse Unit := fun x s =>
  let start := s.position
  match p x s with
  | (.found _, s) => (.missing, s)
  | (.missing, s) => (.found (), { s with position := start })
  | (.refused, s) => (.found (), { s with position := start })
  | (.faulty e, s) => (.faulty e, s)

/-- Repeats a step until it misses. Fuel bounds the number of repetitions. -/
def repeated (p : Parse α) : Nat → Array α → Parse (Array α)
  | 0, acc => Parse.pure acc
  | n + 1, acc => fun x s =>
    let start := s.position
    match p x s with
    | (.found a, s) => repeated p n (acc.push a) x s
    | (.missing, s) => (.found acc, { s with position := start })
    | (.refused, s) => (.found acc, { s with position := start })
    | (.faulty e, s) => (.faulty e, s)

def many (p : Parse α) : Parse (List α) := fun x s =>
  match repeated p (x.tokens.tokens.size + 1) #[] x s with
  | (.found as, s) => (.found as.toList, s)
  | (.missing, s) => (.missing, s)
  | (.refused, s) => (.refused, s)
  | (.faulty e, s) => (.faulty e, s)

def many1 (p : Parse α) : Parse (List α) := do
  let a ← p
  let as ← many p
  return a :: as

def sepBy1 (p : Parse α) (sep : Parse β) : Parse (List α) := do
  let a ← p
  let as ← many (do let _ ← sep; p)
  return a :: as

def peek : Parse Token := fun x s =>
  match x.tokens.tokens[s.position]? with
  | some t => (.found t, { s with fetched := max s.fetched (s.position + 1) })
  | none =>
    match x.tokens.stop with
    | some stop => (.faulty stop.fault, { s with fetched := x.tokens.tokens.size + 1 })
    | none => (.missing, s)

def advance : Parse Unit := fun _ s => (.found (), { s with position := s.position + 1 })

def satisfy (p : Token → Bool) : Parse Token := do
  let t ← peek
  if p t then
    advance
    return t
  else miss

def symbol (s : String) : Parse Token :=
  satisfy fun t => (t.kind == .operator || t.kind == .keyword) && t.text == s

def softKeyword (s : String) : Parse Token := satisfy fun t => t.kind == .name && t.text == s

def ofKind (k : TokenKind) : Parse Token := satisfy (·.kind == k)

def oneOf (ss : List String) : Parse Token :=
  satisfy fun t => (t.kind == .operator || t.kind == .keyword) && ss.contains t.text

def searching (p : Parse α) : Parse α := fun x s => if x.searching then p x s else (.missing, s)

def unsearching (p : Parse α) : Parse α := fun x s => p { x with searching := false } s

def context : Parse Context := fun x s => (.found x, s)

def lastSeen : Parse Token := fun x s =>
  match x.tokens.tokens[s.fetched - 1]? with
  | some t => (.found t, s)
  | none => (.missing, s)

def passed : Parse Token := fun x s =>
  match x.tokens.tokens[s.position - 1]? with
  | some t => (.found t, s)
  | none => (.missing, s)

def fault (f : SyntaxFault) : Parse α := fun _ s => (.faulty f, s)

def faultAtBytes (line bytes : Nat) (c : Cause) : Parse α := do
  let x ← context
  let t ← lastSeen
  let c := if x.input.shift.isSome then .embedded c else c
  fault ⟨c, some line, some (x.input.column t.mark line bytes)⟩

def faultAt (t : Token) (c : Cause) : Parse α :=
  faultAtBytes t.line ((t.column.map (· + 1)).getD 0) c

def faultAtNode (n : Node) (c : Cause) : Parse α :=
  faultAtBytes (n.line?.getD 0).toNat (n.place.column + 1) c

/-- A fault at the last token that has been looked at. One without a column is where the reading
of the text stands. -/
def faultHere (c : Cause) : Parse α := do
  let t ← lastSeen
  let bytes := match t.column with
    | some k => k + 1
    | none => if t.mark.offset = t.mark.keptFrom then 0 else t.mark.bytes
  faultAtBytes t.line bytes c

def forced (s : String) : Parse Token := do
  let t ← peek
  if (t.kind == .operator || t.kind == .keyword) && t.text == s then
    advance
    return t
  else faultAt t (.expected s)

def spanned (p : Parse (Place → Node)) : Parse Node := do
  let t ← peek
  let f ← p
  let last ← passed
  return f ⟨some t.line, t.column.getD 0, last.stop⟩

def remember (key : Nat) (p : Parse (List Node)) : Parse (List Node) := fun x s =>
  let start := s.position
  let slot := 64 * start + key
  match s.memo[slot]? with
  | some ⟨some ns, position⟩ => (.found ns, { s with position })
  | some ⟨none, position⟩ => (.missing, { s with position })
  | none =>
    match p x s with
    | (.found ns, s) =>
      let position := s.position
      (.found ns, { s with memo := s.memo.insert slot ⟨some ns, position⟩ })
    | (.missing, s) => (.missing, { s with memo := s.memo.insert slot ⟨none, start⟩ })
    | (.refused, s) => (.missing, { s with memo := s.memo.insert slot ⟨none, start⟩ })
    | (.faulty e, s) => (.faulty e, s)

end Parse

end CodeLint.Source
