import CodeLint.Source.Grammar.Rule
import CodeLint.Source.Number

/-!
Numbers and strings as nodes. Strings that stand side by side are one. If one of them is a
formatted text the whole is, and byte strings do not mix with others.
-/

namespace CodeLint.Source.Grammar

open CodeLint.Tree Parse

def number : Parse Node := do
  let t ← ofKind .number
  match numberValue t.text with
  | .ok a => return constantNode a (placeOf t)
  | .error c => faultAtBytes t.line 0 c

structure StringParts where
  bytes : Bool
  raw : Bool
  formatted : Bool
  body : List Char
  start : Nat

def stringParts (text : String) : StringParts :=
  let cs := text.toList
  let letters := (cs.takeWhile Char.isAlpha).map Char.toLower
  let rest := cs.dropWhile Char.isAlpha
  let size := match rest with
    | a :: b :: c :: _ :: _ :: _ :: _ => if a == b && b == c then 3 else 1
    | _ => 1
  let body := (rest.drop size).take (rest.length - 2 * size)
  ⟨letters.contains 'b', letters.contains 'r', letters.contains 'f', body, letters.length + size⟩

mutual
def pieceNode (p : Place) : Piece → Node
  | .text cs => constantNode (.str (String.ofList cs)) p
  | .value e conversion none =>
    build .formattedValue [nodeField .value e, atomField .conversion (.int conversion)] p
  | .value e conversion (some ps) =>
    build .formattedValue
      [nodeField .value e, atomField .conversion (.int conversion),
        nodeField .formatSpec (build .joinedStr [listField .values (pieceNodes p ps)] p)] p
def pieceNodes (p : Place) : List Piece → List Node
  | [] => []
  | x :: xs => pieceNode p x :: pieceNodes p xs
end

def joinTexts : List Piece → List Piece
  | .text a :: rest =>
    match joinTexts rest with
    | .text b :: more => .text (a ++ b) :: more
    | more => if a.isEmpty then more else .text a :: more
  | x :: rest => x :: joinTexts rest
  | [] => []

inductive StringValue
  | bytes (bs : List UInt8)
  | pieces (formatted : Bool) (ps : List Piece)

def stringValue (t : Token) : Parse StringValue := do
  let x ← context
  let parts := stringParts t.text
  if parts.formatted then
    let setting := ⟨parts.raw, t.line, t.column.getD 0, x.names, x.expression⟩
    match pieces setting parts.start parts.body with
    | .ok ps => return .pieces true ps
    | .error (.general c) => faultHere c
    | .error (.inner f) => fault f
  else if parts.bytes then
    if parts.body.any (·.toNat ≥ 0x80) then faultAt t .nonAsciiBytes
    else if parts.raw then return .bytes (parts.body.map fun c => UInt8.ofNat c.toNat)
    else match unescapeBytes parts.body with
      | .ok bs => return .bytes bs
      | .error c => faultHere c
  else if parts.raw then return .pieces false [.text parts.body]
  else match unescape x.names parts.body with
    | .ok cs => return .pieces false [.text cs]
    | .error c => faultHere c

def stringValues : List Token → Option StringValue → Parse (Option StringValue)
  | [], acc => return acc
  | t :: ts, acc => do
    let v ← stringValue t
    match acc, v with
    | none, v => stringValues ts (some v)
    | some (.bytes a), .bytes b => stringValues ts (some (.bytes (a ++ b)))
    | some (.pieces f ps), .pieces g qs => stringValues ts (some (.pieces (f || g) (ps ++ qs)))
    | _, _ => faultHere .mixedTextAndBytes

def textOf : List Piece → List Char
  | .text cs :: ps => cs ++ textOf ps
  | _ :: ps => textOf ps
  | [] => []

def formattedNode (ps : List Piece) (p : Place) : Node :=
  build .joinedStr [listField .values (pieceNodes p (joinTexts ps))] p

def strings : Parse Node := spanned do
  let ts ← many1 (ofKind .string)
  match ← stringValues ts none with
  | some (.bytes bs) => return constantNode (.bytes bs)
  | some (.pieces true ps) => return formattedNode ps
  | some (.pieces false ps) => return constantNode (.str (String.ofList (textOf ps)))
  | none => miss

end CodeLint.Source.Grammar
