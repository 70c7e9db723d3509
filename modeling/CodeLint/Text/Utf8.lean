import CodeLint.Text.Quoted

/-!
Bytes as text in UTF-8. The first byte of a character says how many follow and in which range the
next one has to lie; the others lie between 80 and BF. Bytes that are no text give the range that
is at fault and why.
-/

namespace CodeLint.Text

inductive Utf8Reason
  | invalidStart
  | invalidContinuation
  | unexpectedEnd
  deriving DecidableEq

def Utf8Reason.text : Utf8Reason → String
  | .invalidStart => "invalid start byte"
  | .invalidContinuation => "invalid continuation byte"
  | .unexpectedEnd => "unexpected end of data"

structure Utf8Fault where
  position : Nat
  bytes : List UInt8
  reason : Utf8Reason

def Utf8Fault.message (f : Utf8Fault) : String :=
  let place := match f.bytes with
    | [b] => "byte 0x" ++ String.ofList (hexDigits 2 b.toNat) ++ " in position " ++
        toString f.position
    | bs => "bytes in position " ++ toString f.position ++ "-" ++
        toString (f.position + bs.length - 1)
  "'utf-8' codec can't decode " ++ place ++ ": " ++ f.reason.text

/-- The first byte of a character: how many bytes follow, the range of the next one, and the bits
that the first one gives. -/
structure Lead where
  follow : Nat
  low : Nat
  high : Nat
  bits : Nat

def lead? (b : Nat) : Option Lead :=
  if b < 0x80 then some ⟨0, 0x80, 0xBF, b⟩
  else if b < 0xC2 then none
  else if b < 0xE0 then some ⟨1, 0x80, 0xBF, b - 0xC0⟩
  else if b = 0xE0 then some ⟨2, 0xA0, 0xBF, 0⟩
  else if b = 0xED then some ⟨2, 0x80, 0x9F, 0xD⟩
  else if b < 0xF0 then some ⟨2, 0x80, 0xBF, b - 0xE0⟩
  else if b = 0xF0 then some ⟨3, 0x90, 0xBF, 0⟩
  else if b < 0xF4 then some ⟨3, 0x80, 0xBF, b - 0xF0⟩
  else if b = 0xF4 then some ⟨3, 0x80, 0x8F, 4⟩
  else none

def following : Nat → Nat → Nat → Nat → List UInt8 → List UInt8 →
    Except (List UInt8 × Utf8Reason) (Nat × List UInt8)
  | 0, _, _, bits, bs, _ => .ok (bits, bs)
  | n + 1, low, high, bits, bs, passed =>
    match bs with
    | [] => .error (passed.reverse, .unexpectedEnd)
    | b :: rest =>
      if low ≤ b.toNat ∧ b.toNat ≤ high then
        following n 0x80 0xBF (bits * 64 + (b.toNat - 0x80)) rest (b :: passed)
      else .error (passed.reverse, .invalidContinuation)

def decodeFrom : Nat → Nat → List UInt8 → List Char → Except Utf8Fault (List Char)
  | 0, _, _, acc => .ok acc
  | n + 1, pos, bs, acc =>
    match bs with
    | [] => .ok acc
    | b :: rest =>
      match lead? b.toNat with
      | none => .error ⟨pos, [b], .invalidStart⟩
      | some l =>
        match following l.follow l.low l.high l.bits rest [b] with
        | .ok (code, rest) => decodeFrom n (pos + 1 + l.follow) rest (Char.ofNat code :: acc)
        | .error (passed, reason) => .error ⟨pos, passed, reason⟩

def decodeUtf8 (bs : List UInt8) : Except Utf8Fault (List Char) :=
  (decodeFrom (bs.length + 1) 0 bs []).map List.reverse

end CodeLint.Text
