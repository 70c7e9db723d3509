import CodeLint.Number.Nearest
import CodeLint.Source.Escape
import CodeLint.Tree.Node

/-!
The value of a number as it is written. Underscores are passed over. A decimal whole number of
more than 4300 digits is refused.
-/

namespace CodeLint.Source

open CodeLint.Number CodeLint.Tree

def maxDigits : Nat := 4300

def decimalNumber (cs : List Char) : Nat := cs.foldl (fun n c => 10 * n + (c.toNat - 48)) 0
def binaryNumber (cs : List Char) : Nat := cs.foldl (fun n c => 2 * n + (c.toNat - 48)) 0

def exponentBound (digits : Nat) : Nat := digits + 400

def realNumber (cs : List Char) : Double :=
  let whole := cs.takeWhile Char.isDigit
  let rest := cs.dropWhile Char.isDigit
  let part := match rest with
    | '.' :: r => r.takeWhile Char.isDigit
    | _ => []
  let rest := match rest with
    | '.' :: r => r.dropWhile Char.isDigit
    | r => r
  let (negative, power) := match rest with
    | _ :: '-' :: r => (true, decimalNumber (r.takeWhile Char.isDigit))
    | _ :: '+' :: r => (false, decimalNumber (r.takeWhile Char.isDigit))
    | _ :: r => (false, decimalNumber (r.takeWhile Char.isDigit))
    | [] => (false, 0)
  let mantissa := decimalNumber (whole ++ part)
  let bound := exponentBound (whole.length + part.length)
  let power : Int := if negative then -(min power bound : Nat) else (min power bound : Nat)
  let power := power - part.length
  if mantissa = 0 then .zero else .ofDecimal false mantissa power

def decimalValue (cs : List Char) : Except Cause Atom :=
  if cs.getLast? == some 'j' || cs.getLast? == some 'J' then
    pure (.complex .zero (realNumber cs.dropLast))
  else if cs.all (· == '0') then pure (.int 0)
  else if cs.all Char.isDigit then
    if cs.length > maxDigits then throw (.tooManyDigits cs.length)
    else pure (.int (decimalNumber cs))
  else pure (.float (realNumber cs))

def numberValue (text : String) : Except Cause Atom :=
  let cs := text.toList.filter (· != '_')
  match cs with
  | '0' :: x :: ds =>
    if x == 'x' || x == 'X' then pure (.int (hexNumber ds))
    else if x == 'o' || x == 'O' then pure (.int (octalNumber ds))
    else if x == 'b' || x == 'B' then pure (.int (binaryNumber ds))
    else decimalValue cs
  | _ => decimalValue cs

end CodeLint.Source
