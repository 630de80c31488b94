import DeviceSplit.Text.Blank
import DeviceSplit.Text.Quoted

set_option autoImplicit false

/-! # Bytes in hexadecimal

A text gives bytes by two hexadecimal digits each, in either case. White space may stand in front
of a byte and at the end, but not inside a byte. -/

namespace DeviceSplit.Text

/-- The value of a hexadecimal digit. -/
def hexDigit? (c : Char) : Option Nat :=
  if c.isDigit then some (c.toNat - '0'.toNat)
  else if 'a' ≤ c ∧ c ≤ 'f' then some (c.toNat - 'a'.toNat + 10)
  else if 'A' ≤ c ∧ c ≤ 'F' then some (c.toNat - 'A'.toNat + 10)
  else none

/-- The bytes that the characters from a position on give, or the position of the first character
that is out of place. Where a byte lacks its second digit, this is the end of the text. -/
def hexBytesFrom (position : Nat) : List Char → Except Nat (List UInt8)
  | [] => .ok []
  | [c] =>
    if isSpace c then .ok []
    else .error (if (hexDigit? c).isSome then position + 1 else position)
  | c :: d :: r =>
    if isSpace c then hexBytesFrom (position + 1) (d :: r)
    else
      match hexDigit? c, hexDigit? d with
      | none, _ => .error position
      | some _, none => .error (position + 1)
      | some high, some low =>
        List.cons (UInt8.ofNat (16 * high + low)) <$> hexBytesFrom (position + 2) r

/-- The bytes that a text gives. A character beyond ASCII is out of place before any other. -/
def hexBytes (cs : List Char) : Except Nat (List UInt8) :=
  match cs.findIdx? (128 ≤ ·.toNat) with
  | some position => .error position
  | none => hexBytesFrom 0 cs

/-- Bytes written by two digits each, in lower case. -/
def hexChars (bs : List UInt8) : List Char := bs.flatMap fun b => hexDigits 2 b.toNat

end DeviceSplit.Text
