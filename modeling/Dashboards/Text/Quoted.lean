import Dashboards.Text.Unprintable
import Dashboards.Text.Utf8

/-!
# Quoted texts in messages

A text or a path stands in a message between double quotes. Quotes, backslashes and the common
controls are written with a backslash, characters without a shape of their own by their number in
braces, and the bytes of a path that are no UTF-8 as two hexadecimal digits.
-/

namespace Dashboards
namespace Text

def hexChar (upper : Bool) (n : Nat) : Char :=
  if n < 10 then Char.ofNat (48 + n) else Char.ofNat ((if upper then 55 else 87) + n)

/-- The hexadecimal digits of a number, without leading zeros. -/
def hexDigits (n : Nat) : List Char :=
  (Nat.toDigits 16 n)

namespace Quoted

def char (c : Char) : List Char :=
  if c = '\x00' then ['\\', '0']
  else if c = '\t' then ['\\', 't']
  else if c = '\n' then ['\\', 'n']
  else if c = '\r' then ['\\', 'r']
  else if c = '"' || c = '\\' then ['\\', c]
  else if isUnprintable c then "\\u\x7b".toList ++ hexDigits c.toNat ++ ['\x7d']
  else [c]

/-- A byte that belongs to no character. -/
def byte (b : UInt8) : List Char :=
  ['\\', 'x', hexChar true (b.toNat / 16), hexChar true (b.toNat % 16)]

end Quoted

def quoted (s : String) : String :=
  String.ofList ('"' :: s.toList.flatMap Quoted.char ++ ['"'])

def quotedBytes (bs : Bytes) : String :=
  String.ofList ('"' :: (pieces bs).flatMap (fun
    | .inl c => Quoted.char c
    | .inr junk => junk.flatMap Quoted.byte) ++ ['"'])

end Text
end Dashboards
