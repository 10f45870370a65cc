import Dashboards.Text.Utf8

/-!
# Percent encoding

A byte is written as `%` and two hexadecimal digits where the part of a URL that it stands in does
not admit it.
-/

namespace Dashboards
namespace Url
open Text (Bytes)

/-- The characters of ASCII that a part of a URL does not admit, beside the controls. -/
abbrev Reserved := List Char

def inFragment : Reserved := [' ', '"', '<', '>', '`']

def inQuery : Reserved := [' ', '"', '#', '<', '>', '\'']

def inPath : Reserved := inFragment ++ ['#', '?', '\x7b', '\x7d', '^']

def inUserinfo : Reserved := inPath ++ ['/', ':', ';', '=', '@', '[', '\\', ']', '|']

def upperHex (n : Nat) : Char := if n < 10 then Char.ofNat (48 + n) else Char.ofNat (55 + n)

def percentByte (b : UInt8) : List Char := ['%', upperHex (b.toNat / 16), upperHex (b.toNat % 16)]

def percentChar (reserved : Reserved) (c : Char) : List Char :=
  if c.toNat < 0x20 || 0x7F ≤ c.toNat || reserved.contains c then
    (String.utf8EncodeChar c).flatMap percentByte
  else [c]

def percentEncode (reserved : Reserved) (cs : List Char) : List Char :=
  cs.flatMap (percentChar reserved)

def hexDigit? (b : UInt8) : Option Nat :=
  let n := b.toNat
  if 48 ≤ n && n ≤ 57 then some (n - 48)
  else if 97 ≤ n && n ≤ 102 then some (n - 87)
  else if 65 ≤ n && n ≤ 70 then some (n - 55)
  else none

/-- A percent sign without two digits behind it stands for itself. -/
def percentDecode : Bytes → Bytes
  | 37 :: a :: b :: r =>
    match hexDigit? a, hexDigit? b with
    | some x, some y => (x * 16 + y).toUInt8 :: percentDecode r
    | _, _ => 37 :: percentDecode (a :: b :: r)
  | x :: r => x :: percentDecode r
  | [] => []

end Url
end Dashboards
