import Dashboards.Path

/-!
# Texts of the shell

The shell and its tools handle bytes, whatever these mean. A byte is held as the character of the
same number, so a text of the shell is a string whose characters are below 256.

* `Octets.ofBytes`, `Octets.toBytes`   from bytes and back;
* `Octets.ofText`                      the bytes of a Unicode text.
-/

namespace Dashboards
namespace Shell
open Text (Bytes)

/-- A string whose characters stand for bytes. -/
abbrev Octets := String

namespace Octets

def ofBytes (bs : Bytes) : Octets := String.ofList (bs.map fun b => Char.ofNat b.toNat)

def toBytes (s : Octets) : Bytes := s.toList.map fun c => c.toNat.toUInt8

def ofText (s : String) : Octets := ofBytes (Text.utf8 s)

def ofPath (p : Path) : Octets := ofBytes p.bytes

def toPath (s : Octets) : Path := ⟨toBytes s⟩

/-- The value of decimal digits. -/
def number? (s : Octets) : Option Nat :=
  if s.isEmpty || !s.toList.all Char.isDigit then none
  else some (s.toList.foldl (fun n c => n * 10 + (c.toNat - 48)) 0)

/-- The value of decimal digits behind an optional sign. -/
def integer? (s : Octets) : Option Int :=
  match s.toList with
  | '-' :: cs => (number? (String.ofList cs)).map fun n => -(n : Int)
  | '+' :: cs => (number? (String.ofList cs)).map fun n => (n : Int)
  | _ => (number? s).map fun n => (n : Int)

end Octets
end Shell
end Dashboards
