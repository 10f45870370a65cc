/-!
# Sets of characters written as ranges

A set is written as hexadecimal numbers and ranges with blanks or line breaks between, such as
`"7f-a0 ad"`.
`Ranges.read` turns that text into pairs of bounds and `Ranges.has` looks a number up.
-/

namespace Dashboards
namespace Text

abbrev Ranges := Array (Nat × Nat)

namespace Ranges

def hexDigit (c : Char) : Nat :=
  if 'a' ≤ c && c ≤ 'f' then c.toNat - 87 else c.toNat - 48

/-- Adds the range that ends with `n`, if a number has been read. -/
def close (acc : Ranges) (lo n : Option Nat) : Ranges :=
  match n with
  | none => acc
  | some n => acc.push (lo.getD n, n)

/-- Reads the rest of a list of ranges; `lo` is the lower bound when a dash has been read and `n`
the number that is being read. -/
def readFrom (acc : Ranges) (lo n : Option Nat) : List Char → Ranges
  | [] => close acc lo n
  | c :: cs =>
    if c = ' ' || c = '\n' then readFrom (close acc lo n) none none cs
    else if c = '-' then readFrom acc n none cs
    else readFrom acc lo (some (n.getD 0 * 16 + hexDigit c)) cs

def read (s : String) : Ranges :=
  readFrom #[] none none s.toList

/-- Binary search between two indices of ascending, disjoint ranges; `fuel` bounds the number of
halvings. -/
def hasBetween (r : Ranges) (n : Nat) : Nat → Nat → Nat → Bool
  | 0, _, _ => false
  | fuel + 1, lo, hi =>
    if lo < hi then
      let mid := (lo + hi) / 2
      let (a, b) := r.getD mid (0, 0)
      if n < a then hasBetween r n fuel lo mid
      else if b < n then hasBetween r n fuel (mid + 1) hi
      else true
    else false

def has (r : Ranges) (n : Nat) : Bool :=
  hasBetween r n (r.size + 1) 0 r.size

end Ranges
end Text
end Dashboards
