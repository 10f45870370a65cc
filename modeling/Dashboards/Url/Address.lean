import Dashboards.Url.Idna.Mapping

/-!
# Numeric addresses of hosts

* `ipv4?`        up to four numbers between points, in base 8, 10 or 16; the last one fills what is
                 left of the 32 bits;
* `looksNumeric` the name has to be such an address, since it ends in a number;
* `ipv6?`        eight groups of hexadecimal digits, of which a row of zeros may be left out.
-/

namespace Dashboards
namespace Url

def digitIn? (radix : Nat) (c : Char) : Option Nat :=
  let v := if c.isDigit then some (c.toNat - 48)
    else if 'a' ≤ c && c ≤ 'f' then some (c.toNat - 87)
    else if 'A' ≤ c && c ≤ 'F' then some (c.toNat - 55)
    else none
  v.filter (· < radix)

def numberIn? (radix : Nat) (cs : List Char) : Option Nat :=
  cs.foldl (fun acc c => do return (← acc) * radix + (← digitIn? radix c)) (some 0)

/-- A number that begins with `0x` is in base 16, one that begins with `0` in base 8. -/
def ipv4Number? : List Char → Option Nat
  | [] => none
  | '0' :: 'x' :: r => numberIn? 16 r
  | '0' :: 'X' :: r => numberIn? 16 r
  | '0' :: c :: r => numberIn? 8 (c :: r)
  | cs => numberIn? 10 cs

def pointParts (cs : List Char) : List (List Char) := Idna.splitAt (· = '.') cs

/-- The last part of a name, not counting a point at its end. -/
def lastPart (cs : List Char) : List Char :=
  let parts := (pointParts cs).reverse
  match parts with
  | [] :: p :: _ => p
  | p :: _ => p
  | [] => []

def looksNumeric (cs : List Char) : Bool :=
  let p := lastPart cs
  (!p.isEmpty && p.all Char.isDigit) || (ipv4Number? p).isSome

/-- The number of an address. -/
def ipv4? (cs : List Char) : Option Nat := do
  let parts := pointParts cs
  let parts := if parts.getLast? = some [] then parts.dropLast else parts
  if parts.length > 4 then none
  else
    let numbers ← parts.mapM ipv4Number?
    let last ← numbers.getLast?
    let front := numbers.dropLast
    if front.any (· > 255) || last ≥ Nat.pow 256 (4 - front.length) then none
    else some ((front.foldl (fun n x => n * 256 + x) 0) * Nat.pow 256 (4 - front.length) + last)

def ipv4Text (n : Nat) : String :=
  ".".intercalate ([n / 16777216 % 256, n / 65536 % 256, n / 256 % 256, n % 256].map toString)

/-- A number from 0 to 255 without leading zeros. -/
def octet? (cs : List Char) : Option Nat :=
  match cs with
  | [] => none
  | '0' :: _ :: _ => none
  | cs => (if cs.length ≤ 3 then numberIn? 10 cs else none).filter (· ≤ 255)

/-- Four numbers as the last two groups. -/
def ipv4Groups? (cs : List Char) : Option (List Nat) := do
  match ← (pointParts cs).mapM octet? with
  | [a, b, c, d] => some [a * 256 + b, c * 256 + d]
  | _ => none

/-- Reads groups. `acc` are those so far, with a zero for a double colon; `gap` is how many stand
before the end of the double colon. -/
def ipv6Groups? : Nat → List Nat → Option Nat → List Char → Option (List Nat × Option Nat)
  | 0, acc, gap, _ => some (acc, gap)
  | _, acc, gap, [] => some (acc, gap)
  | fuel + 1, acc, gap, c :: cs =>
    if acc.length = 8 then none
    else if c = ':' then
      if gap.isSome then none else ipv6Groups? fuel (acc ++ [0]) (some (acc.length + 1)) cs
    else
      let digits := ((c :: cs).take 4).takeWhile fun x => (digitIn? 16 x).isSome
      let value := (numberIn? 16 digits).getD 0
      match (c :: cs).drop digits.length with
      | [] => some (acc ++ [value], gap)
      | '.' :: _ =>
        if digits.isEmpty || acc.length > 6 then none
        else (ipv4Groups? (c :: cs)).map fun g => (acc ++ g, gap)
      | ':' :: rest => if rest.isEmpty then none else ipv6Groups? fuel (acc ++ [value]) gap rest
      | _ => none

/-- The eight groups of an address. -/
def ipv6? (cs : List Char) : Option (List Nat) := do
  let (acc, gap) ← match cs with
    | ':' :: ':' :: rest => ipv6Groups? (cs.length + 1) [0] (some 1) rest
    | ':' :: _ => none
    | [] => none
    | [_] => none
    | _ => ipv6Groups? (cs.length + 1) [] none cs
  match gap with
  | none => if acc.length = 8 then some acc else none
  | some k => some (acc.take k ++ List.replicate (8 - acc.length) 0 ++ acc.drop k)

/-- Start and length of the first longest row of zeros. -/
def zeroRow (groups : List Nat) : Nat × Nat :=
  (List.range 8).foldl (fun best i =>
    let n := ((groups.drop i).takeWhile (· = 0)).length
    if n > best.2 then (i, n) else best) (0, 0)

def hexText (n : Nat) : List Char := Nat.toDigits 16 n

def colons (groups : List Nat) : List Char :=
  (":".intercalate (groups.map fun n => String.ofList (hexText n))).toList

/-- The first longest row of at least two zeros is left out. -/
def ipv6Text (groups : List Nat) : String :=
  let (start, n) := zeroRow groups
  if n < 2 then String.ofList (colons groups)
  else String.ofList (colons (groups.take start) ++ ':' :: ':' :: colons (groups.drop (start + n)))

end Url
end Dashboards
