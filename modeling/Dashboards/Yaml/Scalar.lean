import Dashboards.Decimal

/-!
# What a scalar without quotes stands for

* `Number`         integers and binary fractions, with infinities and the undefined number;
* `Scalar`         nothing, truth values, numbers and texts;
* `Scalar.ofPlain` the reading of a plain scalar. Digits behind a leading zero are a text.
-/

namespace Dashboards
namespace Yaml

inductive Number where
  | int (n : Int)
  | finite (x : Binary)
  | infinite (negative : Bool)
  | undefined
deriving DecidableEq

namespace Number

def text : Number → String
  | .int n => toString n
  | .finite x => x.general
  | .infinite negative => if negative then "-.inf" else ".inf"
  | .undefined => ".nan"

/-- Two zeros are the same number, whatever their signs. -/
def same : Number → Number → Bool
  | .finite x, .finite y => x = y || (x.mantissa = 0 && y.mantissa = 0)
  | m, n => m = n

end Number

inductive Scalar where
  | null
  | bool (b : Bool)
  | number (n : Number)
  /-- An integer that needs more than 64 bits; such a value has no place in a document. -/
  | wide (n : Int)
  | text (s : String)
deriving DecidableEq

namespace Scalar

def isNull (s : String) : Bool := s = "null" || s = "Null" || s = "NULL" || s = "~"

def bool? (s : String) : Option Bool :=
  if s = "true" || s = "True" || s = "TRUE" then some true
  else if s = "false" || s = "False" || s = "FALSE" then some false
  else none

def digitValue? (radix : Nat) (c : Char) : Option Nat :=
  let v := if c.isDigit then some (c.toNat - 48)
    else if 'a' ≤ c && c ≤ 'f' then some (c.toNat - 87)
    else if 'A' ≤ c && c ≤ 'F' then some (c.toNat - 55)
    else none
  v.filter (· < radix)

/-- A row of at least one digit. -/
def natural? (radix : Nat) (cs : List Char) : Option Nat :=
  if cs.isEmpty then none
  else cs.foldl (fun acc c => do return (← acc) * radix + (← digitValue? radix c)) (some 0)

/-- Digits in the base that a `0x`, `0o` or `0b` calls for. -/
def based? : List Char → Option Nat
  | '0' :: 'x' :: r => natural? 16 r
  | '0' :: 'o' :: r => natural? 8 r
  | '0' :: 'b' :: r => natural? 2 r
  | _ => none

/-- A zero followed by more digits, with or without a sign. -/
def isZeroPadded (cs : List Char) : Bool :=
  let cs := match cs with
    | '-' :: r => r
    | '+' :: r => r
    | cs => cs
  match cs with
  | '0' :: d :: r => (d :: r).all Char.isDigit
  | _ => false

def magnitude? (cs : List Char) : Option Nat :=
  (based? cs).or (if isZeroPadded cs then none else natural? 10 cs)

/-- An integer of at most 128 bits. -/
def int? (cs : List Char) : Option Scalar :=
  match cs with
  | '-' :: r => do
    let n ← magnitude? r
    if n ≤ Nat.pow 2 63 then some (.number (.int (-n)))
    else if n ≤ Nat.pow 2 127 then some (.wide (-n))
    else none
  | _ => do
    let n ← magnitude? (match cs with | '+' :: r => r | _ => cs)
    if n < Nat.pow 2 64 then some (.number (.int n))
    else if n < Nat.pow 2 128 then some (.wide n)
    else none

/-- Digits with an optional point and exponent, as digits times a power of ten. -/
def decimal? (cs : List Char) : Option (Nat × Int) :=
  let whole := cs.takeWhile Char.isDigit
  let rest := cs.dropWhile Char.isDigit
  let (frac, rest) := match rest with
    | '.' :: r => (r.takeWhile Char.isDigit, r.dropWhile Char.isDigit)
    | r => ([], r)
  let digits := whole ++ frac
  match natural? 10 digits with
  | none => none
  | some n =>
    let shift : Int := -(frac.length : Int)
    match rest with
    | [] => some (n, shift)
    | e :: r =>
      if e = 'e' || e = 'E' then
        match r with
        | '-' :: r => (natural? 10 r).map fun x => (n, shift - x)
        | '+' :: r => (natural? 10 r).map fun x => (n, shift + x)
        | r => (natural? 10 r).map fun x => (n, shift + x)
      else none

/-- A binary fraction; a number that is too large is a text. -/
def fraction? (s : String) : Option Number :=
  if s = ".nan" || s = ".NaN" || s = ".NAN" then some .undefined
  else if s = "-.inf" || s = "-.Inf" || s = "-.INF" then some (.infinite true)
  else
    let cs := match s.toList with
      | '+' :: r => r
      | cs => cs
    let t := String.ofList cs
    if t = ".inf" || t = ".Inf" || t = ".INF" then some (.infinite false)
    else
      let finite (negative : Bool) (cs : List Char) : Option Number := do
        let (n, k) ← decimal? cs
        return .finite (← Binary.ofDecimal? negative n k)
      match s.toList, cs with
      | '+' :: _, cs => finite false cs
      | _, '-' :: r => finite true r
      | _, cs => finite false cs

def ofPlain (s : String) : Scalar :=
  if s.isEmpty || isNull s then .null
  else match bool? s with
    | some b => .bool b
    | none =>
      match int? s.toList with
      | some n => n
      | none =>
        if isZeroPadded s.toList then .text s
        else match fraction? s with
          | some x => .number x
          | none => .text s

end Scalar
end Yaml
end Dashboards
