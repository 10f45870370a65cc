import Dashboards.Text.Utf8

/-!
# Binary fractions and their shortest decimal form

* `Binary`            a number `m * 2^e` with a sign, as 64 bits can hold it;
* `Binary.ofDecimal?` the nearest such number to a decimal one, a tie going to the even neighbour;
* `Binary.shortest`   the fewest digits that lie nearer to the number than to its neighbours, and of
                      those the nearest.

Everything is exact arithmetic on natural numbers.
-/

namespace Dashboards

/-- A finite binary fraction. A number that is not zero has its mantissa below `2^53`, and not below
`2^52` unless the exponent is `-1074`. -/
structure Binary where
  negative : Bool
  mantissa : Nat
  exponent : Int
deriving DecidableEq

namespace Binary

/-- `a * 10^k` as numerator and denominator. -/
def tenTimes (a : Nat) (k : Int) : Nat × Nat :=
  if 0 ≤ k then (a * Nat.pow 10 k.toNat, 1) else (a, Nat.pow 10 (-k).toNat)

/-- `a * 2^k` as numerator and denominator. -/
def twoTimes (a : Nat) (k : Int) : Nat × Nat :=
  if 0 ≤ k then (a * Nat.pow 2 k.toNat, 1) else (a, Nat.pow 2 (-k).toNat)

/-- The quotient rounded to the nearest number, a tie to the even one. -/
def roundDiv (num den : Nat) : Nat :=
  let q := num / den
  let r := num % den
  if 2 * r > den || (2 * r = den && q % 2 = 1) then q + 1 else q

/-- The binary fraction nearest to `num / den`; `none` if it is too large. -/
def ofQuotient? (negative : Bool) (num den : Nat) : Option Binary :=
  if num = 0 then some ⟨negative, 0, -1074⟩
  else
    let guess : Int := (Nat.log2 num : Int) - Nat.log2 den - 52
    let scaled (e : Int) : Nat × Nat :=
      if 0 ≤ e then (num, den * Nat.pow 2 e.toNat) else (num * Nat.pow 2 (-e).toNat, den)
    let (n, d) := scaled guess
    let e := max (if n / d < Nat.pow 2 52 then guess - 1 else guess) (-1074)
    let (n, d) := scaled e
    let m := roundDiv n d
    let (m, e) := if m = Nat.pow 2 53 then (Nat.pow 2 52, e + 1) else (m, e)
    if e > 971 then none else some ⟨negative, m, e⟩

/-- The binary fraction nearest to `digits * 10^k`; `none` if it is too large. Exponents far outside
the range are decided by the number of digits alone. -/
def ofDecimal? (negative : Bool) (digits : Nat) (k : Int) : Option Binary :=
  let width : Int := (Nat.toDigits 10 digits).length
  if digits = 0 || k + width < -400 then some ⟨negative, 0, -1074⟩
  else if k + width > 400 then none
  else
    let (num, den) := tenTimes digits k
    ofQuotient? negative num den

/-- Compares `a * 10^k` with `b * 2^j`. -/
def compareTo (a : Nat) (k : Int) (b : Nat) (j : Int) : Ordering :=
  let (n, d) := tenTimes a k
  let (n', d') := twoTimes b j
  compare (n * d') (n' * d)

/-- The decimal `a * 10^k` reads back as the number. -/
def readsBack (x : Binary) (a : Nat) (k : Int) : Bool :=
  let down := if x.mantissa = Nat.pow 2 52 && x.exponent > -1074 then 1 else 2
  let low := compareTo a k (4 * x.mantissa - down) (x.exponent - 2)
  let high := compareTo a k (4 * x.mantissa + 2) (x.exponent - 2)
  if x.mantissa % 2 = 0 then low ≠ .lt && high ≠ .gt else low = .gt && high = .lt

/-- The least `p` with the number below `10^p`. -/
def magnitude (x : Binary) : Int :=
  let (n, d) := twoTimes x.mantissa x.exponent
  if n / d ≠ 0 then (Nat.toDigits 10 (n / d)).length
  else
    -- `d / n` has `t` or `t + 1` digits when the number is about `10^-t`
    let t := (Nat.toDigits 10 (d / n)).length
    let low := -(t - 1 : Int)
    if compareTo 1 low x.mantissa x.exponent = .gt then low else low + 1

/-- The neighbours of the number among the multiples of `10^k`, tested for reading back. -/
def onGrid? (x : Binary) (k : Int) : Option Nat :=
  let (n, d) := twoTimes x.mantissa x.exponent
  let (n, d) := if 0 ≤ k then (n, d * Nat.pow 10 k.toNat) else (n * Nat.pow 10 (-k).toNat, d)
  let a := n / d
  match x.readsBack a k, x.readsBack (a + 1) k with
  | true, true => some (roundDiv n d)
  | true, false => some a
  | false, true => some (a + 1)
  | false, false => none

def stripZeros : Nat → Nat → Int → Nat × Int
  | 0, a, k => (a, k)
  | fuel + 1, a, k => if a ≠ 0 && a % 10 = 0 then stripZeros fuel (a / 10) (k + 1) else (a, k)

def shortestFrom (x : Binary) (p : Int) : Nat → Nat → Nat × Int
  | 0, _ => (0, 0)
  | left + 1, n =>
    match x.onGrid? (p - n) with
    | some a => stripZeros 20 a (p - n)
    | none => shortestFrom x p left (n + 1)

/-- The shortest decimal form `a * 10^k` of the number without its sign. -/
def shortest (x : Binary) : Nat × Int :=
  if x.mantissa = 0 then (0, 0) else x.shortestFrom x.magnitude 17 1

def zeros (n : Nat) : String := String.ofList (List.replicate n '0')

/-- The number with a decimal point and no exponent. -/
def positional (x : Binary) : String :=
  let (a, k) := x.shortest
  let ds := String.ofList (Nat.toDigits 10 a)
  let sign := if x.negative then "-" else ""
  sign ++
    if 0 ≤ k then ds ++ zeros k.toNat ++ ".0"
    else
      let point := (ds.length : Int) + k
      if 0 < point then
        (ds.take point.toNat).toString ++ "." ++ (ds.drop point.toNat).toString
      else "0." ++ zeros (-point).toNat ++ ds

/-- The number with a decimal point where that needs no long row of zeros, otherwise with one digit
before the point and an exponent. -/
def general (x : Binary) : String :=
  let (a, k) := x.shortest
  let ds := String.ofList (Nat.toDigits 10 a)
  let point := (ds.length : Int) + k
  if -5 < point && point ≤ 16 then x.positional
  else
    let sign := if x.negative then "-" else ""
    let front := if ds.length = 1 then ds else (ds.take 1).toString ++ "." ++ (ds.drop 1).toString
    sign ++ front ++ "e" ++ toString (point - 1)

end Binary
end Dashboards
