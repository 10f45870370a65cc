/-!
# Punycode

The characters of a label beyond ASCII are written as a row of differences, each as a number in base
36 whose digits end by themselves; the bias that decides how adapts to the differences so far.

* `encode`    the ASCII form of a label, without the sign in front of it;
* `decode?`   the label of such a form.
-/

namespace Dashboards
namespace Url
namespace Punycode

def digitChar (d : Nat) : Char :=
  if d < 26 then Char.ofNat (97 + d) else Char.ofNat (48 + (d - 26))

def digitValue? (c : Char) : Option Nat :=
  if 'a' ≤ c && c ≤ 'z' then some (c.toNat - 97)
  else if 'A' ≤ c && c ≤ 'Z' then some (c.toNat - 65)
  else if c.isDigit then some (c.toNat - 48 + 26)
  else none

/-- The digit at position `k` is the last one if it is below this. -/
def threshold (bias k : Nat) : Nat :=
  if k ≤ bias then 1 else if bias + 26 ≤ k then 26 else k - bias

theorem threshold_pos (bias k : Nat) : 0 < threshold bias k := by
  unfold threshold
  repeat' split
  all_goals omega

theorem threshold_le (bias k : Nat) : threshold bias k ≤ 26 := by
  unfold threshold
  repeat' split
  all_goals omega

def damp (delta k : Nat) : Nat :=
  if h : 455 < delta then damp (delta / 35) (k + 36) else k + 36 * delta / (delta + 38)
termination_by delta

/-- The bias after a difference; `count` characters stand in the label then. -/
def adapt (delta count : Nat) (isFirst : Bool) : Nat :=
  let d := if isFirst then delta / 700 else delta / 2
  damp (d + d / count) 0

def encodeNumber (bias k q : Nat) : List Char :=
  let t := threshold bias k
  if q < t then [digitChar q]
  else digitChar (t + (q - t) % (36 - t)) :: encodeNumber bias (k + 36) ((q - t) / (36 - t))
termination_by q
decreasing_by
  have h1 := threshold_pos bias k
  have h2 := Nat.div_le_self (q - threshold bias k) (36 - threshold bias k)
  omega

structure Encoder where
  out : List Char
  delta : Nat
  bias : Nat
  handled : Nat

/-- One character of the label while those equal to `m` are written. -/
def Encoder.see (basics m : Nat) (e : Encoder) (c : Char) : Encoder :=
  if c.toNat < m then { e with delta := e.delta + 1 }
  else if c.toNat = m then
    { out := e.out ++ encodeNumber e.bias 36 e.delta
      delta := 0
      bias := adapt e.delta (e.handled + 1) (e.handled = basics)
      handled := e.handled + 1 }
  else e

/-- Writes the characters in ascending order; `n` is the least one that may come. -/
def encodeFrom (cs : List Char) (basics : Nat) : List Nat → Nat → Encoder → Encoder
  | [], _, e => e
  | m :: ms, n, e =>
    let e := cs.foldl (Encoder.see basics m) { e with delta := e.delta + (m - n) * (e.handled + 1) }
    encodeFrom cs basics ms (m + 1) { e with delta := e.delta + 1 }

def insertOnce (x : Nat) : List Nat → List Nat
  | [] => [x]
  | y :: ys => if x < y then x :: y :: ys else if x = y then y :: ys else y :: insertOnce x ys

def encode (cs : List Char) : List Char :=
  let basic := cs.filter (·.toNat < 128)
  let others := (cs.filter (128 ≤ ·.toNat)).foldr (fun c acc => insertOnce c.toNat acc) []
  let e := encodeFrom cs basic.length others 128 ⟨[], 0, 72, basic.length⟩
  basic ++ (if basic.isEmpty then [] else ['-']) ++ e.out

/-- Reads one difference and adds it to `i`; `w` is the weight of the next digit. -/
def decodeNumber? (bias : Nat) : List Char → (k w i : Nat) → Option (Nat × List Char)
  | [], _, _, _ => none
  | c :: cs, k, w, i =>
    match digitValue? c with
    | none => none
    | some d =>
      let t := threshold bias k
      if d < t then some (i + d * w, cs)
      else decodeNumber? bias cs (k + 36) (w * (36 - t)) (i + d * w)

theorem decodeNumber?_length {bias : Nat} {cs : List Char} {k w i : Nat} {r : Nat × List Char}
    (h : decodeNumber? bias cs k w i = some r) : r.2.length < cs.length := by
  fun_induction decodeNumber? bias cs k w i with
  | case1 => cases h
  | case2 => cases h
  | case3 => cases h; simp
  | case4 _ _ _ _ _ _ _ _ _ ih => have := ih h; simp only [List.length_cons]; omega

/-- Puts the decoded characters into the label one after the other. -/
def decodeFrom? (bias n i : Nat) (out : List Char) : List Char → Option (List Char)
  | [] => some out
  | c :: cs =>
    match _h : decodeNumber? bias (c :: cs) 36 1 i with
    | none => none
    | some (j, rest) =>
      let count := out.length + 1
      let m := n + j / count
      if m.isValidChar then
        decodeFrom? (adapt (j - i) count (i = 0)) m (j % count + 1)
          (out.insertIdx (j % count) (Char.ofNat m)) rest
      else none
termination_by cs => cs.length
decreasing_by exact decodeNumber?_length _h

/-- What stands before the last hyphen, unless that is the first character, is plain. -/
def decode? (cs : List Char) : Option (List Char) :=
  let tail := (cs.reverse.takeWhile (· ≠ '-')).reverse
  let front := cs.take (cs.length - tail.length - 1)
  if front.isEmpty then decodeFrom? 72 128 0 [] cs
  else if front.all (·.toNat < 128) then decodeFrom? 72 128 0 front tail
  else none

end Punycode
end Url
end Dashboards
