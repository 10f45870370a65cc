import Dashboards.Url.Idna.Classes
import Dashboards.Url.Idna.Composition
import Dashboards.Url.Punycode

/-!
# International domain names

`toAscii?` maps a domain name to its ASCII form: its characters are mapped and composed, each label
is checked, and those that are not ASCII are written in Punycode behind `xn--`.
-/

namespace Dashboards
namespace Url
namespace Idna

def isAscii (cs : List Char) : Bool := cs.all (·.toNat < 128)

/-! ### joiners -/

def nonJoiner : Char := Char.ofNat 0x200C

def joiner : Char := Char.ofNat 0x200D

/-- A mark of this class suppresses the vowel of the letter before it. -/
def isVirama (c : Char) : Bool := markClass c.toNat = 9

def skipTransparent (cs : List Char) : List Char :=
  cs.dropWhile (Joining.ofChar · = .transparent)

/-- A non-joiner stands behind a virama, or between letters that would join without it. -/
def nonJoinerOk (before after : List Char) : Bool :=
  before.head?.any isVirama
    || ((skipTransparent before).head?.any (fun c =>
          Joining.ofChar c = .left || Joining.ofChar c = .dual)
        && (skipTransparent after).head?.any (fun c =>
          Joining.ofChar c = .right || Joining.ofChar c = .dual))

/-- Every joiner of a label stands where it may; `before` is what precedes, in reverse. -/
def joinersOk (before : List Char) : List Char → Bool
  | [] => true
  | c :: cs =>
    (if c = nonJoiner then nonJoinerOk before cs
     else if c = joiner then before.head?.any isVirama
     else true) && joinersOk (c :: before) cs

/-! ### direction -/

def runsRightToLeft (c : Char) : Bool :=
  let d := Direction.ofChar c
  d = .rightToLeft || d = .arabicLetter || d = .arabicNumber

/-- The last class of a label that is not a mark's. -/
def ending (ds : List Direction) : Option Direction :=
  (ds.reverse.dropWhile (· = .nonspacingMark)).head?

/-- The rule for the labels of a name in which some text runs from right to left. -/
def directionOk (label : List Char) : Bool :=
  let ds := label.map Direction.ofChar
  match ds.head? with
  | none => true
  | some d =>
    if d = .rightToLeft || d = .arabicLetter then
      !ds.contains .leftToRight
        && (ending ds).any (fun e => e = .rightToLeft || e = .arabicLetter || e = .europeanNumber
          || e = .arabicNumber)
        && !(ds.contains .europeanNumber && ds.contains .arabicNumber)
    else if d = .leftToRight then
      !(ds.contains .rightToLeft || ds.contains .arabicLetter || ds.contains .arabicNumber)
        && (ending ds).any (fun e => e = .leftToRight || e = .europeanNumber)
    else false

/-! ### labels -/

def mapAll? (cs : List Char) : Option (List Char) := (cs.mapM mapped?).map List.flatten

/-- A label in its final characters. -/
def labelOk (label : List Char) : Bool :=
  label.all isValid && !label.head?.any isMark && joinersOk [] label

/-- The most characters that are written in Punycode, and that are read from it. -/
def encodedLimit : Nat := 1000

def decodedLimit : Nat := 2000

/-- The characters that a label stands for. A label behind `xn--` must not be one that could be
written without it. -/
def expand? (label : List Char) : Option (List Char) :=
  match label with
  | 'x' :: 'n' :: '-' :: '-' :: code =>
    if code.length > decodedLimit then none
    else match Punycode.decode? code with
      | none => none
      | some cs => if !isAscii cs && normal cs = cs && labelOk cs then some cs else none
  | _ => if labelOk label then some label else none

def contract? (label : List Char) : Option (List Char) :=
  if isAscii label then some label
  else if label.length > encodedLimit then none
  else some ("xn--".toList ++ Punycode.encode label)

def joinLabels : List (List Char) → List Char
  | [] => []
  | [l] => l
  | l :: m :: ls => l ++ '.' :: joinLabels (m :: ls)

/-- The characters of ASCII that no domain name holds. -/
def isForbidden (c : Char) : Bool :=
  c.toNat ≤ 0x20 || c.toNat = 0x7F || "%#/:<>?@[\\]^|".toList.contains c

/-- The ASCII form of a domain name; `none` if it is not one. -/
def toAscii? (domain : List Char) : Option (List Char) := do
  let mapped ← mapAll? domain
  let labels ← (splitAt (· = '.') (normal mapped)).mapM expand?
  let anyRight := labels.any (·.any runsRightToLeft)
  if anyRight && !labels.all directionOk then none
  else
    let ascii := joinLabels (← labels.mapM contract?)
    if ascii.any isForbidden then none else some ascii

end Idna
end Url
end Dashboards
