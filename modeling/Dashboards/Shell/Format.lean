import Dashboards.Shell.Sum

/-!
# Texts with escapes and formats

* `unescape`    the text that escapes behind backslashes stand for;
* `Format.print`   a format filled in with arguments, as often as there are any left.
-/

namespace Dashboards
namespace Shell

/-- A byte as a character. -/
def byteChar (n : Nat) : Char := Char.ofNat (n % 256)

def isOctal (c : Char) : Bool := '0' ≤ c && c ≤ '7'

def octalValue (cs : List Char) : Nat := cs.foldl (fun n c => n * 8 + (c.toNat - 48)) 0

/-- The character that an escape stands for, with the number of characters behind the backslash;
an escape without a meaning is a backslash. -/
def escaped (cs : List Char) : Char × Nat :=
  match cs with
  | 'a' :: _ => ('\x07', 1)
  | 'b' :: _ => ('\x08', 1)
  | 'f' :: _ => ('\x0c', 1)
  | 'n' :: _ => ('\n', 1)
  | 'r' :: _ => ('\r', 1)
  | 't' :: _ => ('\t', 1)
  | 'v' :: _ => ('\x0b', 1)
  | '\\' :: _ => ('\\', 1)
  | c :: cs =>
    if isOctal c then
      let digits := (c :: cs).take 3 |>.takeWhile isOctal
      (byteChar (octalValue digits), digits.length)
    else ('\\', 0)
  | [] => ('\\', 0)

/-- A text without its escapes, and whether an escape put an end to it. A nought may stand in front
of octal digits. -/
def unescapeWithin : Nat → List Char → List Char × Bool
  | 0, _ => ([], false)
  | _ + 1, [] => ([], false)
  | _ + 1, '\\' :: 'c' :: _ => ([], true)
  | n + 1, '\\' :: cs =>
    let cs := match cs with
      | '0' :: d :: more => if isOctal d then d :: more else cs
      | _ => cs
    let (c, taken) := escaped cs
    let (rest, stopped) := unescapeWithin n (cs.drop taken)
    (c :: rest, stopped)
  | n + 1, c :: cs =>
    let (rest, stopped) := unescapeWithin n cs
    (c :: rest, stopped)

def unescape (s : Octets) : Octets × Bool :=
  let cs := s.toList
  let (t, stopped) := unescapeWithin cs.length cs
  (String.ofList t, stopped)

namespace Format

/-- How a value is set: to the left, with its sign, filled up with zeros, how wide and how long. -/
structure Style where
  left : Bool := false
  plus : Bool := false
  blank : Bool := false
  zero : Bool := false
  alternate : Bool := false
  width : Nat := 0
  precision : Option Nat := none

def filled (st : Style) (text : List Char) : List Char :=
  let gap := List.replicate (st.width - text.length) ' '
  if st.left then text ++ gap else gap ++ text

def number (st : Style) (sign : List Char) (digits : List Char) : List Char :=
  let digits := match st.precision with
    | some p => List.replicate (p - digits.length) '0' ++ digits
    | none =>
      if st.zero && !st.left then
        List.replicate (st.width - sign.length - digits.length) '0' ++ digits
      else digits
  filled st (sign ++ digits)

def signOf (st : Style) (n : Int) : List Char :=
  if n < 0 then ['-'] else if st.plus then ['+'] else if st.blank then [' '] else []

inductive Fault where
  | notNumber (text : Octets)
  | notAllNumber (text : Octets)
  | badDirective (text : Octets)
deriving DecidableEq

/-- The value of an argument, and what is wrong with it. -/
def integerArg (s : Octets) : Int × Option Fault :=
  match s.toList with
  | '"' :: c :: _ => (c.toNat, none)
  | '\x27' :: c :: _ => (c.toNat, none)
  | cs =>
    let (negative, cs) := match cs with
      | '-' :: cs => (true, cs)
      | '+' :: cs => (false, cs)
      | _ => (false, cs)
    let word := cs.takeWhile Char.isAlphanum
    let (v, fault) := match numeral? word with
      | some v => (v, if word.length = cs.length then none else some (.notAllNumber s))
      | none =>
        match digitsValue 10 (cs.takeWhile Char.isDigit) with
        | some v => (v, some (.notAllNumber s))
        | none => (0, some (.notNumber s))
    (if negative then -v else v, fault)

/-- What a pass through the format gives. -/
structure Pass where
  out : List Char := []
  left : List Octets
  faults : List Fault := []
  stopped : Bool := false

def Pass.put (p : Pass) (cs : List Char) : Pass := { p with out := p.out ++ cs }

/-- The next argument, or an empty one. -/
def Pass.next (p : Pass) : Octets × Pass :=
  match p.left with
  | [] => ("", p)
  | a :: as => (a, { p with left := as })

def Pass.nextInteger (p : Pass) : Int × Pass :=
  match p.left with
  | [] => (0, p)
  | a :: as =>
    let (v, fault) := integerArg a
    (v, { p with left := as, faults := p.faults ++ fault.toList })

def readFlags : List Char → Style → Style × List Char
  | '-' :: cs, st => readFlags cs { st with left := true }
  | '+' :: cs, st => readFlags cs { st with plus := true }
  | ' ' :: cs, st => readFlags cs { st with blank := true }
  | '0' :: cs, st => readFlags cs { st with zero := true }
  | '#' :: cs, st => readFlags cs { st with alternate := true }
  | cs, st => (st, cs)

/-- A width or precision: digits, or a star for an argument. -/
def readCount (cs : List Char) (p : Pass) : Option Int × List Char × Pass :=
  match cs with
  | '*' :: cs =>
    let (n, p) := p.nextInteger
    (some n, cs, p)
  | _ =>
    let ds := cs.takeWhile Char.isDigit
    ((digitsValue 10 ds), cs.drop ds.length, p)

def readStyle (cs : List Char) (p : Pass) : Style × List Char × Pass :=
  let (st, cs) := readFlags cs {}
  let (width, cs, p) := readCount cs p
  let st := match width with
    | none => st
    | some w => { st with width := w.natAbs, left := st.left || decide (w < 0) }
  match cs with
  | '.' :: cs =>
    let (precision, cs, p) := readCount cs p
    ({ st with precision := some (precision.getD 0).toNat }, cs, p)
  | _ => (st, cs, p)

/-- One conversion. -/
def convert (st : Style) (kind : Char) (p : Pass) : Pass :=
  let withoutSign (base : Nat) (upper : Bool) (p : Pass) : Pass :=
    let (v, p) := p.nextInteger
    let ds := Nat.toDigits base (unsigned v)
    let mark := if !st.alternate || v = 0 then [] else if base = 8 then ['0']
      else if base = 16 then ['0', 'x'] else []
    let text := number st mark ds
    p.put (if upper then text.map Char.toUpper else text)
  match kind with
  | 's' =>
    let (a, p) := p.next
    let cs := a.toList
    p.put (filled st (match st.precision with | some n => cs.take n | none => cs))
  | 'b' =>
    let (a, p) := p.next
    let (t, stopped) := unescape a
    { p.put (filled st t.toList) with stopped }
  | 'c' =>
    let (a, p) := p.next
    p.put (filled st (a.toList.take 1))
  | 'd' => let (v, p) := p.nextInteger; p.put (number st (signOf st v) (Nat.toDigits 10 v.natAbs))
  | 'i' => let (v, p) := p.nextInteger; p.put (number st (signOf st v) (Nat.toDigits 10 v.natAbs))
  | 'u' => withoutSign 10 false p
  | 'o' => withoutSign 8 false p
  | 'x' => withoutSign 16 false p
  | 'X' => withoutSign 16 true p
  | _ =>
    let fault := Fault.badDirective (String.ofList ['%', kind])
    { p with faults := p.faults ++ [fault], stopped := true }

/-- Goes through the format once. -/
def pass : Nat → List Char → Pass → Pass
  | 0, _, p => p
  | _ + 1, [], p => p
  | n + 1, '%' :: '%' :: cs, p => pass n cs (p.put ['%'])
  | n + 1, '%' :: cs, p =>
    let (st, cs, p) := readStyle cs p
    match cs with
    | [] => { p with faults := p.faults ++ [.badDirective "%"], stopped := true }
    | kind :: cs =>
      let p := convert st kind p
      if p.stopped then p else pass n cs p
  | _ + 1, '\\' :: 'c' :: _, p => { p with stopped := true }
  | n + 1, '\\' :: cs, p =>
    let (c, taken) := escaped cs
    pass n (cs.drop taken) (p.put [c])
  | n + 1, c :: cs, p => pass n cs (p.put [c])

def passes (format : List Char) : Nat → Pass → Pass
  | 0, p => p
  | n + 1, p =>
    let before := p.left.length
    let p := pass (format.length + 1) format p
    if p.stopped || p.left.isEmpty || p.left.length = before then p else passes format n p

/-- The filled format, and what was wrong. -/
def print (format : Octets) (args : List Octets) : Octets × List Fault :=
  let p := passes format.toList (args.length + 1) { left := args }
  (String.ofList p.out, p.faults)

end Format
end Shell
end Dashboards
