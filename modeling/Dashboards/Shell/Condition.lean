import Dashboards.Files
import Dashboards.Shell.Octets

/-!
# Conditions

The language of `test`: questions about files, texts and numbers, joined by `!`, `-a` and `-o`.
-/

namespace Dashboards
namespace Shell

inductive ConditionFault where
  | badNumber (text : Octets)
  | unexpectedOperator (text : Octets)
  | missingArgument
  | missingParenthesis
deriving DecidableEq

def ConditionFault.message : ConditionFault → String
  | .badNumber t => "Illegal number: " ++ t
  | .unexpectedOperator t => t ++ ": unexpected operator"
  | .missingArgument => "argument expected"
  | .missingParenthesis => "closing paren expected"

namespace Condition

def fileAt (t : Files) (p : Octets) : Option Entry :=
  match t.entry (Octets.toPath p) with
  | .ok (_, e) => some e
  | .error _ => none

/-- A question about one operand. -/
def unary? (t : Files) (op : Octets) : Option (Octets → Bool) :=
  match op with
  | "-n" => some fun s => !s.isEmpty
  | "-z" => some fun s => s.isEmpty
  | "-e" => some fun p => (fileAt t p).isSome
  | "-f" => some fun p => match fileAt t p with
    | some (.file ..) => true
    | _ => false
  | "-d" => some fun p => fileAt t p = some .directory
  | "-r" => some fun p => (fileAt t p).isSome
  | "-w" => some fun p => (fileAt t p).isSome
  | "-s" => some fun p => match fileAt t p with
    | some (.file c _) => !c.isEmpty
    | some _ => true
    | none => false
  | "-x" => some fun p => match fileAt t p with
    | some (.file _ x) => x
    | some _ => true
    | none => false
  | "-L" => some (isLink t)
  | "-h" => some (isLink t)
  | "-t" => some fun _ => false
  | _ => none
where
  isLink (t : Files) (p : Octets) : Bool :=
    match t.find (Octets.toPath p) false with
    | .ok (.taken _ (.link _)) => true
    | _ => false

def numbers (f : Int → Int → Bool) (a b : Octets) : Except ConditionFault Bool :=
  match Octets.integer? a, Octets.integer? b with
  | some x, some y => .ok (f x y)
  | none, _ => .error (.badNumber a)
  | _, none => .error (.badNumber b)

/-- A question about two operands. -/
def binary? (op : Octets) : Option (Octets → Octets → Except ConditionFault Bool) :=
  match op with
  | "=" => some fun a b => .ok (a = b)
  | "==" => none
  | "!=" => some fun a b => .ok (a ≠ b)
  | "<" => some fun a b => .ok (a < b)
  | ">" => some fun a b => .ok (b < a)
  | "-eq" => some (numbers (· = ·))
  | "-ne" => some (numbers (· ≠ ·))
  | "-lt" => some (numbers (· < ·))
  | "-le" => some (numbers (· ≤ ·))
  | "-gt" => some (numbers (· > ·))
  | "-ge" => some (numbers (· ≥ ·))
  | _ => none

abbrev Answer := Except ConditionFault (Bool × List Octets)

mutual

def anyOf (t : Files) (n : Nat) (as : List Octets) : Answer :=
  match n with
  | 0 => .error .missingArgument
  | n + 1 => do
    let (a, as) ← allOf t n as
    match as with
    | "-o" :: as => do
      let (b, as) ← anyOf t n as
      return (a || b, as)
    | _ => return (a, as)

def allOf (t : Files) (n : Nat) (as : List Octets) : Answer :=
  match n with
  | 0 => .error .missingArgument
  | n + 1 => do
    let (a, as) ← primary t n as
    match as with
    | "-a" :: as => do
      let (b, as) ← allOf t n as
      return (a && b, as)
    | _ => return (a, as)

/-- An operand between two others is an operator if it can be one. -/
def primary (t : Files) (n : Nat) (as : List Octets) : Answer :=
  match n with
  | 0 => .error .missingArgument
  | n + 1 =>
    match as with
    | [] => .error .missingArgument
    | [s] => .ok (!s.isEmpty, [])
    | s :: op :: more =>
      match binary? op, more with
      | some f, b :: rest => do return (← f s b, rest)
      | _, _ =>
        if s = "!" then do
          let (a, rest) ← primary t n (op :: more)
          return (!a, rest)
        else if s = "(" then do
          let (a, rest) ← anyOf t n (op :: more)
          match rest with
          | ")" :: rest => return (a, rest)
          | _ => .error .missingParenthesis
        else
          match unary? t s with
          | some f => .ok (f op, more)
          | none => .ok (!s.isEmpty, op :: more)

end

/-- The answer to all arguments together; no argument at all is false. -/
def eval (t : Files) (as : List Octets) : Except ConditionFault Bool :=
  match as with
  | [] => .ok false
  | _ => do
    let (a, rest) ← anyOf t (8 * as.length + 8) as
    match rest with
    | [] => return a
    | s :: _ => .error (.unexpectedOperator s)

end Condition
end Shell
end Dashboards
