import Dashboards.Shell.Octets

/-!
# Sums

The arithmetic of the shell: expressions over integers of 64 bits and variables.

* `Sum`          expressions; `Sum.read` reads one from its text;
* `Op.apply`     the value of an operator, which wraps around and may divide by nothing.
-/

namespace Dashboards
namespace Shell

inductive Op where
  | add | sub | mul | div | rem
  | less | lessEq | greater | greaterEq | equal | notEqual
  | shiftLeft | shiftRight
  | bitAnd | bitOr | bitXor
  | and | or
deriving DecidableEq

inductive Sum where
  | number (n : Int)
  | name (s : String)
  | negate (e : Sum)
  | complement (e : Sum)
  | not (e : Sum)
  | binary (op : Op) (a b : Sum)
  | choose (condition yes no : Sum)
  /-- Gives a variable a value, made from its old one if there is an operator. -/
  | assign (name : String) (op : Option Op) (e : Sum)

inductive SumFault where
  | divisionByZero
  | illTyped (text : String)
  | expectingPrimary
  | expectingEnd
deriving DecidableEq

def SumFault.message : SumFault → String
  | .divisionByZero => "division by zero"
  | .illTyped text => "Illegal number: " ++ text
  | .expectingPrimary => "expecting primary"
  | .expectingEnd => "expecting EOF"

/-- The integer of 64 bits that is equal to `n` up to a multiple of 2^64. -/
def wrap (n : Int) : Int := n.bmod (Nat.pow 2 64)

/-- The same integer as a number without a sign. -/
def unsigned (n : Int) : Nat := (n % (Nat.pow 2 64 : Nat)).toNat

def ofBool (b : Bool) : Int := if b then 1 else 0

namespace Op

/-- Bit by bit on 64 bits. -/
def bits (f : Nat → Nat → Nat) (a b : Int) : Int :=
  wrap (f (unsigned a) (unsigned b) : Nat)

def apply (op : Op) (a b : Int) : Except SumFault Int :=
  match op with
  | .add => .ok (wrap (a + b))
  | .sub => .ok (wrap (a - b))
  | .mul => .ok (wrap (a * b))
  | .div => if b = 0 then .error .divisionByZero else .ok (wrap (a.tdiv b))
  | .rem => if b = 0 then .error .divisionByZero else .ok (wrap (a.tmod b))
  | .less => .ok (ofBool (a < b))
  | .lessEq => .ok (ofBool (a ≤ b))
  | .greater => .ok (ofBool (a > b))
  | .greaterEq => .ok (ofBool (a ≥ b))
  | .equal => .ok (ofBool (a = b))
  | .notEqual => .ok (ofBool (a ≠ b))
  | .shiftLeft => .ok (wrap (a * (Nat.pow 2 (b % 64).toNat : Nat)))
  | .shiftRight => .ok (a / (Nat.pow 2 (b % 64).toNat : Nat))
  | .bitAnd => .ok (bits (· &&& ·) a b)
  | .bitOr => .ok (bits (· ||| ·) a b)
  | .bitXor => .ok (bits (· ^^^ ·) a b)
  | .and => .ok (ofBool (a ≠ 0 && b ≠ 0))
  | .or => .ok (ofBool (a ≠ 0 || b ≠ 0))

/-- Binary operators with their rank; one of higher rank binds closer. -/
def table : List (String × Op × Nat) := [
  ("||", .or, 1), ("&&", .and, 2), ("|", .bitOr, 3), ("^", .bitXor, 4), ("&", .bitAnd, 5),
  ("==", .equal, 6), ("!=", .notEqual, 6), ("<=", .lessEq, 7), (">=", .greaterEq, 7),
  ("<", .less, 7), (">", .greater, 7), ("<<", .shiftLeft, 8), (">>", .shiftRight, 8),
  ("+", .add, 9), ("-", .sub, 9), ("*", .mul, 10), ("/", .div, 10), ("%", .rem, 10)]

/-- Operators that may stand in front of the sign of an assignment. -/
def assigning : List (String × Op) := [
  ("<<=", .shiftLeft), (">>=", .shiftRight), ("+=", .add), ("-=", .sub), ("*=", .mul),
  ("/=", .div), ("%=", .rem), ("&=", .bitAnd), ("|=", .bitOr), ("^=", .bitXor)]

end Op

/-! ### reading -/

inductive SumToken where
  | number (n : Int)
  | name (s : String)
  | sign (s : String)
deriving DecidableEq

/-- Signs, the longer ones first. -/
def sumSigns : List String :=
  ["<<=", ">>=", "||", "&&", "==", "!=", "<=", ">=", "<<", ">>", "+=", "-=", "*=", "/=", "%=", "&=",
    "|=", "^=", "+", "-", "*", "/", "%", "<", ">", "&", "|", "^", "!", "~", "?", ":", "=", "(", ")"]

def digitValue (c : Char) : Nat :=
  if c.isDigit then c.toNat - 48
  else if 'a' ≤ c ∧ c ≤ 'z' then c.toNat - 87
  else c.toNat - 55

def digitsValue (base : Nat) (cs : List Char) : Option Int :=
  if cs.isEmpty || !cs.all (fun c => c.isAlphanum && digitValue c < base) then none
  else some (cs.foldl (fun n c => n * base + digitValue c) 0 : Nat)

/-- An unsigned number; `0x` stands in front of hexadecimal digits and `0` of octal ones. -/
def numeral? (cs : List Char) : Option Int :=
  match cs with
  | '0' :: 'x' :: ds => digitsValue 16 ds
  | '0' :: 'X' :: ds => digitsValue 16 ds
  | '0' :: d :: ds => digitsValue 8 (d :: ds)
  | _ => digitsValue 10 cs

def sumTokens : Nat → List Char → Except SumFault (List SumToken)
  | 0, _ => .ok []
  | _ + 1, [] => .ok []
  | n + 1, c :: cs =>
    if c = ' ' || c = '\t' || c = '\n' then sumTokens n cs
    else if c.isDigit then
      let word := c :: cs.takeWhile Char.isAlphanum
      match numeral? word with
      | some v => do return .number (wrap v) :: (← sumTokens n (cs.drop (word.length - 1)))
      | none => .error .expectingEnd
    else if c.isAlpha || c = '_' then
      let word := c :: cs.takeWhile fun d => d.isAlphanum || d = '_'
      do return .name (String.ofList word) :: (← sumTokens n (cs.drop (word.length - 1)))
    else
      match sumSigns.find? fun s => s.toList.isPrefixOf (c :: cs) with
      | some s => do return .sign s :: (← sumTokens n (cs.drop (s.length - 1)))
      | none => .error .expectingEnd

mutual

/-- An expression whose operators have at least the given rank; rank 0 takes choices and
assignments too. -/
def readRank (n : Nat) (rank : Nat) (ts : List SumToken) : Except SumFault (Sum × List SumToken) :=
  match n with
  | 0 => .error .expectingPrimary
  | n + 1 => do
    match rank, ts with
    | 0, .name x :: .sign s :: ts' =>
      if s = "=" then
        let (e, ts) ← readRank n 0 ts'
        return (.assign x none e, ts)
      else match Op.assigning.lookup s with
        | some op =>
          let (e, ts) ← readRank n 0 ts'
          return (.assign x (some op) e, ts)
        | none => readChoice n ts
    | 0, _ => readChoice n ts
    | _, _ =>
      let (a, ts) ← readPrimary n ts
      readMore n rank a ts

def readChoice (n : Nat) (ts : List SumToken) : Except SumFault (Sum × List SumToken) :=
  match n with
  | 0 => .error .expectingPrimary
  | n + 1 => do
    let (c, ts) ← readRank n 1 ts
    match ts with
    | .sign "?" :: ts =>
      let (a, ts) ← readRank n 0 ts
      match ts with
      | .sign ":" :: ts =>
        let (b, ts) ← readRank n 0 ts
        return (.choose c a b, ts)
      | _ => .error .expectingPrimary
    | _ => return (c, ts)

/-- Goes on behind an operand as long as operators of that rank follow. -/
def readMore (n : Nat) (rank : Nat) (a : Sum) (ts : List SumToken) :
    Except SumFault (Sum × List SumToken) :=
  match n with
  | 0 => .error .expectingPrimary
  | n + 1 => do
    match ts with
    | .sign s :: ts' =>
      match Op.table.lookup s with
      | some (op, r) =>
        if r < rank then return (a, ts)
        else
          let (b, ts) ← readRank n (r + 1) ts'
          readMore n rank (.binary op a b) ts
      | none => return (a, ts)
    | _ => return (a, ts)

def readPrimary (n : Nat) (ts : List SumToken) : Except SumFault (Sum × List SumToken) :=
  match n with
  | 0 => .error .expectingPrimary
  | n + 1 => do
    match ts with
    | .number v :: ts => return (.number v, ts)
    | .name x :: ts => return (.name x, ts)
    | .sign "-" :: ts => let (e, ts) ← readPrimary n ts; return (.negate e, ts)
    | .sign "+" :: ts => readPrimary n ts
    | .sign "~" :: ts => let (e, ts) ← readPrimary n ts; return (.complement e, ts)
    | .sign "!" :: ts => let (e, ts) ← readPrimary n ts; return (.not e, ts)
    | .sign "(" :: ts =>
      let (e, ts) ← readRank n 0 ts
      match ts with
      | .sign ")" :: ts => return (e, ts)
      | _ => .error .expectingPrimary
    | _ => .error .expectingPrimary

end

/-- The expression that a text stands for; an empty one is nought. -/
def Sum.read (text : String) : Except SumFault Sum := do
  let ts ← sumTokens text.length text.toList
  if ts.isEmpty then return .number 0
  let (e, rest) ← readRank (16 * ts.length + 16) 0 ts
  if rest.isEmpty then return e else .error .expectingEnd

end Shell
end Dashboards
