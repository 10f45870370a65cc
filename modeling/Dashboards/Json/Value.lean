import Dashboards.Text.Quoted

/-!
# JSON values and their two written forms

* `Json.Value`      booleans, natural numbers, texts, lists and objects with ordered members;
* `Value.compact`   without any blank;
* `Value.pretty`    one entry a line, two blanks deeper for each level; an empty list or object
                    stays on its line.
-/

namespace Dashboards
namespace Json

inductive Value where
  | bool (b : Bool)
  | nat (n : Nat)
  | text (s : String)
  | list (vs : List Value)
  | object (members : List (String × Value))
deriving Inhabited

/-- Quotes, backslashes and controls are escaped, everything else stands for itself. -/
def escape (c : Char) : List Char :=
  if c = '"' then ['\\', '"']
  else if c = '\\' then ['\\', '\\']
  else if c = '\x08' then ['\\', 'b']
  else if c = '\x0c' then ['\\', 'f']
  else if c = '\n' then ['\\', 'n']
  else if c = '\r' then ['\\', 'r']
  else if c = '\t' then ['\\', 't']
  else if c.toNat < 0x20 then
    ['\\', 'u', '0', '0', Text.hexChar false (c.toNat / 16), Text.hexChar false (c.toNat % 16)]
  else [c]

def quote (s : String) : List Char :=
  '"' :: s.toList.flatMap escape ++ ['"']

namespace Value

/-- Pieces with a separator between them. -/
def between (sep : List Char) : List (List Char) → List Char
  | [] => []
  | [x] => x
  | x :: y :: xs => x ++ sep ++ between sep (y :: xs)

def boolChars (b : Bool) : List Char :=
  if b then ['t', 'r', 'u', 'e'] else ['f', 'a', 'l', 's', 'e']

/-- A member, given what its value is written as. -/
def memberChars (key : String) (value : List Char) : List Char := quote key ++ ':' :: value

/-- An object, given what its members are written as. -/
def objectChars (members : List (List Char)) : List Char :=
  '\x7b' :: between [','] members ++ ['\x7d']

mutual

def compactChars : Value → List Char
  | .bool b => boolChars b
  | .nat n => Nat.toDigits 10 n
  | .text s => quote s
  | .list vs => '[' :: between [','] (compactList vs) ++ [']']
  | .object ms => objectChars (compactMembers ms)

def compactList : List Value → List (List Char)
  | [] => []
  | v :: vs => compactChars v :: compactList vs

def compactMembers : List (String × Value) → List (List Char)
  | [] => []
  | (k, v) :: ms => memberChars k (compactChars v) :: compactMembers ms

end

def newline (depth : Nat) : List Char := '\n' :: List.replicate (2 * depth) ' '

/-- Entries between brackets, each on a line of its own. -/
def block (depth : Nat) (opening closing : Char) (entries : List (List Char)) : List Char :=
  if entries.isEmpty then [opening, closing]
  else opening :: newline (depth + 1) ++ between (',' :: newline (depth + 1)) entries
    ++ newline depth ++ [closing]

mutual

def prettyChars (depth : Nat) : Value → List Char
  | .bool b => boolChars b
  | .nat n => Nat.toDigits 10 n
  | .text s => quote s
  | .list vs => block depth '[' ']' (prettyList (depth + 1) vs)
  | .object ms => block depth '\x7b' '\x7d' (prettyMembers (depth + 1) ms)

def prettyList (depth : Nat) : List Value → List (List Char)
  | [] => []
  | v :: vs => prettyChars depth v :: prettyList depth vs

def prettyMembers (depth : Nat) : List (String × Value) → List (List Char)
  | [] => []
  | (k, v) :: ms => (quote k ++ [':', ' '] ++ prettyChars depth v) :: prettyMembers depth ms

end

def compact (v : Value) : String := String.ofList v.compactChars

def pretty (v : Value) : String := String.ofList (v.prettyChars 0)

end Value
end Json
end Dashboards
