import Dashboards.Json.Path

/-!
# JSON values that may have no written form

A draft is a value in which some place may be unwritable.

* `Draft.value?`     the value, if every place can be written;
* `Draft.write`      what is written from the front, up to the first place that cannot be written.
-/

namespace Dashboards
namespace Json

inductive Draft where
  | value (v : Value)
  | unwritable (reason : Unwritable)
  | list (ds : List Draft)
  | object (members : List (String × Draft))
deriving Inhabited

namespace Draft

mutual

def value? : Draft → Except Unwritable Value
  | .value v => .ok v
  | .unwritable e => .error e
  | .list ds => do return .list (← values? ds)
  | .object ms => do return .object (← members? ms)

def values? : List Draft → Except Unwritable (List Value)
  | [] => .ok []
  | d :: ds => do
    let v ← value? d
    return v :: (← values? ds)

def members? : List (String × Draft) → Except Unwritable (List (String × Value))
  | [] => .ok []
  | (k, d) :: ms => do
    let v ← value? d
    return (k, v) :: (← members? ms)

end

/-- A text that is being written, with the reason why it breaks off. -/
structure Written where
  chars : List Char
  fault : Option Unwritable := none

/-- The second text behind the first, unless that has broken off. -/
def Written.andThen (a b : Written) : Written :=
  match a.fault with
  | some _ => a
  | none => ⟨a.chars ++ b.chars, b.fault⟩

def Written.all : List Written → Written
  | [] => ⟨[], none⟩
  | a :: as => a.andThen (all as)

/-- Entries between brackets, on one line or each on a line of its own. -/
def enclose (pretty : Bool) (depth : Nat) (opening closing : Char) (entries : List Written) :
    Written :=
  let line (d : Nat) : List Char := if pretty then Value.newline d else []
  match entries with
  | [] => ⟨[opening, closing], none⟩
  | e :: es =>
    Written.all (⟨opening :: line (depth + 1), none⟩ :: e
      :: es.flatMap (fun e => [⟨',' :: line (depth + 1), none⟩, e])
      ++ [⟨line depth ++ [closing], none⟩])

mutual

def write (pretty : Bool) (depth : Nat) : Draft → Written
  | .value v => ⟨if pretty then v.prettyChars depth else v.compactChars, none⟩
  | .unwritable e => ⟨[], some e⟩
  | .list ds => enclose pretty depth '[' ']' (writeList pretty (depth + 1) ds)
  | .object ms => enclose pretty depth '\x7b' '\x7d' (writeMembers pretty (depth + 1) ms)

def writeList (pretty : Bool) (depth : Nat) : List Draft → List Written
  | [] => []
  | d :: ds => write pretty depth d :: writeList pretty depth ds

def writeMembers (pretty : Bool) (depth : Nat) : List (String × Draft) → List Written
  | [] => []
  | (k, d) :: ms =>
    let key : Written := ⟨quote k ++ (if pretty then [':', ' '] else [':']), none⟩
    key.andThen (write pretty depth d) :: writeMembers pretty depth ms

end

end Draft
end Json

def Path.draft (p : Path) : Json.Draft :=
  match p.json with
  | .ok v => .value v
  | .error e => .unwritable e

end Dashboards
