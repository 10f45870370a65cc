import Dashboards.Files
import Dashboards.Shell.Octets

/-!
# Patterns

A pattern is a list of characters, each marked whether it may have a meaning of its own: a star
stands for any text, a question mark for any character, brackets for one of those between them.

* `Pattern.fits`      a text matches a pattern;
* `Files.matching`    the paths that match a pattern.
-/

namespace Dashboards
namespace Shell
open Text (Bytes)

/-- Characters, each with the mark that it stood outside quotes. -/
abbrev Pattern := List (Char × Bool)

namespace Pattern

inductive Item where
  | any
  | one (accepts : Char → Bool)

/-- What may stand between brackets, up to the closing one. -/
def members : Nat → List Char → Option ((Char → Bool) × List Char)
  | 0, _ => none
  | n + 1, cs =>
    match cs with
    | a :: '-' :: b :: cs =>
      if b = ']' then (members n ('-' :: b :: cs)).map fun (f, r) => (fun c => c = a || f c, r)
      else (step n cs).map fun (f, r) => (fun c => (a ≤ c && c ≤ b) || f c, r)
    | a :: cs => (step n cs).map fun (f, r) => (fun c => c = a || f c, r)
    | [] => none
where
  step (n : Nat) (cs : List Char) : Option ((Char → Bool) × List Char) :=
    match cs with
    | ']' :: cs => some (fun _ => false, cs)
    | _ => members n cs

/-- The set that starts behind an opening bracket, with the number of characters that it takes. -/
def bracket? (p : Pattern) : Option ((Char → Bool) × Nat) :=
  let cs := p.map (·.1)
  match cs with
  | '!' :: inner =>
    (members inner.length inner).map fun (f, r) => (fun c => !f c, cs.length - r.length)
  | _ => (members cs.length cs).map fun (f, r) => (f, cs.length - r.length)

def items : Nat → Pattern → List Item
  | 0, _ => []
  | _ + 1, [] => []
  | n + 1, (c, active) :: p =>
    if active && c = '*' then .any :: items n p
    else if active && c = '?' then .one (fun _ => true) :: items n p
    else if active && c = '[' then
      match bracket? p with
      | some (f, taken) => .one f :: items n (p.drop taken)
      | none => .one (· = c) :: items n p
    else .one (· = c) :: items n p

/-- A list with all that is left after each of its beginnings. -/
def tails : List Char → List (List Char)
  | [] => [[]]
  | c :: cs => (c :: cs) :: tails cs

def itemsFit : List Item → List Char → Bool
  | [], cs => cs.isEmpty
  | .any :: is, cs => (tails cs).any (itemsFit is)
  | .one f :: is, c :: cs => f c && itemsFit is cs
  | .one _ :: _, [] => false

def fits (p : Pattern) (cs : List Char) : Bool := itemsFit (items p.length p) cs

/-- Some character of the pattern has a meaning of its own. -/
def isActive (p : Pattern) : Bool :=
  p.any fun (c, active) => active && (c = '*' || c = '?' || c = '[')

def text (p : Pattern) : Octets := String.ofList (p.map (·.1))

/-- The pieces between slashes. -/
def segments : Pattern → List Pattern
  | [] => [[]]
  | (c, a) :: p =>
    if c = '/' then [] :: segments p
    else match segments p with
      | [] => [[(c, a)]]
      | s :: ss => ((c, a) :: s) :: ss

/-- A name that starts with a point is only matched by a point. -/
def fitsName (p : Pattern) (name : List Char) : Bool :=
  match name with
  | '.' :: _ => p.head?.map (·.1) = some '.' && fits p name
  | _ => fits p name

end Pattern

open Pattern

def namesIn (t : Files) (dir : Octets) : List Octets :=
  match t.list (Octets.toPath (if dir.isEmpty then "." else dir)) with
  | .ok entries => (entries.map fun e => Octets.ofBytes e.1).mergeSort (· ≤ ·)
  | .error _ => []

/-- The paths below `dir` that match the segments. -/
def matchingBelow (t : Files) (dir : Octets) : List Pattern → List Octets
  | [] => []
  | [s] =>
    if isActive s then
      ((namesIn t dir).filter fun n => fitsName s n.toList).map (dir ++ ·)
    else
      match t.entry (Octets.toPath (dir ++ text s)) with
      | .ok _ => [dir ++ text s]
      | .error _ => []
  | s :: ss =>
    if isActive s then
      ((namesIn t dir).filter fun n => fitsName s n.toList).flatMap fun n =>
        if t.isDirectory (Octets.toPath (dir ++ n)) then matchingBelow t (dir ++ n ++ "/") ss
        else []
    else matchingBelow t (dir ++ text s ++ "/") ss

/-- The paths that match a pattern, in their order. -/
def matching (t : Files) (p : Pattern) : List Octets :=
  if isActive p then matchingBelow t "" (segments p) else []

end Shell
end Dashboards
