import Dashboards.Failure
import Dashboards.Json.Value
import Dashboards.Text.Blank

/-!
# External parameters

Named values that every template is compiled with, in the order of their keys.

* `Params`            entries that are strictly ascending by key, each key a name;
* `Params.insert`     adds one; the key must be a name and must not be there yet;
* `parseAssignment`   the two sides of `KEY=VALUE`.
-/

namespace Dashboards
namespace Params

/-! ### keys -/

def isFirstKeyChar (c : Char) : Bool := c.isAlpha || c = '_'

def isKeyChar (c : Char) : Bool := c.isAlphanum || c = '_' || c = '.' || c = '-'

/-- A letter or `_`, then letters, digits and `_ . -`. -/
def isKey (s : String) : Bool :=
  match s.toList with
  | [] => false
  | c :: cs => isFirstKeyChar c && cs.all isKeyChar

end Params

/-- Parameters, strictly ascending by key. -/
@[ext]
structure Params where
  entries : List (String × String) := []
  ascending : entries.Pairwise (·.1 < ·.1) := by decide
  named : ∀ e ∈ entries, Params.isKey e.1 = true := by decide
deriving DecidableEq

namespace Params

def empty : Params := {}

instance : Inhabited Params := ⟨empty⟩

def get? (p : Params) (key : String) : Option String := p.entries.lookup key

def keys (p : Params) : List String := p.entries.map (·.1)

/-! ### sorted entries -/

def insertSorted (key value : String) : List (String × String) → List (String × String)
  | [] => [(key, value)]
  | (k, v) :: es =>
    if key < k then (key, value) :: (k, v) :: es
    else (k, v) :: insertSorted key value es

section
variable {k v : String} {es : List (String × String)}

theorem insertSorted_perm (k v : String) (es : List (String × String)) :
    (insertSorted k v es).Perm ((k, v) :: es) := by
  induction es with
  | nil => exact .rfl
  | cons e es ih =>
    rw [insertSorted]
    split
    · exact .rfl
    · exact (ih.cons e).trans (.swap (k, v) e es)

theorem insertSorted_ascending (hes : es.Pairwise (·.1 < ·.1)) (hk : k ∉ es.map (·.1)) :
    (insertSorted k v es).Pairwise (·.1 < ·.1) := by
  induction es with
  | nil => exact List.pairwise_singleton _ _
  | cons e es ih =>
    obtain ⟨hlt, htail⟩ := List.pairwise_cons.mp hes
    rw [List.map_cons, List.mem_cons, not_or] at hk
    rw [insertSorted]
    split
    · rename_i h
      refine List.pairwise_cons.mpr ⟨fun x hx => ?_, hes⟩
      rcases List.mem_cons.mp hx with rfl | hx
      · exact h
      · exact String.lt_trans h (hlt x hx)
    · rename_i h
      refine List.pairwise_cons.mpr ⟨fun x hx => ?_, ih htail hk.2⟩
      rcases List.mem_cons.mp ((insertSorted_perm k v es).mem_iff.mp hx) with rfl | hx
      · exact Std.lt_of_le_of_ne (String.not_lt.mp h) fun e => hk.1 e.symm
      · exact hlt x hx

theorem insertSorted_named (hes : ∀ e ∈ es, isKey e.1 = true) (hk : isKey k = true) :
    ∀ e ∈ insertSorted k v es, isKey e.1 = true := by
  intro e he
  rcases List.mem_cons.mp ((insertSorted_perm k v es).mem_iff.mp he) with rfl | he
  · exact hk
  · exact hes e he

end

/-! ### adding parameters -/

/-- With one more parameter, whose key is a new name. -/
def insertNew (p : Params) (key value : String) (hk : isKey key = true) (hp : key ∉ p.keys) :
    Params where
  entries := insertSorted key value p.entries
  ascending := insertSorted_ascending p.ascending hp
  named := insertSorted_named p.named hk

def insert (p : Params) (key value : String) : Except Invalid Params :=
  if hk : isKey key = true then
    if hp : key ∈ p.keys then .error (.repeatedParameter key)
    else .ok (p.insertNew key value hk hp)
  else .error (.badParameterName key)

/-- Adds one after the other, up to the first that is refused. -/
def insertAll (p : Params) : List (String × String) → Except Invalid Params
  | [] => .ok p
  | (k, v) :: es =>
    match p.insert k v with
    | .error e => .error e
    | .ok p => p.insertAll es

def json (p : Params) : Json.Value := .object (p.entries.map fun (k, v) => (k, .text v))

end Params

/-- The key, without blanks around it, and the value behind the first `=`. -/
def parseAssignment (raw : String) : Except Invalid (String × String) :=
  let cs := raw.toList
  match cs.dropWhile (· ≠ '=') with
  | [] => .error (.notAssignment raw)
  | _ :: value =>
    .ok (Text.trim (String.ofList (cs.takeWhile (· ≠ '='))), String.ofList value)

end Dashboards
