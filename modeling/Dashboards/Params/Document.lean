import Dashboards.Params
import Dashboards.Text.Blank
import Dashboards.Yaml.Value

/-!
# Parameters from a document

A document with parameters is a mapping whose only key is `params`; what stands there is a mapping
from texts to texts, numbers and truth values. `Params.ofDocument` reads all of it or nothing.
-/

namespace Dashboards
namespace Params
open Yaml

/-- A value as the text of a parameter. -/
def text? : Value → Option String
  | .text s => some s
  | .number n => some n.text
  | .bool b => some (toString b)
  | _ => none

/-- Puts an entry in the place that its key calls for; a later entry takes the place of an earlier
one with the same key. -/
def put (key : String) (v : Value) : List (String × Value) → List (String × Value)
  | [] => [(key, v)]
  | (k, w) :: es =>
    if key < k then (key, v) :: (k, w) :: es
    else if key = k then (key, v) :: es
    else (k, w) :: put key v es

/-- Reads the entries under `params`, sorted by key. -/
def readEntries (d : Document) (depth : Nat) (path : String) (seen : List (String × Value)) :
    List (Node × Node) → Reader (List (String × Value))
  | [] => return seen
  | (k, v) :: rest => do
    let (key, _) ← k.asText d path "a string"
    let value ← v.value d depth (Node.keyPath path k)
    readEntries d depth path (put key value seen) rest

/-- Reads what stands under `params`; nothing at all stands for no entry. -/
def readMap (d : Document) (path : String) (n : Node) : Reader (List (String × Value)) := do
  match ← d.follow n with
  | .scalar mark tag text style =>
    if text.isEmpty && style = .plain then return []
    else unfit ((Node.scalar mark tag text style).complaint "a map") path mark
  | .mapping _ _ entries => readEntries d 126 path [] entries
  | n => unfit (n.complaint "a map") path n.mark

/-- The texts of the values; the least key whose value has none is refused. -/
def texts (root : Mark) : List (String × Value) → Reader (List (String × String))
  | [] => return []
  | (key, v) :: rest =>
    match text? v with
    | none => unfit ("params." ++ key ++ " must be a string, number or boolean") "." root
    | some t => do return (key, t) :: (← texts root rest)

/-- Reads the members of the root; `found` holds what stood under `params`. -/
def readRoot (d : Document) (root : Mark) (found : Option (List (String × String))) :
    List (Node × Node) → Reader (List (String × String))
  | [] => return found.getD []
  | (k, v) :: rest => do
    let (key, mark) ← k.asText d "." "field identifier"
    if key ≠ "params" then unfit ("unknown field `" ++ key ++ "`, expected `params`") "." mark
    else if found.isSome then unfit "duplicate field `params`" "." root
    else
      let entries ← readMap d (Node.keyPath "." k) v
      readRoot d root (some (← texts root entries)) rest

def ofRoot (d : Document) (n : Node) : Reader (List (String × String)) := do
  let expected := "struct ParamsDocument"
  match ← d.follow n with
  | .scalar mark tag text style =>
    if text.isEmpty && style = .plain then return []
    else unfit ((Node.scalar mark tag text style).complaint expected) "." mark
  | .mapping mark _ entries => readRoot d mark none entries
  | n => unfit (n.complaint expected) "." n.mark

/-- The parameters of a document; it must be complete and the only one. -/
def ofDocument (d : Document) : Except Fault (List (String × String)) :=
  let read : Except Fault (List (String × String)) := match d.root with
    | none => .ok []
    | some n => ((ofRoot d n).run 0).map (·.1)
  match read with
  | .error f => .error f
  | .ok entries =>
    match d.fault with
    | some f => .error f
    | none => if d.more then .error .manyDocuments else .ok entries

/-- The parameters of a text; a text of blanks has none. -/
def ofText (s : String) : Except Fault (List (String × String)) :=
  if Text.allBlank s then .ok [] else ofDocument (.ofText s)

end Params
end Dashboards
