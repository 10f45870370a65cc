import Dashboards.Text.Quoted
import Dashboards.Yaml.Node
import Dashboards.Yaml.Scalar

/-!
# Values of a document

* `Value`            what a node stands for once aliases are followed and scalars are understood;
* `Node.asText`      reads a node where a text is wanted; `Node.unfit` complains about another;
* `Node.value`       reading any value, nested at most as deep as told.

A reader counts how many aliases it has followed, and gives up when that is out of proportion to the
document.
-/

namespace Dashboards
namespace Yaml
open Text (Bytes)

inductive Value where
  | null
  | bool (b : Bool)
  | number (n : Number)
  | text (s : String)
  | list (vs : List Value)
  | map (entries : List (Value × Value))
  | tagged (tag : String) (v : Value)
deriving Inhabited

namespace Value

mutual

/-- Equal as keys of a mapping: the order of entries does not count. -/
def same : Value → Value → Bool
  | .null, .null => true
  | .bool a, .bool b => a = b
  | .number m, .number n => m.same n
  | .text s, .text t => s = t
  | .list vs, .list ws => sameAll vs ws
  | .map es, .map fs => es.length = fs.length && sameEntries es fs
  | .tagged s v, .tagged t w => s = t && same v w
  | _, _ => false

def sameAll : List Value → List Value → Bool
  | [], [] => true
  | v :: vs, w :: ws => same v w && sameAll vs ws
  | _, _ => false

def sameEntries : List (Value × Value) → List (Value × Value) → Bool
  | [], _ => true
  | (k, v) :: es, fs => fs.any (fun (k', v') => same k k' && same v v') && sameEntries es fs

end

/-- The complaint about a key that stands twice in a mapping. -/
def duplicate : Value → String
  | .null => "duplicate entry with null key"
  | .bool b => "duplicate entry with key `" ++ toString b ++ "`"
  | .number n => "duplicate entry with key " ++ n.text
  | .text s => "duplicate entry with key " ++ Text.quoted s
  | _ => "duplicate entry in YAML map"

end Value

/-- Counts the aliases that have been followed. -/
abbrev Reader := StateT Nat (Except Fault)

def unfit (text path : String) (mark : Mark) : Reader α := throw (.unfit text path mark)

def childPath (path key : String) : String := if path = "." then key else path ++ "." ++ key

def itemPath (path : String) (index : Nat) : String := path ++ "[" ++ toString index ++ "]"

/-- The node itself, or the one that an alias stands for. -/
def Document.follow (d : Document) (n : Node) : Reader Node :=
  match n with
  | .broken => throw d.ending
  | .alias id => do
    let followed := (← get) + 1
    set followed
    if followed > 100 * d.size then throw .tooManyRepetitions
    match d.target? id with
    | some n => return n
    | none => throw d.ending
  | n => return n

namespace Scalar

/-- What a scalar stands for, or the complaint that it does not fit its tag. A tag that is not known
makes a text of it, a local one leaves it as it is. -/
def ofTagged (tag : Option Bytes) (text : String) (style : Style) : Except String Scalar :=
  let plain := if style = .plain then ofPlain text else .text text
  let wrong (what : String) : Except String Scalar :=
    .error ("invalid value: string " ++ Text.quoted text ++ ", expected " ++ what)
  match tag with
  | none => .ok plain
  | some t =>
    if t = Text.utf8 "tag:yaml.org,2002:bool" then
      match bool? text with
      | some b => .ok (.bool b)
      | none => wrong "a boolean"
    else if t = Text.utf8 "tag:yaml.org,2002:int" then
      match int? text.toList with
      | some n => .ok n
      | none => wrong "an integer"
    else if t = Text.utf8 "tag:yaml.org,2002:float" then
      match fraction? text with
      | some x => .ok (.number x)
      | none => wrong "a float"
    else if t = Text.utf8 "tag:yaml.org,2002:null" then
      if isNull text then .ok .null else wrong "null"
    else if t.head? = some 33 then .ok plain
    else .ok (.text text)

/-- How a scalar is named in a complaint. -/
def described : Scalar → String
  | .null => "unit value"
  | .bool b => "boolean `" ++ toString b ++ "`"
  | .number (.int n) => "integer `" ++ toString n ++ "`"
  | .number (.finite x) => "floating point `" ++ x.positional ++ "`"
  | .number (.infinite negative) =>
    "floating point `" ++ (if negative then "-inf" else "inf") ++ "`"
  | .number .undefined => "floating point `NaN`"
  | .wide n => "integer `" ++ toString n ++ "` as " ++ (if n < 0 then "i128" else "u128")
  | .text s => "string " ++ Text.quoted s

end Scalar

def invalidType (what expected : String) : String :=
  "invalid type: " ++ what ++ ", expected " ++ expected

namespace Node

/-- The complaint about a node of the wrong kind. -/
def complaint (n : Node) (expected : String) : String :=
  match n with
  | .scalar _ tag text style =>
    match Scalar.ofTagged tag text style with
    | .ok s => invalidType s.described expected
    | .error e => e
  | .sequence .. => invalidType "sequence" expected
  | _ => invalidType "map" expected

def mark : Node → Mark
  | .scalar m .. => m
  | .sequence m .. => m
  | .mapping m .. => m
  | _ => Mark.first

/-- The text of a scalar, however it is written, with its place. -/
def asText (d : Document) (path expected : String) (n : Node) : Reader (String × Mark) := do
  match ← d.follow n with
  | .scalar mark _ text _ => return (text, mark)
  | n => unfit (n.complaint expected) path n.mark

/-- The path of the value under a key. -/
def keyPath (path : String) : Node → String
  | .scalar _ _ text _ => childPath path text
  | _ => childPath path "?"

/-- The name of a local tag. -/
def localTag? (tag : Option Bytes) : Option String :=
  match tag with
  | some (33 :: []) => some "!"
  | some (33 :: r) => Text.text? r
  | _ => none

def wrap (tag : Option Bytes) (v : Value) : Value :=
  match localTag? tag with
  | some t => .tagged t v
  | none => v

def scalarValue (path : String) (mark : Mark) (tag : Option Bytes) (text : String) (style : Style) :
    Reader Value := do
  let tag' := if (localTag? tag).isSome then none else tag
  match Scalar.ofTagged tag' text style with
  | .error e => unfit e path mark
  | .ok .null => return wrap tag .null
  | .ok (.bool b) => return wrap tag (.bool b)
  | .ok (.number n) => return wrap tag (.number n)
  | .ok (.text s) => return wrap tag (.text s)
  | .ok (.wide n) => unfit (invalidType (Scalar.wide n).described "any YAML value") path mark

/-- Reads items one after the other. -/
def readItems (read : String → Node → Reader Value) (path : String) :
    Nat → List Node → Reader (List Value)
  | _, [] => return []
  | i, n :: ns => do
    let v ← read (itemPath path i) n
    return v :: (← readItems read path (i + 1) ns)

/-- Reads entries one after the other; `seen` holds those that were read, in reverse. -/
def readEntries (read : String → Node → Reader Value) (path : String) (mark : Mark)
    (seen : List (Value × Value)) : List (Node × Node) → Reader (List (Value × Value))
  | [] => return seen.reverse
  | (k, v) :: rest => do
    let key ← read path k
    match seen.find? (·.1.same key) with
    | some (old, _) => unfit old.duplicate path mark
    | none =>
      let value ← read (keyPath path k) v
      readEntries read path mark ((key, value) :: seen) rest

/-- Any value; `depth` collections may stand one in another. -/
def value (d : Document) : (depth : Nat) → (path : String) → Node → Reader Value
  | depth, path, n => do
    match ← d.follow n with
    | .scalar mark tag text style => scalarValue path mark tag text style
    | .sequence mark tag items =>
      match depth with
      | 0 => throw (.tooDeep mark)
      | depth + 1 => return wrap tag (.list (← readItems (value d depth) path 0 items))
    | .mapping mark tag entries =>
      match depth with
      | 0 => throw (.tooDeep mark)
      | depth + 1 => return wrap tag (.map (← readEntries (value d depth) path mark [] entries))
    | _ => throw d.ending

end Node
end Yaml
end Dashboards
