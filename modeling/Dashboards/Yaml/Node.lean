import Dashboards.Yaml.Event

/-!
# The tree of a document

* `Node`       scalars, sequences and mappings with their places; an alias points at an anchored
               node of the same document, and `broken` stands where the text breaks off;
* `Document`   the first document of a text, with what has to be reported behind its root.
-/

namespace Dashboards
namespace Yaml

inductive Node where
  | scalar (mark : Mark) (tag : Option Text.Bytes) (text : String) (style : Style)
  | sequence (mark : Mark) (tag : Option Text.Bytes) (items : List Node)
  | mapping (mark : Mark) (tag : Option Text.Bytes) (entries : List (Node × Node))
  | alias (target : Nat)
  | broken
deriving Inhabited

structure Document where
  /-- A text without any content has no root. -/
  root : Option Node
  /-- The anchored nodes. An anchor that is defined again may take over an earlier number. -/
  anchored : List (Nat × Node)
  /-- The number of nodes, counting both ends of a collection. -/
  size : Nat
  /-- Why the document breaks off. -/
  fault : Option Fault
  /-- Another document follows. -/
  more : Bool

namespace Document

def target? (d : Document) (n : Nat) : Option Node := d.anchored.lookup n

/-- What is reported where the document breaks off. -/
def ending (d : Document) : Fault := d.fault.getD .endOfStream

end Document

/-- A collection that is not closed yet, its parts in reverse. -/
structure Frame where
  isMapping : Bool
  mark : Mark
  tag : Option Text.Bytes
  /-- Where it stands among the nodes, and whether it is anchored. -/
  position : Nat
  isAnchored : Bool
  parts : List Node := []

/-- Keys and values in turn; a key without a value gets a broken one. -/
def pairUp : List Node → List (Node × Node)
  | k :: v :: r => (k, v) :: pairUp r
  | [k] => [(k, .broken)]
  | [] => []

namespace Frame

def node (f : Frame) (parts : List Node) : Node :=
  if f.isMapping then .mapping f.mark f.tag (pairUp parts) else .sequence f.mark f.tag parts

def closed (f : Frame) : Node := f.node f.parts.reverse

def brokenOff (f : Frame) : Node :=
  let parts := f.parts.reverse
  if f.isMapping && parts.length % 2 = 0 then f.node (parts ++ [.broken, .broken])
  else f.node (parts ++ [.broken])

end Frame

structure Builder where
  frames : List Frame := []
  root : Option Node := none
  size : Nat := 0
  /-- The number of each anchor name. -/
  names : List (String × Nat) := []
  /-- The position that each number stands for, the latest first. -/
  positions : List (Nat × Nat) := []
  /-- The finished nodes that have an anchor, by position. -/
  nodes : List (Nat × Node) := []

namespace Builder

/-- Hands a node to the collection around it. -/
def add (b : Builder) (n : Node) : Builder :=
  match b.frames with
  | [] => { b with root := some (b.root.getD n) }
  | f :: fs => { b with frames := { f with parts := n :: f.parts } :: fs }

/-- Numbers the anchor of the node that comes next. -/
def define (b : Builder) (anchor : Option String) : Builder :=
  match anchor with
  | none => b
  | some a =>
    let id := b.names.length
    let names := if (b.names.lookup a).isSome then
        b.names.map fun (n, i) => if n = a then (n, id) else (n, i)
      else b.names ++ [(a, id)]
    { b with names := names, positions := (id, b.size) :: b.positions }

def count (b : Builder) : Builder := { b with size := b.size + 1 }

def openFrame (b : Builder) (isMapping : Bool) (mark : Mark) (anchor : Option String)
    (tag : Option Text.Bytes) : Builder :=
  let position := b.size
  let b := (b.define anchor).count
  { b with frames := ⟨isMapping, mark, tag, position, anchor.isSome, []⟩ :: b.frames }

def closeFrame (b : Builder) (finish : Frame → Node) : Builder :=
  match b.frames with
  | [] => b
  | f :: fs =>
    let n := finish f
    let b := { b with
      frames := fs, nodes := if f.isAnchored then (f.position, n) :: b.nodes else b.nodes }
    b.add n

def closeAll : Nat → Builder → Builder
  | 0, b => b
  | n + 1, b => closeAll n (b.closeFrame Frame.brokenOff)

def document (b : Builder) (fault : Option Fault) (more : Bool) : Document :=
  let size := b.size
  let b := closeAll b.frames.length b
  let anchored := b.positions.filterMap fun (id, p) => (b.nodes.lookup p).map (id, ·)
  { root := b.root.orElse fun _ => if fault.isSome then some .broken else none
    anchored := anchored, size := size, fault := fault, more := more }

/-- Builds the tree of the first document; `flaw` is what ends the events. -/
def run (flaw : Option Flaw) : Builder → List (Event × Mark) → Document
  | b, [] => b.document (flaw.map .flaw) false
  | b, (e, mark) :: rest =>
    match e with
    | .documentStart => run flaw b rest
    | .streamEnd => b.document none false
    | .documentEnd => b.document none ((rest.head?.map (·.1)) != some .streamEnd)
    | .alias name =>
      match b.names.lookup name with
      | none => b.document (some (.unknownAnchor mark)) false
      | some id => run flaw (b.count.add (.alias id)) rest
    | .scalar anchor tag text style =>
      let n := Node.scalar mark tag text style
      let position := b.size
      let b := (b.define anchor).count
      let b := { b with nodes := if anchor.isSome then (position, n) :: b.nodes else b.nodes }
      run flaw (b.add n) rest
    | .sequenceStart anchor tag => run flaw (b.openFrame false mark anchor tag) rest
    | .mappingStart anchor tag => run flaw (b.openFrame true mark anchor tag) rest
    | .sequenceEnd => run flaw (b.count.closeFrame Frame.closed) rest
    | .mappingEnd => run flaw (b.count.closeFrame Frame.closed) rest

end Builder

def Document.ofText (s : String) : Document :=
  let (events, flaw) := Event.ofText s
  Builder.run flaw {} events

end Yaml
end Dashboards
