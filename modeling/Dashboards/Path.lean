import Dashboards.Text.Quoted

/-!
# Paths

A path is a list of bytes read in pieces between slashes:

* `Path.parts`        root, leading `.`, `..` and names; empty pieces and inner `.` do not count;
* `Path.join`         a path below another one; an absolute path stands for itself;
* `Path.relativeTo`   what is left of a path below a base, or the path itself;
* `Path.fileName?`, `Path.parent?`   the last name and what stands before it.
-/

namespace Dashboards
open Text (Bytes)

structure Path where
  bytes : Bytes
deriving DecidableEq, Inhabited

namespace Path

def slash : UInt8 := 47

def dot : UInt8 := 46

def ofString (s : String) : Path := ⟨Text.utf8 s⟩

def text? (p : Path) : Option String := Text.text? p.bytes

/-- The path as a text; bytes that are no UTF-8 read U+FFFD. -/
def shown (p : Path) : String := Text.lossy p.bytes

def quoted (p : Path) : String := Text.quotedBytes p.bytes

def isAbsolute (p : Path) : Bool := p.bytes.head? == some slash

/-- The pieces between slashes; there is always at least one. -/
def segments : Bytes → List Bytes
  | [] => [[]]
  | b :: bs =>
    if b = slash then [] :: segments bs
    else match segments bs with
      | [] => [[b]]
      | s :: ss => (b :: s) :: ss

def joinSegments : List Bytes → Bytes
  | [] => []
  | [s] => s
  | s :: t :: ss => s ++ slash :: joinSegments (t :: ss)

inductive Part where
  | root
  | here
  | up
  | name (bytes : Bytes)
deriving DecidableEq

/-- An empty piece and `.` name nothing. -/
def isIdle (s : Bytes) : Bool := s = [] || s = [dot]

def Part.ofSegment (s : Bytes) : Part := if s = [dot, dot] then .up else .name s

/-- How a path starts: at the root, with an explicit `.`, or with its first name. -/
inductive Start where
  | root
  | here
  | plain
deriving DecidableEq

def start (p : Path) : Start :=
  if p.isAbsolute then .root
  else if (segments p.bytes).head? = some [dot] then .here
  else .plain

/-- The pieces that follow the start. -/
def body (p : Path) : List Bytes :=
  match p.start with
  | .plain => segments p.bytes
  | _ => (segments p.bytes).drop 1

def Start.parts : Start → List Part
  | .root => [.root]
  | .here => [.here]
  | .plain => []

def parts (p : Path) : List Part :=
  p.start.parts ++ (p.body.filter (!isIdle ·)).map Part.ofSegment

def trimIdleEnd (ss : List Bytes) : List Bytes :=
  (ss.reverse.dropWhile isIdle).reverse

/-- Drops as many naming pieces as told, and the idle ones around them. -/
def dropNames : Nat → List Bytes → List Bytes
  | 0, ss => ss.dropWhile isIdle
  | n + 1, ss => dropNames n ((ss.dropWhile isIdle).drop 1)

def build (st : Start) (ss : List Bytes) : Path :=
  match st with
  | .root => ⟨slash :: joinSegments ss⟩
  | .here => ⟨dot :: (if ss.isEmpty then [] else slash :: joinSegments ss)⟩
  | .plain => ⟨joinSegments ss⟩

/-- The path stands below the base, part by part. -/
def isBelow (p base : Path) : Bool := base.parts.isPrefixOf p.parts

/-- The path seen from the base; a path that is not below the base stays as it is. -/
def relativeTo (p base : Path) : Path :=
  if p.isBelow base then
    match base.parts.length with
    | 0 => build p.start (trimIdleEnd p.body)
    | n + 1 =>
      let left := if p.start = .plain then dropNames (n + 1) p.body else dropNames n p.body
      ⟨joinSegments (trimIdleEnd left)⟩
  else p

/-- One path after another, with a slash between them where one is needed. -/
def join (base p : Path) : Path :=
  if p.isAbsolute then p
  else if base.bytes.isEmpty || base.bytes.getLast? = some slash then ⟨base.bytes ++ p.bytes⟩
  else ⟨base.bytes ++ slash :: p.bytes⟩

/-- The last part, when it is a name. -/
def fileName? (p : Path) : Option Bytes :=
  match p.parts.getLast? with
  | some (.name n) => some n
  | _ => none

/-- The path without its last part; the root and the empty path have none. -/
def parent? (p : Path) : Option Path :=
  let ss := trimIdleEnd p.body
  if ss.isEmpty then
    match p.start with
    | .here => some ⟨[]⟩
    | _ => none
  else some (build p.start (trimIdleEnd ss.dropLast))

end Path
end Dashboards
