import Dashboards.Cause
import Dashboards.Path

/-!
# The file tree

A tree is a finite map from locations to directories, files, links and special entries, with a
working directory: no two of its entries stand at one place. Paths are looked up as the system does
it: links are followed, at most forty of them, `..` is the directory above, and everything in front
of a slash has to be a directory.

* `Files.get?`, `Files.put`        the map itself;
* `Files.find`                     the place that a path denotes;
* `Files.read`, `Files.write`, `Files.makeDirs`, `Files.list`   the operations on paths.
-/

namespace Dashboards
open Text (Bytes)

/-- The names on the way from the root of the tree. -/
abbrev Location := List Bytes

inductive Entry where
  | directory
  | file (contents : Bytes) (executable : Bool)
  | link (target : Path)
  /-- A socket or whatever else is none of these. It can be found, and refuses to be opened. -/
  | special
deriving DecidableEq

@[ext]
structure Files where
  entries : List (Location × Entry) := []
  cwd : Location := []
  single : entries.Pairwise (fun x y => x.1 ≠ y.1) := by decide

/-- The absolute path of a location. -/
def Location.path (l : Location) : Path :=
  match l with
  | [] => ⟨[Path.slash]⟩
  | _ => ⟨l.flatMap (Path.slash :: ·)⟩

namespace Files

/-- The entry at a location; the root is always a directory. -/
def get? (t : Files) (l : Location) : Option Entry :=
  if l = [] then some .directory else t.entries.lookup l

section
variable {es : List (Location × Entry)} {l : Location} {e : Entry}

theorem single_change (h : es.Pairwise fun x y => x.1 ≠ y.1) :
    (es.map fun x => if x.1 = l then (l, e) else x).Pairwise fun x y => x.1 ≠ y.1 := by
  refine List.pairwise_map.mpr (h.imp fun {x y} hxy => ?_)
  have hkey : ∀ z : Location × Entry, (if z.1 = l then (l, e) else z).1 = z.1 := by
    intro z
    split
    · rename_i hz
      exact hz.symm
    · rfl
  rw [hkey, hkey]
  exact hxy

theorem single_append_new (h : es.Pairwise fun x y => x.1 ≠ y.1)
    (hl : ¬ es.any (·.1 = l) = true) : (es ++ [(l, e)]).Pairwise fun x y => x.1 ≠ y.1 := by
  refine List.pairwise_append.mpr ⟨h, List.pairwise_singleton _ _, fun x hx y hy => ?_⟩
  obtain rfl := List.mem_singleton.mp hy
  exact fun hxl => hl (List.any_eq_true.mpr ⟨x, hx, decide_eq_true hxl⟩)

end

def put (t : Files) (l : Location) (e : Entry) : Files :=
  if h : t.entries.any (·.1 = l) = true then
    { t with
      entries := t.entries.map fun x => if x.1 = l then (l, e) else x
      single := single_change t.single }
  else
    { t with
      entries := t.entries ++ [(l, e)]
      single := single_append_new t.single h }

/-- Without a location and everything below it. -/
def remove (t : Files) (l : Location) : Files :=
  { t with
    entries := t.entries.filter fun x => !l.isPrefixOf x.1
    single := t.single.filter _ }

/-- A tree with these entries, the later one where two are given for a place. -/
def ofEntries (es : List (Location × Entry)) (cwd : Location) : Files :=
  es.foldl (fun t (l, e) => t.put l e) { cwd }

/-- Where a path leads: to an entry, or to a free place in a directory. A slash behind the name of a
free place asks for a directory. -/
inductive Place where
  | taken (l : Location) (e : Entry)
  | free (l : Location) (slash : Bool)

def isUp (s : Bytes) : Bool := s = [Path.dot, Path.dot]

/-- Walks on from a directory. `links` is the number of links that may still be followed; a link at
the very end is followed if told so. -/
def walk (t : Files) (followLast : Bool) (links : Nat) (here : Location) (segments : List Bytes) :
    Except Cause Place :=
  match segments with
  | [] => .ok (.taken here .directory)
  | s :: rest =>
    if Path.isIdle s then walk t followLast links here rest
    else if isUp s then walk t followLast links here.dropLast rest
    else if s.length > 255 then .error .nameTooLong
    else
      let l := here ++ [s]
      let last := rest.all (· = [])
      match t.get? l with
      | none => if last then .ok (.free l (!rest.isEmpty)) else .error .noEntry
      | some .directory => walk t followLast links l rest
      | some (.file c x) =>
        if rest.isEmpty then .ok (.taken l (.file c x)) else .error .notDirectory
      | some .special => if rest.isEmpty then .ok (.taken l .special) else .error .notDirectory
      | some (.link target) =>
        if last && !followLast then .ok (.taken l (.link target))
        else match links with
          | 0 => .error .linkLoop
          | links + 1 =>
            let start := if target.isAbsolute then [] else here
            if target.bytes.isEmpty then .error .noEntry
            else walk t followLast links start (Path.segments target.bytes ++ rest)
termination_by (links, segments.length)

/-- The place that a path denotes. -/
def find (t : Files) (p : Path) (followLast : Bool := true) : Except Cause Place :=
  if p.bytes.contains 0 then .error .nulInPath
  else if p.bytes.isEmpty then .error .noEntry
  else if p.bytes.length ≥ 4096 then .error .nameTooLong
  else t.walk followLast 40 (if p.isAbsolute then [] else t.cwd) (Path.segments p.bytes)

def entry (t : Files) (p : Path) : Except Cause (Location × Entry) :=
  match t.find p with
  | .error c => .error c
  | .ok (.taken l e) => .ok (l, e)
  | .ok (.free ..) => .error .noEntry

def isDirectory (t : Files) (p : Path) : Bool :=
  match t.entry p with
  | .ok (_, .directory) => true
  | _ => false

/-- The absolute path without links, `.` and `..`. -/
def canonical (t : Files) (p : Path) : Except Cause Path :=
  (t.entry p).map (·.1.path)

def read (t : Files) (p : Path) : Except Cause Bytes :=
  match t.entry p with
  | .error c => .error c
  | .ok (_, .file contents _) => .ok contents
  | .ok (_, .special) => .error .noDevice
  | .ok _ => .error .isDirectory

def readText (t : Files) (p : Path) : Except Cause String :=
  match t.read p with
  | .error c => .error c
  | .ok bs =>
    match Text.text? bs with
    | some s => .ok s
    | none => .error .notText

/-- The names directly inside a location. -/
def children (t : Files) (l : Location) : List (Bytes × Entry) :=
  t.entries.filterMap fun (m, e) =>
    match m.getLast? with
    | some name => if m.dropLast = l then some (name, e) else none
    | none => none

def list (t : Files) (p : Path) : Except Cause (List (Bytes × Entry)) :=
  match t.entry p with
  | .error c => .error c
  | .ok (l, .directory) => .ok (t.children l)
  | .ok _ => .error .notDirectory

/-- Gives a file new contents, making the file if there is none. A file that is there keeps its
permission to be run. -/
def write (t : Files) (p : Path) (contents : Bytes) : Except Cause Files :=
  match t.find p with
  | .error c => .error c
  | .ok (.taken l (.file _ x)) => .ok (t.put l (.file contents x))
  | .ok (.taken _ .special) => .error .noDevice
  | .ok (.taken ..) => .error .isDirectory
  | .ok (.free _ true) => .error .isDirectory
  | .ok (.free l false) => .ok (t.put l (.file contents false))

def makeDir (t : Files) (p : Path) : Except Cause Files :=
  match t.find p false with
  | .error c => .error c
  | .ok (.taken ..) => .error .fileExists
  | .ok (.free l _) => .ok (t.put l .directory)

/-- Makes a directory that may be there already. -/
def ensureDir (t : Files) (p : Path) : Except Cause Files :=
  match t.makeDir p with
  | .ok t => .ok t
  | .error c => if t.isDirectory p then .ok t else .error c

/-- Makes a directory with those above it, from the outside in; what has been made stays when a step
is refused. Each call is for a shorter path. -/
def makeDirsWithin : Nat → Files → Path → Except Cause Unit × Files
  | 0, t, _ => (.ok (), t)
  | fuel + 1, t, p =>
    if p.bytes.isEmpty then (.ok (), t)
    else
      match t.makeDir p with
      | .ok t => (.ok (), t)
      | .error c =>
        if c = .noEntry then
          match p.parent? with
          | none => (.error (.stated "failed to create whole tree"), t)
          | some up =>
            match makeDirsWithin fuel t up with
            | (.error c, t) => (.error c, t)
            | (.ok (), t) =>
              match t.ensureDir p with
              | .ok t => (.ok (), t)
              | .error c => (.error c, t)
        else if t.isDirectory p then (.ok (), t)
        else (.error c, t)

def makeDirs (t : Files) (p : Path) : Except Cause Unit × Files :=
  makeDirsWithin (p.bytes.length + 1) t p

end Files
end Dashboards
