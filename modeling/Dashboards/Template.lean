import Dashboards.Files
import Dashboards.Json.Draft

/-!
# Templates

A template is a file whose name ends in `.jsonnet` behind a name that is not hidden.

* `Template.ofPath?`   the template that a path names;
* `discover`           the templates directly inside a directory, in the order of their file names.
-/

namespace Dashboards
open Text (Bytes)

structure Template where
  name : String
  path : Path
deriving DecidableEq

namespace Template

def suffix : List Char := ".jsonnet".toList

/-- The name in front of the suffix; it is not empty and does not start with a point. -/
def stem? (fileName : List Char) : Option (List Char) :=
  let n := fileName.length - suffix.length
  if fileName.drop n = suffix then
    match fileName.take n with
    | [] => none
    | '.' :: _ => none
    | stem => some stem
  else none

def ofPath? (p : Path) : Option Template := do
  let name ← p.fileName?
  let stem ← stem? (← Text.fromUtf8? name)
  return ⟨String.ofList stem, p⟩

def outputName (t : Template) : String := t.name ++ ".json"

def draft (t : Template) : Json.Draft :=
  .object [("name", .value (.text t.name)), ("path", t.path.draft)]

def json (t : Template) : Except Unwritable Json.Value := t.draft.value?

end Template

/-- The order of file names: byte by byte. -/
def bytesLe : Bytes → Bytes → Bool
  | [], _ => true
  | _ :: _, [] => false
  | a :: as, b :: bs => a < b || (a = b && bytesLe as bs)

/-- An entry is a regular file or a link to one. -/
def Files.isFileAt (t : Files) (p : Path) : Entry → Bool
  | .file .. => true
  | .directory | .special => false
  | .link _ => match t.entry p with
    | .ok (_, .file ..) => true
    | _ => false

/-- The template that an entry of a directory is, if it is one. -/
def templateAt? (t : Files) (directory : Path) (name : Bytes) (e : Entry) : Option Template :=
  let p := directory.join ⟨name⟩
  if t.isFileAt p e then Template.ofPath? p else none

/-- The templates among the entries of a directory, whatever order these come in. -/
def templatesAmong (t : Files) (directory : Path) (entries : List (Bytes × Entry)) :
    List Template :=
  let found := entries.filterMap fun (name, e) => (templateAt? t directory name e).map (name, ·)
  (found.mergeSort fun a b => bytesLe a.1 b.1).map (·.2)

def discover (t : Files) (directory : Path) : Except Failure (List Template) :=
  match t.list directory with
  | .error c => if c = .noEntry then .error (.noTemplates directory) else .error (.io directory c)
  | .ok entries =>
    match templatesAmong t directory entries with
    | [] => .error (.noTemplates directory)
    | ts => .ok ts

end Dashboards
