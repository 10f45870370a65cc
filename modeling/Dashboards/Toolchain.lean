import Dashboards.Command
import Dashboards.Config

/-!
# Toolchains

The tools run on the host when both are there, and otherwise in a container that has the root of the
repository mounted.

* `Mode.detect`        which of the two it is;
* `Toolchain.tool`     a call of a tool from the directory of the templates;
* `Toolchain.route`    the same call as it is made: in a container of the given name, its directory
                       is the one that corresponds to the directory on the host, and the container
                       is killed after a timeout.
-/

namespace Dashboards

/-- The compiler of templates. -/
def compiler : String := "jsonnet"

/-- The installer of the libraries that templates use. -/
def installer : String := "jb"

def requiredTools : List String := [compiler, installer]

/-- Where the root of the repository is mounted in a container. -/
def mountPoint : String := "/workspace"

inductive Mode where
  | native
  | containerized (image : String)
deriving DecidableEq

namespace Mode

def label : Mode → String
  | .native => "native"
  | .containerized _ => "containerized"

def detect (present : String → Bool) (image : String) : Mode :=
  if requiredTools.all present then .native else .containerized image

def json : Mode → Json.Value
  | .native => .object [("mode", .text "native")]
  | .containerized image => .object [("mode", .text "containerized"), ("image", .text image)]

end Mode

structure Toolchain where
  mode : Mode
  runtime : String
  root : Path
  templatesDir : Path
deriving DecidableEq

namespace Toolchain

def ofMode (c : Config) (mode : Mode) : Toolchain := ⟨mode, c.runtime, c.root, c.templatesDir⟩

def detect (c : Config) (present : String → Bool) : Toolchain :=
  ofMode c (Mode.detect present c.image)

/-- A call of a tool, made in the directory of the templates. -/
def tool (t : Toolchain) (program : String) : Command := .new program t.templatesDir

/-- A call of the container runtime, made at the root. -/
def container (t : Toolchain) (args : List String) : Command :=
  (Command.new t.runtime t.root).withArgs args

/-- How a part of a path is written in a container; a path that leads elsewhere keeps its root. -/
def partText : Path.Part → String
  | .root => "/"
  | .here => ""
  | .up => ".."
  | .name n => Text.lossy n

/-- The directory in a container for one that is seen from the root. -/
def containerDir (relative : Path) : String :=
  relative.parts.foldl (fun dir p =>
    let s := partText p
    if s.isEmpty then dir else dir ++ "/" ++ s) mountPoint

/-- The call as it is made, in a container of that name if need be. -/
def route (t : Toolchain) (name : String) (logical : Command) : Command :=
  match t.mode with
  | .native => logical
  | .containerized image =>
    (t.container (["run", "--rm", "--init", "--name", name,
        "-v", t.root.shown ++ ":" ++ mountPoint,
        "-w", containerDir (logical.workingDir.relativeTo t.root),
        image, logical.program] ++ logical.args)).cleanupOnTimeout (t.container ["kill", name])

/-- The call that tells whether an image is there. -/
def inspect (t : Toolchain) (image : String) : Command := t.container ["image", "inspect", image]

/-- The call that builds an image from the directory of the templates. -/
def build (t : Toolchain) (image : String) : Command :=
  t.container ["build", "-t", image, t.templatesDir.shown]

end Toolchain
end Dashboards
