import Dashboards.Session
import Dashboards.Shell.Evaluation

/-!
# The machine that a run takes place on

Commands run as processes of a system whose programs are scripts and tools kept in the file tree. No
server can be reached from it.

* `systemFiles`        the part of the tree that belongs to the system;
* `Machine`            the environment of the processes and the time that each may take;
* `Machine.shown`      the tree with the program that starts the processes;
* `Machine.execute`    one call: whether it starts, what it leaves, or that its time was up;
* `Machine.run`        a command, with the cleanup after a timeout;
* `Machine.post`       a request, which gets no reply;
* `Machine.host`       both as a host of sessions.
-/

namespace Dashboards
open Text (Bytes)
open Shell (Octets)

/-- The directories, tools and devices that every system has. -/
def systemFiles : List (Location × Entry) :=
  let dirs : List (List String) := [["etc"], ["tmp"], ["usr"], ["usr", "bin"], ["usr", "local"],
    ["usr", "local", "bin"], ["dev"], ["proc"], ["var"], ["root"], ["home"]]
  let files : List (List String) := [["etc", "passwd"], ["etc", "hostname"], ["dev", "null"]]
  let place (names : List String) : Location := names.map Text.utf8
  let tool (name holds : String) : Location × Entry :=
    (place ["usr", "bin", name], .file (Shell.toolFile holds) true)
  dirs.map (fun d => (place d, .directory)) ++ files.map (fun f => (place f, .file [] false))
    ++ [(place ["bin"], .link (.ofString "usr/bin")), tool "dash" "sh", tool "bash" "sh"]
    ++ Shell.toolNames.map fun n => tool n n

structure Machine where
  environment : List (String × String)
  /-- The time limit of a process, in thousandths of a second. -/
  limit : Nat
  /-- The number of the process that starts others. -/
  process : Nat
  /-- The program of that process, if others can start it again. -/
  own : Option (Shell.Tool.Call → Shell.Tool.Result) := none

namespace Machine

/-- The directory in which the system tells about a process. -/
def processDir (process : Nat) : Location := ["proc", toString process].map Text.utf8

/-- The tree as the processes of a call see it, in which the program that has started them can be
found by the number of its process. -/
def shown (m : Machine) (t : Files) : Files :=
  if m.own.isNone then t
  else
    let dir := processDir m.process
    let program := Entry.file (Shell.toolFile Shell.ownTool) true
    (t.put dir .directory).put (dir ++ [Text.utf8 "exe"]) program

/-- The tree without what has been shown of the process. -/
def unshown (m : Machine) (t : Files) : Files :=
  if m.own.isNone then t else t.remove (processDir m.process)

/-- The search path where the environment names none. -/
def standardPath : Octets := "/bin:/usr/bin"

def vars (m : Machine) : List (Octets × Octets) :=
  m.environment.map fun (k, v) => (Octets.ofText k, Octets.ofText v)

/-- What a call starts, and the directory it runs in. -/
def start (m : Machine) (c : Call) (t : Files) : Except Cause (Shell.Image × Location) :=
  let texts := c.program :: c.args
  if texts.any (·.contains '\x00') || c.workingDir.bytes.contains 0 then .error .nulInArgument
  else
    match t.entry c.workingDir with
    | .error cause => .error cause
    | .ok (l, .directory) =>
      let path := (m.vars.lookup "PATH").getD standardPath
      (Shell.findProgram { t with cwd := l } path (Octets.ofText c.program)
        (c.args.map Octets.ofText)).map (·, l)
    | .ok _ => .error .notDirectory

/-- The number of commands that a process may start before it counts as endless. -/
def manySteps : Nat := 1000000

/-- The state in which a process starts: nothing to read, and a stream for each of its outputs. -/
def freshState (m : Machine) (t : Files) (l : Location) (image : Shell.Image) : Shell.State :=
  { files := t
    streams := #["", ""]
    limit := m.limit
    steps := manySteps
    own := m.own
    scope := {
      name := image.name
      handles := [(0, .nowhere), (1, .stream 0), (2, .stream 1)]
      cwd := l
      process := m.process } }

/-- What a process leaves, unless its time was up. -/
def outputOf (s : Shell.State) (status : Option Int) : Output :=
  let text (i : Nat) : String := Text.lossy (Octets.toBytes (s.streams.getD i ""))
  { status, stdout := text 0, stderr := text 1 }

def execute (m : Machine) (c : Call) (t : Files) : Except Failure Output × Files :=
  match m.start c (m.shown t) with
  | .error cause => (.error (.spawn c.program cause), t)
  | .ok (image, l) =>
    let run := Shell.inner Shell.depth
    let action : Shell.Run (Except Nat Nat) := do
      let r ← Shell.runProcess run image m.vars
      Shell.settle run
      return r
    let (r, s) := action.run (m.freshState (m.shown t) l image)
    let files := m.unshown { s.files with cwd := t.cwd }
    let late : Except Failure Output × Files :=
      (.error (.timeout c.program (m.limit / 1000)), files)
    if max s.clock s.background ≥ m.limit then late
    else match r with
      | .ok (.ok n) => (.ok (outputOf s (some (n : Nat))), files)
      | .ok (.error _) => (.ok (outputOf s none), files)
      | .error _ => late

def run (m : Machine) (c : Command) (t : Files) : Except Failure Output × Files :=
  c.perform m.execute t

/-! ### requests -/

/-- A token can be sent when it has no control characters but tabs. -/
def isSendable (token : String) : Bool :=
  token.toList.all fun c => (c.toNat ≥ 32 || c = '\t') && c.toNat ≠ 127

def decoded? (s : String) : Option String := Text.text? (Url.percentDecode (Text.utf8 s))

/-- The address as it is shown: name and password are sent apart from it, if they can be read. -/
def withoutCredentials (u : Url) : Url :=
  match decoded? u.username with
  | none => u
  | some name =>
    if name.isEmpty && (u.password.isEmpty || (decoded? u.password).isNone) then u
    else { u with username := "", password := "" }

def shownAddress (url : String) : String :=
  match Url.parse url with
  | .ok (.web u) => (withoutCredentials u).text
  | _ => url

def post (r : Request) : Except Failure Reply :=
  if isSendable r.token then
    .error (.transport ("error sending request for url (" ++ shownAddress r.url ++ ")"))
  else .error (.transport "builder error")

def host (m : Machine) : Host Unit where
  run c t s := let (r, t) := m.run c t; (r, t, s)
  post r s := (post r, s)

end Machine
end Dashboards
