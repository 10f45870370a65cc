import Dashboards.Shell.Expansion
import Dashboards.Shell.Program
import Dashboards.Shell.Script.Reader
import Dashboards.Shell.Signal
import Dashboards.Shell.Tool

/-!
# Processes

* `runText`       the lines of a script, one after the other;
* `receive`       a signal reaches the running shell;
* `redirectAll`   what descriptors lead to while a command runs;
* `runShell`      a shell with its arguments;
* `runProcess`    a tool or a script as a process of its own;
* `runProgram`    a program that is looked for on the search path.
-/

namespace Dashboards
namespace Shell

/-! ### scripts -/

/-- Runs a script line by line. -/
def runSource (run : Inner) : Nat → Source → Run Unit
  | 0, _ => return
  | n + 1, src => do
    match src.next with
    | .error e =>
      modifyScope ({ · with line := e.line })
      fatal ("Syntax error: " ++ e.fault.message)
    | .ok none => return
    | .ok (some (node, src)) =>
      run.node node
      runSource run n src

def runText (run : Inner) (text : Octets) : Run Unit :=
  runSource run (text.length + 1) ⟨text.toList, 1⟩

/-- A signal reaches the running shell: its trap is run, or the shell ends. -/
def receive (run : Inner) (n : Nat) : Run Unit := do
  match (← scope).traps.lookup (toString n) with
  | some action =>
    if n = 9 then throw (.killed n) else runText run action
  | none =>
    if isHarmless n then return
    else if isHalting n then throw .late
    else throw (.killed n)

/-! ### redirections -/

/-- Why a redirection fails: a file that is not there, a directory that is not there, or else. -/
def openFault (creating : Bool) (path : Octets) (c : Cause) : Octets :=
  let why := if c = .noEntry then (if creating then "Directory nonexistent" else "No such file")
    else c.text
  "cannot " ++ (if creating then "create " else "open ") ++ path ++ ": " ++ why

/-- Opens what a redirection names; a fault is told. -/
def openTo (fd : Nat) (way : Way) (target : Octets) : Run Bool := do
  let t ← currentFiles
  let path := Octets.toPath target
  match way with
  | .text =>
    setHandle fd (.stream (← newStream target))
    return true
  | .copy =>
    if target = "-" then closeHandle fd; return true
    match Octets.number? target with
    | some n =>
      match (← scope).handles.lookup n with
      | some h => setHandle fd h; return true
      | none => complain (target ++ ": Bad file descriptor"); return false
    | none => complain "Bad fd number"; return false
  | _ =>
    if target = "/dev/null" then setHandle fd .nowhere; return true
    if way = .read then
      match t.entry path with
      | .ok (_, .file contents _) =>
        setHandle fd (.stream (← newStream (Octets.ofBytes contents)))
        return true
      | .ok _ => setHandle fd .nowhere; return true
      | .error c => complain (openFault false target c); return false
    else
      let old := if way = .write then [] else (t.read path).toOption.getD []
      match t.write path old with
      | .error c => complain (openFault true target c); return false
      | .ok t =>
        setFiles t
        match t.entry path with
        | .ok (l, _) => setHandle fd (.file l); return true
        | .error _ => return true

/-- Makes the redirections in their order, up to the first that fails. -/
def redirectAll (run : Inner) : List Redirect → Run Bool
  | [] => return true
  | .mk fd way word :: rs => do
    let target ← expandText run word
    if ← openTo fd way target then redirectAll run rs else return false

/-! ### processes -/

/-- Runs the main part of a shell; an action set for its end follows. -/
def untilExit (run : Inner) (body : Run Unit) : Run Unit := do
  let atEnd (stop : Option Stop) : Run Unit := do
    match (← scope).traps.lookup "0" with
    | none => match stop with
      | some e => throw e
      | none => return
    | some action =>
      modifyScope fun s => { s with traps := s.traps.filter (·.1 ≠ "0") }
      let last := (← scope).status
      let status := match stop with
        | some (.exit n) => n
        | _ => last
      setStatus status
      runText run action
      throw (.exit status)
  let stop ← (try body; pure none catch
    | .killed n => throw (.killed n)
    | .late => throw .late
    | e => pure (some e))
  atEnd stop

/-- The arguments that a shell is started with. -/
structure Start where
  command : Bool := false
  exitOnFailure : Bool := false
  refuseUnset : Bool := false
  trace : Bool := false
  noMatching : Bool := false

def startOptions : List Octets → Start → Start × List Octets
  | [], st => (st, [])
  | a :: as, st =>
    if a = "--" || a = "-" then (st, as)
    else
      match a.toList with
      | '-' :: cs =>
        startOptions as { st with
          command := st.command || cs.contains 'c'
          exitOnFailure := st.exitOnFailure || cs.contains 'e'
          refuseUnset := st.refuseUnset || cs.contains 'u'
          trace := st.trace || cs.contains 'x'
          noMatching := st.noMatching || cs.contains 'f' }
      | _ => (st, a :: as)

/-- The scope of a process that is started with an environment. -/
def Scope.child (s : Scope) (process : Nat) (name : Octets) (args : List Octets)
    (environment : List (Octets × Octets)) : Scope :=
  { name, args, process
    parent := s.process
    vars := environment.map fun (k, v) => (k, { value := v, exported := true })
    handles := s.handles
    cwd := s.cwd }

/-- The search path of a shell that is given none. -/
def defaultPath : Octets := "/usr/local/sbin:/usr/local/bin:/usr/sbin:/usr/bin:/sbin:/bin"

/-- Runs a shell with arguments, as a process of its own. -/
def runShell (run : Inner) (name : Octets) (args : List Octets) : Run Unit := do
  let (st, args) := startOptions args {}
  modifyScope fun s =>
    { s with
      exitOnFailure := st.exitOnFailure
      refuseUnset := st.refuseUnset
      trace := st.trace
      noMatching := st.noMatching }
  modifyScope fun s => (s.assign "PWD" (Octets.ofPath s.cwd.path)).export "PWD"
  modifyScope fun s => s.assign "PPID" (toString s.parent)
  if ((← scope).value? "PATH").isNone then modifyScope (·.assign "PATH" defaultPath)
  let main (name : Octets) (args : List Octets) (text : Octets) : Run Unit := do
    modifyScope ({ · with name, args })
    untilExit run (runText run text)
  if st.command then
    match args with
    | [] =>
      modifyScope ({ · with line := 0 })
      fatal "-c requires an argument"
    | text :: more => main (more.headD name) more.tail text
  else
    match args with
    | [] => do
      let text ← pending 0
      leave 0 ""
      main name [] text
    | file :: more =>
      match (← currentFiles).read (Octets.toPath file) with
      | .ok contents => main file more (Octets.ofBytes contents)
      | .error c =>
        modifyScope ({ · with line := 0 })
        fatal (openFault false file c)

/-- Runs a tool that is not a shell. -/
def runTool (name : String) (tool : Tool.Call → Tool.Result) (args : List Octets) :
    Run Unit := do
  let s ← scope
  let r := tool {
    args
    environment := s.environment
    process := s.process
    files := ← currentFiles
    input := ← pending 0 }
  setFiles { r.files with cwd := s.cwd }
  leave 0 r.input
  let written ← if r.out.isEmpty then pure true else put 1 r.out
  let fault := if written then "" else name ++ ": write error: Bad file descriptor\n"
  let _ ← put 2 (r.err ++ fault)
  setStatus (if written then r.status else 1)
  wait r.time
  if r.endless then
    match s.handles.lookup 1 with
    | some (.stream i) => if i < 2 then throw .late
    | _ => throw .late

/-- The assignments in front of the program that `env` is asked to run. -/
def splitAssignments (as : List Octets) : List (Octets × Octets) × List Octets :=
  match as with
  | [] => ([], [])
  | a :: rest =>
    match assignment? a.toList with
    | some name =>
      let (es, rest) := splitAssignments rest
      ((name, (a.drop (name.length + 1)).toString) :: es, rest)
    | none => ([], a :: rest)

/-- The tools that there are. -/
def toolNames : List String := "sh" :: "env" :: Tool.table.map (·.1)

def toolOf? (name : String) : Run (Option (Tool.Call → Tool.Result)) := do
  let s ← get
  return if name = ownTool then s.own else Tool.named? name

/-- Runs a tool that starts no other program but those of its script. -/
def runImage (run : Inner) (image : Image) : Run Unit := do
  if image.tool = "sh" then runShell run image.name image.args
  else match ← toolOf? image.tool with
    | some f => runTool image.tool f image.args
    | none => setStatus 127

/-- Runs a program that is given by its name, for `env`. -/
def runEnv (run : Inner) (args : List Octets) : Run Unit := do
  let clear := args.head? = some "-i" || args.head? = some "-"
  if clear then modifyScope ({ · with vars := [] })
  let (es, args) := splitAssignments (if clear then args.tail else args)
  for (k, v) in es do modifyScope fun s => (s.assign k v).export k
  match args with
  | [] => runTool "env" Tool.printenv []
  | name :: args =>
    let path := ((← scope).value? "PATH").getD "/bin:/usr/bin"
    match findProgram (← currentFiles) path name args with
    | .ok image => runImage run image
    | .error c =>
      let _ ← put 2 ("env: " ++ Tool.quoted name ++ ": " ++ c.text ++ "\n")
      setStatus (if c = .noEntry then 127 else 126)

/-- Runs an image in a process of its own and gives the status, or the signal that ended it. -/
def runProcess (run : Inner) (image : Image) (environment : List (Octets × Octets)) :
    Run (Except Nat Nat) :=
  keepingScope do
    let n := (← get).processes + 1
    modify ({ · with processes := n })
    let base := (← scope).process
    modifyScope fun s => s.child (base + n) image.name image.args environment
    try
      if image.tool = "env" then runEnv run image.args else runImage run image
      return .ok (← scope).status
    catch
      | .exit n => return .ok n
      | .returned n => return .ok n
      | .killed n => return .error n
      | .late => throw .late
      | _ => return .ok (← scope).status

/-- Runs a program of the system for a shell, whose messages may start with a word. A file without a
first line that tells its interpreter is taken for a script of the shell. -/
def runProgram (run : Inner) (label name : Octets) (args : List Octets) : Run Unit := do
  let s ← scope
  let t ← currentFiles
  let path := (s.value? "PATH").getD ""
  let found : Except Cause Image := match findProgram t path name args with
    | .error c => if c = execFormat then .ok ⟨"sh", name, name :: args⟩ else .error c
    | .ok image => .ok image
  match found with
  | .ok image =>
    match ← runProcess run image (inTableOrder s.environment) with
    | .ok n => setStatus n
    | .error n =>
      if n ≠ 2 && n ≠ 13 then let _ ← put 2 (signalText n ++ "\n")
      setStatus (128 + n)
  | .error c =>
    if c = .noEntry || c = .notDirectory then
      complain (label ++ name ++ ": not found")
      setStatus 127
    else
      complain (label ++ name ++ ": " ++ c.text)
      setStatus 126

end Shell
end Dashboards
