import Dashboards.Cli.Job
import Dashboards.Machine
import Dashboards.Programs
import Dashboards.Run

/-!
# The command line

* `Ending`       what the program leaves behind: its status and two texts;
* `perform`      one job, on a host;
* `executeWith`  what arguments and environment ask for, on a machine;
* `execute`      the same on a machine whose processes can start the program again.
-/

namespace Dashboards
namespace Cli
open Shell (Octets)

structure Ending where
  exit : Nat
  stdout : String := ""
  stderr : String := ""
deriving DecidableEq

/-- The name of the program. -/
def programName : String := "dashbuild"

def version : String := "0.1.0"

/-- A failure is told on a line of its own. -/
def failed (f : Failure) (stdout : String := "") : Ending := ⟨1, stdout, f.message ++ "\n"⟩

/-- Writes a value with the end of a line behind it. What has been written when the writing breaks
off stays. -/
def printJson (pretty : Bool) (d : Json.Draft) : Ending :=
  let w := d.write pretty 0
  match w.fault with
  | some e => failed (.serialize e) (String.ofList w.chars)
  | none => { exit := 0, stdout := String.ofList w.chars ++ "\n" }

/-- The templates as a list. -/
def listing (ts : List Template) : Json.Draft := .list (ts.map Template.draft)

/-- Lists the templates that a run with this layout would find. -/
def performList (t : Files) (root templatesDir : Path) (pretty : Bool) : Ending :=
  match Config.ofSettings t { root, templatesDir } with
  | .error f => failed f
  | .ok c =>
    match discover t c.templatesDir with
    | .error f => failed f
    | .ok ts => printJson pretty (listing ts)

def performToolchain (present : String → Bool) (image : String) : Ending :=
  printJson false (.value (Mode.detect present image).json)

/-- Tells what became of a run, saves the report if there is a place for it, and ends with the
failure of the run if there is one. -/
def conclude (r : Report) (saved : Option Path) (t : Files) : Ending × Files :=
  let stdout := r.summary ++ "\n"
  let (save, t) : Except Failure Unit × Files := match saved with
    | some p => r.save p t
    | none => (.ok (), t)
  match save with
  | .error f => (failed f stdout, t)
  | .ok () =>
    match r.result with
    | .error f => (failed f stdout, t)
    | .ok _ => ({ exit := 0, stdout }, t)

/-- Performs a job. The host is made for the configuration of the run, before anything else is done;
it may be that there is none. -/
def perform (host : Config → Except Failure (Host σ)) (present : String → Bool) (s : Session σ) :
    Job → Ending × Session σ
  | .list root templatesDir pretty => (performList s.files root templatesDir pretty, s)
  | .toolchain image => (performToolchain present image, s)
  | .run settings report =>
    match Config.ofSettings s.files settings with
    | .error f => (failed f, s)
    | .ok c =>
      match host c with
      | .error f => (failed f, s)
      | .ok h =>
        match runAll h c present s with
        | (.error f, s) => (failed f, s)
        | (.ok r, s) =>
          let (ending, files) := conclude r report s.files
          (ending, { s with files })

/-- A short account of the options. -/
def helpText : String :=
  "Usage: " ++ programName ++ " [OPTIONS] [COMMAND]\n\nCommands: " ++ ", ".intercalate commands
    ++ "\nOptions:\n" ++ String.join (Opt.ofRun.map fun o => "  --" ++ o.name ++ "\n")
    ++ "  --help\n  --version\n"

/-- The machine on which the commands of a configuration run. -/
def machineOf (env : List (String × String)) (process : Nat) (c : Config)
    (own : Option (Shell.Tool.Call → Shell.Tool.Result) := none) : Machine :=
  { environment := env, limit := c.commandSeconds * 1000, process, own }

/-- A program is present if it stands on the search path of the environment. -/
def isPresent (env : List (String × String)) (t : Files) (program : String) : Bool :=
  match env.lookup "PATH" with
  | some path => t.hasProgram (.ofString path) (.ofString program)
  | none => false

/-- Does what the arguments and the environment ask for. The processes of a run can start `own`. -/
def executeWith (own : Option (Shell.Tool.Call → Shell.Tool.Result)) (args : List String)
    (env : List (String × String)) (process : Nat) (t : Files) : Ending × Files :=
  match Ask.ofArgs args env with
  | .error m => (⟨2, "", "error: " ++ m.message ++ "\n"⟩, t)
  | .ok .help => (⟨0, helpText, ""⟩, t)
  | .ok .version => (⟨0, programName ++ " " ++ version ++ "\n", ""⟩, t)
  | .ok (.job j) =>
    let host (c : Config) : Except Failure (Host Unit) := .ok (machineOf env process c own).host
    let (ending, s) := perform host (isPresent env t) { files := t, state := (), process } j
    (ending, s.files)

/-- A program as a process of others. Arguments and variables that are no texts are read as well as
they can be. -/
def asTool (program : List String → List (String × String) → Nat → Files → Ending × Files)
    (c : Shell.Tool.Call) : Shell.Tool.Result :=
  let text (s : Octets) : String := Text.lossy (Octets.toBytes s)
  let (ending, files) := program (c.args.map text)
    (c.environment.map fun (k, v) => (text k, text v)) c.process c.files
  { status := ending.exit
    out := Octets.ofText ending.stdout
    err := Octets.ofText ending.stderr
    files
    input := c.input }

/-- The program, which the processes of its runs can start again, inside of one another as often as
told. -/
def executeWithin : Nat → List String → List (String × String) → Nat → Files → Ending × Files
  | 0 => executeWith none
  | n + 1 => executeWith (some (asTool (executeWithin n)))

/-- How often the program may run inside of itself. -/
def generations : Nat := 100

/-- Does what the arguments and the environment ask for. -/
def execute (args : List String) (env : List (String × String)) (process : Nat) (t : Files) :
    Ending × Files :=
  executeWithin generations args env process t

end Cli
end Dashboards
