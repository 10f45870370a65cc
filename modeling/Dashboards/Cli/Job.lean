import Dashboards.Cli.Options

/-!
# What the command line asks for

* `Job`          a run, a list of the templates, or the mode of the toolchain;
* `Ask.ofArgs`   the job that the arguments and the environment give.
-/

namespace Dashboards
namespace Cli

inductive Job where
  /-- A run, and the file that its report goes to. -/
  | run (settings : Settings) (report : Option Path)
  | list (root templatesDir : Path) (pretty : Bool)
  | toolchain (image : String)
deriving DecidableEq

inductive Ask where
  | job (j : Job)
  | help
  | version
deriving DecidableEq

def commands : List String := ["run", "list", "toolchain", "help"]

section
variable (env : List (String × String)) (g : Given)

def textOf (o : Opt) (default : String) : String := (g.value? env o).getD default

def pathOf (o : Opt) (default : Path) : Path := ((g.value? env o).map Path.ofString).getD default

def secondsOf (o : Opt) (default : Nat) : Nat := ((g.value? env o).bind seconds?).getD default

/-- Each setting from its option, its variable or its default. -/
def settingsOf : Settings where
  root := pathOf env g .root Default.root
  templatesDir := pathOf env g .templatesDir Default.templatesDir
  outputDir := (g.value? env .outputDir).map Path.ofString
  serverUrl := textOf env g .serverUrl Default.serverUrl
  token := g.value? env .token
  datasource := textOf env g .datasource Default.datasource
  image := textOf env g .image Default.image
  runtime := textOf env g .runtime Default.runtime
  assignments := g.values .assignment
  paramsFile := (g.value? env .paramsFile).map Path.ofString
  commandSeconds := secondsOf env g .commandSeconds Default.commandSeconds
  httpSeconds := secondsOf env g .httpSeconds Default.httpSeconds
  stopOnFirstFailure := !g.has .keepGoing

def runJob : Job := .run (settingsOf env g) ((g.value? env .report).map Path.ofString)

def listJob : Job :=
  .list (pathOf env g .root Default.root) (pathOf env g .templatesDir Default.templatesDir)
    (g.has .pretty)

def toolchainJob : Job := .toolchain (textOf env g .image Default.image)

end

/-- The job of a command with options of its own. -/
def jobOf (env : List (String × String)) (opts : List Opt) (job : Given → Job)
    (args : List String) : Except Misuse Ask := do
  match ← readArgs opts [] [] args with
  | .options g =>
    checkEnvironment g env opts
    return .job (job g)
  | .command .. => return .help
  | .help => return .help
  | .version => return .version

/-- What a command asks for. -/
def commandOf (env : List (String × String)) (name : String) (args : List String) :
    Except Misuse Ask :=
  match name with
  | "run" => jobOf env Opt.ofRun (runJob env) args
  | "list" => jobOf env Opt.ofList (listJob env) args
  | "toolchain" => jobOf env Opt.ofToolchain (toolchainJob env) args
  | _ =>
    match args with
    | [] => .ok .help
    | a :: _ => if commands.contains a then .ok .help else .error (.unexpectedArgument a)

/-- Without a command the options are those of a run. The environment has to fit these in any case,
and the options in front of a command do not reach it. -/
def Ask.ofArgs (args : List String) (env : List (String × String)) : Except Misuse Ask := do
  match ← readArgs Opt.ofRun commands [] args with
  | .help => return .help
  | .version => return .version
  | .options g =>
    checkEnvironment g env Opt.ofRun
    return .job (runJob env g)
  | .command g name rest =>
    match ← commandOf env name rest with
    | .job j =>
      checkEnvironment g env Opt.ofRun
      return .job j
    | ask => return ask

end Cli
end Dashboards
