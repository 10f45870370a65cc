import Dashboards.Settings

/-!
# Options of the command line

* `Opt`            an option: its name, what it takes, and the variable that stands in for it;
* `Misuse`         why arguments are refused;
* `readArgs`       the options that arguments give, up to the name of a command;
* `Given.value?`   the value of an option: from the arguments, else from the environment.
-/

namespace Dashboards
namespace Cli

/-- What an option takes. -/
inductive Taken where
  | nothing
  | path
  | text
  | seconds
  /-- A text each time, any number of times. -/
  | texts
deriving DecidableEq

structure Opt where
  name : String
  taken : Taken
  /-- The variable whose value counts if the option is not given. -/
  environment : Option String := none
deriving DecidableEq

namespace Opt

def root : Opt := ⟨"root", .path, some "DASHBUILD_ROOT"⟩

def templatesDir : Opt := ⟨"templates-dir", .path, some "DASHBUILD_TEMPLATES_DIR"⟩

def outputDir : Opt := ⟨"output-dir", .path, some "OUTPUT_DIR"⟩

def serverUrl : Opt := ⟨"grafana-url", .text, some "GRAFANA_URL"⟩

def token : Opt := ⟨"grafana-token", .text, some "GRAFANA_TOKEN"⟩

def datasource : Opt := ⟨"datasource", .text, some "DATASOURCE"⟩

def image : Opt := ⟨"image", .text, some "JSONNET_IMAGE"⟩

def runtime : Opt := ⟨"container-runtime", .text, some "CONTAINER_RUNTIME"⟩

def assignment : Opt := ⟨"ext-str", .texts, none⟩

def paramsFile : Opt := ⟨"params", .path, some "DASHBUILD_PARAMS"⟩

def commandSeconds : Opt := ⟨"command-timeout", .seconds, some "DASHBUILD_COMMAND_TIMEOUT"⟩

def httpSeconds : Opt := ⟨"http-timeout", .seconds, some "DASHBUILD_HTTP_TIMEOUT"⟩

def keepGoing : Opt := ⟨"keep-going", .nothing, none⟩

def report : Opt := ⟨"report", .path, none⟩

def pretty : Opt := ⟨"pretty", .nothing, none⟩

/-- The options of a run. -/
def ofRun : List Opt :=
  [root, templatesDir, outputDir, serverUrl, token, datasource, image, runtime, assignment,
    paramsFile, commandSeconds, httpSeconds, keepGoing, report]

def ofList : List Opt := [root, templatesDir, pretty]

def ofToolchain : List Opt := [image]

end Opt

inductive Misuse where
  | unknownOption (arg : String)
  | unexpectedArgument (arg : String)
  | unexpectedValue (opt : String)
  | missingValue (opt : String)
  | repeated (opt : String)
  | badNumber (opt value : String)
deriving DecidableEq

def Misuse.message : Misuse → String
  | .unknownOption arg => "unexpected argument '" ++ arg ++ "' found"
  | .unexpectedArgument arg => "unexpected argument '" ++ arg ++ "' found"
  | .unexpectedValue opt => "unexpected value for '--" ++ opt ++ "' found"
  | .missingValue opt => "a value is required for '--" ++ opt ++ "' but none was supplied"
  | .repeated opt => "the argument '--" ++ opt ++ "' cannot be used multiple times"
  | .badNumber opt value => "invalid value '" ++ value ++ "' for '--" ++ opt ++ "'"

/-- A number of 64 bits in decimal digits; a plus sign may stand in front. -/
def seconds? (s : String) : Option Nat :=
  let digits := match s.toList with
    | '+' :: cs => cs
    | cs => cs
  if digits.isEmpty || !digits.all Char.isDigit then none
  else
    let n := digits.foldl (fun n c => n * 10 + (c.toNat - 48)) 0
    if n < Nat.pow 2 64 then some n else none

/-- A value that the option accepts. -/
def Opt.check (o : Opt) (value : String) : Except Misuse Unit :=
  match o.taken with
  | .path => if value.isEmpty then .error (.missingValue o.name) else .ok ()
  | .seconds => if (seconds? value).isNone then .error (.badNumber o.name value) else .ok ()
  | _ => .ok ()

/-- The options that have been given, with their values, in their order. -/
abbrev Given := List (Opt × String)

namespace Given

def add (g : Given) (o : Opt) (value : String) : Except Misuse Given :=
  if o.taken ≠ .texts && g.any (·.1 = o) then .error (.repeated o.name)
  else do
    o.check value
    return g ++ [(o, value)]

def has (g : Given) (o : Opt) : Bool := g.any (·.1 = o)

/-- All values of an option that may be given many times. -/
def values (g : Given) (o : Opt) : List String :=
  g.filterMap fun (p, v) => if p = o then some v else none

/-- The value from the arguments, else the one from the environment. -/
def value? (g : Given) (env : List (String × String)) (o : Opt) : Option String :=
  match g.lookup o with
  | some v => some v
  | none => o.environment.bind (List.lookup · env)

end Given

/-- The variables of the environment that stand in for options hold values that these accept. -/
def checkEnvironment (g : Given) (env : List (String × String)) : List Opt → Except Misuse Unit
  | [] => .ok ()
  | o :: os => do
    if !g.has o then
      match o.environment.bind (List.lookup · env) with
      | some v => o.check v
      | none => pure ()
    checkEnvironment g env os

/-- What arguments ask for. -/
inductive Reading where
  | options (given : Given)
  /-- Options, then the name of a command with the arguments that follow it. -/
  | command (given : Given) (name : String) (rest : List String)
  | help
  | version

/-- A name behind two hyphens and the value behind the sign of equality. -/
def longOption? (arg : String) : Option (String × Option String) :=
  match arg.toList with
  | '-' :: '-' :: cs =>
    let name := cs.takeWhile (· ≠ '=')
    match cs.drop name.length with
    | _ :: value => some (String.ofList name, some (String.ofList value))
    | [] => some (String.ofList name, none)
  | _ => none

/-- An argument that is no value: a hyphen with more behind it. -/
def looksLikeOption (arg : String) : Bool := arg.length > 1 && arg.startsWith "-"

/-- Reads arguments from left to right; the first that does not fit decides. Only the command line
as a whole has commands and a version. -/
def readArgs (opts : List Opt) (commands : List String) (g : Given) :
    List String → Except Misuse Reading
  | [] => .ok (.options g)
  | a :: as =>
    let whole := !commands.isEmpty
    if commands.contains a then .ok (.command g a as)
    else if a = "--" then
      match as with
      | [] => .ok (.options g)
      | b :: _ => .error (.unexpectedArgument b)
    else match longOption? a with
      | some (name, value) =>
        if name = "help" then
          if value.isSome then .error (.unexpectedValue name) else .ok .help
        else if name = "version" && whole then
          if value.isSome then .error (.unexpectedValue name) else .ok .version
        else match opts.find? (·.name = name) with
          | none => .error (.unknownOption a)
          | some o =>
            match o.taken, value with
            | .nothing, some _ => .error (.unexpectedValue name)
            | .nothing, none => do readArgs opts commands (← g.add o "") as
            | _, some v => do readArgs opts commands (← g.add o v) as
            | _, none =>
              match as with
              | [] => .error (.missingValue name)
              | v :: as =>
                if looksLikeOption v then .error (.missingValue name)
                else do readArgs opts commands (← g.add o v) as
      | none =>
        match a.toList with
        | '-' :: 'h' :: _ => .ok .help
        | '-' :: 'V' :: _ => if whole then .ok .version else .error (.unknownOption a)
        | '-' :: _ :: _ => .error (.unknownOption a)
        | _ => .error (.unexpectedArgument a)

end Cli
end Dashboards
