import Dashboards.Cause
import Dashboards.Json.Check
import Dashboards.Path
import Dashboards.Url.Fault
import Dashboards.Yaml.Fault

/-!
# Failures

* `Invalid`      why a configuration is refused;
* `Unwritable`   why a value has no written form;
* `Failure`      everything that can end a run, or one step of it.

The `message` of each is what an operator reads.
-/

namespace Dashboards

inductive Invalid where
  | templatesOutside (directory root : Path)
  | badUrl (raw : String) (fault : Url.Fault)
  | badScheme (scheme : String)
  | noDatasource
  | badParameterName (key : String)
  | repeatedParameter (key : String)
  | notAssignment (raw : String)
  | noImage
  | noRuntime
  | noTimeLimit
  | stated (text : String)
deriving DecidableEq

def Invalid.message : Invalid → String
  | .templatesOutside dir root =>
    "template directory " ++ dir.shown ++ " must live inside the repository root " ++ root.shown
  | .badUrl raw fault => "invalid dashboard server URL '" ++ raw ++ "': " ++ fault.message
  | .badScheme scheme => "dashboard server URL must use http or https, got '" ++ scheme ++ "'"
  | .noDatasource => "datasource must not be empty"
  | .badParameterName key => "invalid external parameter name '" ++ key ++ "'"
  | .repeatedParameter key => "external parameter '" ++ key ++ "' is defined more than once"
  | .notAssignment raw => "expected KEY=VALUE, got '" ++ raw ++ "'"
  | .noImage => "container image must not be empty"
  | .noRuntime => "container runtime must not be empty"
  | .noTimeLimit => "timeouts must be at least one second"
  | .stated text => text

inductive Unwritable where
  | notJson (fault : Json.Fault)
  | notText
deriving DecidableEq

def Unwritable.message : Unwritable → String
  | .notJson fault => fault.message
  | .notText => "path contains invalid UTF-8 characters"

inductive Failure where
  | io (path : Path) (cause : Cause)
  | parse (fault : Yaml.Fault)
  | validation (reason : Invalid)
  | noTemplates (directory : Path)
  | serialize (reason : Unwritable)
  | spawn (program : String) (cause : Cause)
  | timeout (program : String) (seconds : Nat)
  | toolchain (text : String)
  | install (text : String)
  | compile (count : Nat) (templates : String)
  | publish (dashboard status detail : String)
  | transport (text : String)
deriving DecidableEq

def Failure.message : Failure → String
  | .io path cause => "I/O failure at " ++ path.quoted ++ ": " ++ cause.message
  | .parse fault => "failed to parse parameters file: " ++ fault.message
  | .validation reason => "invalid configuration: " ++ reason.message
  | .noTemplates directory => "no dashboard templates found in " ++ directory.quoted
  | .serialize reason => "failed to serialize output: " ++ reason.message
  | .spawn program cause => "failed to start `" ++ program ++ "`: " ++ cause.message
  | .timeout program seconds =>
    "`" ++ program ++ "` did not finish within " ++ toString seconds ++ "s"
  | .toolchain text => "container toolchain unavailable: " ++ text
  | .install text => "dependency install failed: " ++ text
  | .compile count templates => toString count ++ " template(s) failed to compile: " ++ templates
  | .publish dashboard status detail =>
    "failed to publish dashboard '" ++ dashboard ++ "' (" ++ status ++ "): " ++ detail
  | .transport text => "transport error: " ++ text

end Dashboards
