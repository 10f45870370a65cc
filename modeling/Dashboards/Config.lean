import Dashboards.Params.File
import Dashboards.Settings
import Dashboards.Url

/-!
# Configuration of a run

* `Config`              settings that have been checked, with every path resolved;
* `Config.ofSettings`   the checks in their order; the first that fails decides the failure;
* `Config.endpoint`     the address that dashboards are sent to.
-/

namespace Dashboards

structure Config where
  /-- The root of the repository, an absolute path without links. -/
  root : Path
  templatesDir : Path
  outputDir : Path
  server : Url
  token : Option String
  params : Params
  image : String
  runtime : String
  commandSeconds : Nat
  httpSeconds : Nat
  stopOnFirstFailure : Bool
deriving DecidableEq

namespace Config

/-- The parameter that every template gets. -/
def datasourceKey : String := "datasource"

/-- The directory of the templates has to lie inside the root, and must not go up on its way. -/
def resolveTemplates (root dir : Path) : Except Invalid Path :=
  let dir := root.join dir
  if dir.parts.contains .up || !dir.isBelow root then .error (.templatesOutside dir root)
  else .ok dir

/-- The server has to be reached by `http` or `https`. -/
def resolveServer (raw : String) : Except Invalid Url :=
  match Url.parse (Text.trim raw) with
  | .error e => .error (.badUrl raw e)
  | .ok (.other scheme) => .error (.badScheme scheme)
  | .ok (.web u) => .ok u

/-- A blank token is none. -/
def resolveToken (token : Option String) : Option String :=
  (token.map Text.trim).filter (!·.isEmpty)

/-- Adds assignments one after the other. -/
def assignAll (p : Params) : List String → Except Invalid Params
  | [] => .ok p
  | a :: as => do
    let (k, v) ← parseAssignment a
    assignAll (← p.insert k v) as

def requireSome (e : Invalid) (s : String) : Except Invalid String :=
  let s := Text.trim s
  if s.isEmpty then .error e else .ok s

/-- The entries of the parameters file, if there is one. -/
def fileEntries (t : Files) (file : Option Path) : Except Failure (List (String × String)) :=
  match file with
  | none => .ok []
  | some p => Params.load t p

def checked (r : Except Invalid α) : Except Failure α := r.mapError .validation

/-- The parameters from their three sources: the datasource, the file and the assignments. -/
def resolveParams (t : Files) (s : Settings) : Except Failure Params := do
  let datasource ← checked (requireSome .noDatasource s.datasource)
  let p ← checked (Params.empty.insert datasourceKey datasource)
  let p ← checked (p.insertAll (← fileEntries t s.paramsFile))
  checked (assignAll p s.assignments)

def resolveRoot (t : Files) (root : Path) : Except Failure Path :=
  (t.canonical root).mapError (.io root)

def ofSettings (t : Files) (s : Settings) : Except Failure Config := do
  let root ← resolveRoot t s.root
  let templatesDir ← checked (resolveTemplates root s.templatesDir)
  let server ← checked (resolveServer s.serverUrl)
  let params ← resolveParams t s
  let image ← checked (requireSome .noImage s.image)
  let runtime ← checked (requireSome .noRuntime s.runtime)
  if s.commandSeconds = 0 || s.httpSeconds = 0 then throw (.validation .noTimeLimit)
  return {
    root, templatesDir
    outputDir := root.join (s.outputDir.getD Default.outputDir)
    server
    token := resolveToken s.token
    params, image, runtime
    commandSeconds := s.commandSeconds
    httpSeconds := s.httpSeconds
    stopOnFirstFailure := s.stopOnFirstFailure }

def endpoint (c : Config) : String :=
  let base := (c.server.text.toList.reverse.dropWhile (· = '/')).reverse
  String.ofList base ++ "/api/dashboards/db"

end Config
end Dashboards
