import Dashboards.Publish

/-!
# The report of a run

* `Report`            what became of the templates and of the dashboards that were sent;
* `Report.result`     the report itself, or the failure that the run ends with;
* `Report.json`, `Report.save`   its written form.
-/

namespace Dashboards

inductive PublishPhase where
  /-- There was no token, and nothing was sent. -/
  | skipped
  | attempted (results : List PublishResult)
deriving DecidableEq

namespace PublishPhase

def results : PublishPhase → List PublishResult
  | .skipped => []
  | .attempted rs => rs

def json : PublishPhase → Json.Value
  | .skipped => .object [("state", .text "skipped")]
  | .attempted rs => .object [("state", .text "attempted"), ("results", .list (rs.map (·.json)))]

end PublishPhase

structure Report where
  mode : Mode
  /-- How many templates there were. -/
  templates : Nat
  compiled : List Compiled
  failures : List CompileFailure
  publish : PublishPhase
deriving DecidableEq

def Compiled.json (c : Compiled) : Except Unwritable Json.Value := do
  return .object [("name", .text c.name), ("path", ← c.path.json)]

def CompileFailure.json (f : CompileFailure) : Json.Value :=
  .object [("template", .text f.template), ("message", .text f.message)]

def Outcome.json (o : Outcome) : Except Unwritable Json.Value := do
  return .object [("compiled", .list (← o.compiled.mapM Compiled.json)),
    ("failures", .list (o.failures.map (·.json)))]

namespace Report

/-- How many dashboards the server accepted. -/
def published (r : Report) : Nat := (r.publish.results.filter (·.success)).length

def firstPublishFailure? (r : Report) : Option PublishResult :=
  r.publish.results.find? (!·.success)

def isSuccess (r : Report) : Bool := r.failures.isEmpty && r.firstPublishFailure?.isNone

def summary (r : Report) : String :=
  let compiled := "compiled " ++ toString r.compiled.length ++ "/" ++ toString r.templates
    ++ " dashboards"
  match r.publish with
  | .skipped => compiled ++ ", publish skipped: no token configured"
  | .attempted _ => compiled ++ ", published " ++ toString r.published

/-- Failed templates come before failed dashboards. -/
def result (r : Report) : Except Failure Report :=
  match compileFailure? r.failures with
  | some f => .error f
  | none =>
    match r.firstPublishFailure?.bind (·.failure?) with
    | some f => .error f
    | none => .ok r

def json (r : Report) : Except Unwritable Json.Value := do
  return .object [("mode", r.mode.json), ("templates", .nat r.templates),
    ("compiled", .list (← r.compiled.mapM Compiled.json)),
    ("compile_failures", .list (r.failures.map (·.json))), ("publish", r.publish.json)]

/-- Writes the report to a file, making the directories above it. A report without a written form
leaves the files alone. -/
def save (r : Report) (p : Path) (t : Files) : Except Failure Unit × Files :=
  match r.json with
  | .error e => (.error (.serialize e), t)
  | .ok v =>
    let parent := (p.parent?.filter (!·.bytes.isEmpty))
    let made : Except Failure Unit × Files := match parent with
      | none => (.ok (), t)
      | some up =>
        match t.makeDirs up with
        | (.error cause, t) => (.error (.io up cause), t)
        | (.ok (), t) => (.ok (), t)
    match made with
    | (.error f, t) => (.error f, t)
    | (.ok (), t) =>
      match t.write p (Text.utf8 v.pretty) with
      | .error cause => (.error (.io p cause), t)
      | .ok t => (.ok (), t)

end Report
end Dashboards
