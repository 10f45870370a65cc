import Dashboards.Report

/-!
# A whole run

The templates are found, the tools are made ready, the libraries installed, all templates compiled,
and the documents sent if there is a token. A failure up to the output directory ends the run at
once; what fails later is kept in the report.
-/

namespace Dashboards

/-- Sends the dashboards if there is a token. -/
def publishPhase (h : Host σ) (c : Config) (compiled : List Compiled) (s : Session σ) :
    PublishPhase × Session σ :=
  match c.token with
  | none => (.skipped, s)
  | some token =>
    let (rs, s) := publishAll h c.endpoint token c.stopOnFirstFailure compiled s
    (.attempted rs, s)

/-- A run with a toolchain and the templates that have been found. -/
def runWith (h : Host σ) (c : Config) (t : Toolchain) (templates : List Template) (s : Session σ) :
    Except Failure Report × Session σ :=
  match t.prepare h s with
  | (.error f, s) => (.error f, s)
  | (.ok (), s) =>
    match t.install h s with
    | (.error f, s) => (.error f, s)
    | (.ok (), s) =>
      match compileAll h t c.params c.outputDir templates s with
      | (.error f, s) => (.error f, s)
      | (.ok o, s) =>
        let (publish, s) := publishPhase h c o.compiled s
        (.ok ⟨t.mode, templates.length, o.compiled, o.failures, publish⟩, s)

/-- A run; `present` tells which programs there are on the host. -/
def runAll (h : Host σ) (c : Config) (present : String → Bool) (s : Session σ) :
    Except Failure Report × Session σ :=
  match discover s.files c.templatesDir with
  | .error f => (.error f, s)
  | .ok templates => runWith h c (.detect c present) templates s

end Dashboards
