import Dashboards.Path

/-!
# Settings

The values that an operator gives, each with the one that stands when none is given.
-/

namespace Dashboards

namespace Default

def root : Path := .ofString "."

def templatesDir : Path := .ofString "dashboards"

def outputDir : Path := .ofString "build"

def serverUrl : String := "http://localhost:3000"

def datasource : String := "prometheus"

def image : String := "dashbuild-jsonnet:latest"

def runtime : String := "docker"

def commandSeconds : Nat := 300

def httpSeconds : Nat := 30

end Default

structure Settings where
  root : Path := Default.root
  templatesDir : Path := Default.templatesDir
  outputDir : Option Path := none
  serverUrl : String := Default.serverUrl
  token : Option String := none
  datasource : String := Default.datasource
  image : String := Default.image
  runtime : String := Default.runtime
  /-- Assignments `KEY=VALUE`. -/
  assignments : List String := []
  paramsFile : Option Path := none
  commandSeconds : Nat := Default.commandSeconds
  httpSeconds : Nat := Default.httpSeconds
  stopOnFirstFailure : Bool := true
deriving DecidableEq

end Dashboards
