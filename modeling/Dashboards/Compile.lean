import Dashboards.Session
import Dashboards.Template

/-!
# Compiling templates

* `invocation`    the call of the compiler for a template, with all parameters in order;
* `compile`       makes that call, checks the document it prints and writes it down as it is;
* `compileAll`    compiles one template after the other; no failure keeps the rest from being tried.
-/

namespace Dashboards

/-- A template that was compiled, with the place where its document was written. -/
structure Compiled where
  name : String
  path : Path
  document : Json.Document
deriving DecidableEq

structure CompileFailure where
  template : String
  message : String
deriving DecidableEq

def CompileFailure.text (f : CompileFailure) : String :=
  "failed to compile " ++ f.template ++ ": " ++ f.message

/-- What became of the templates, in their order. -/
structure Outcome where
  compiled : List Compiled := []
  failures : List CompileFailure := []
deriving DecidableEq

def Outcome.attempted (o : Outcome) : Nat := o.compiled.length + o.failures.length

/-- The failure of a run in which templates failed. -/
def compileFailure? (fs : List CompileFailure) : Option Failure :=
  if fs.isEmpty then none
  else some (.compile fs.length (", ".intercalate (fs.map (·.template))))

/-- The directory of the installed libraries, seen from that of the templates. -/
def vendorDir : String := "vendor"

def invocation (t : Toolchain) (template : Template) (params : Params) : Command :=
  let c := (t.tool compiler).withArgs ["-J", vendorDir]
  let c := params.entries.foldl (fun c (k, v) => c.withArgs ["--ext-str", k ++ "=" ++ v]) c
  c.arg (template.path.relativeTo t.templatesDir).shown

/-- The document that a finished compiler has printed, or why there is none. -/
def documentOf (o : Output) : Except String Json.Document :=
  if !o.success then .error o.diagnostic
  else if Text.allBlank o.stdout then .error "compiler produced no output"
  else match Json.Document.read (Text.trim o.stdout) with
    | .error f => .error ("compiler output is not valid JSON: " ++ f.message)
    | .ok d => .ok d

def compile (h : Host σ) (t : Toolchain) (params : Params) (outputDir : Path) (template : Template)
    (s : Session σ) : Except CompileFailure Compiled × Session σ :=
  let failed (message : String) : Except CompileFailure Compiled := .error ⟨template.name, message⟩
  let (c, s) := s.route t (invocation t template params)
  match s.run h c with
  | (.error f, s) => (failed f.message, s)
  | (.ok o, s) =>
    match documentOf o with
    | .error message => (failed message, s)
    | .ok document =>
      let path := outputDir.join (.ofString template.outputName)
      match s.files.write path (Text.utf8 o.stdout) with
      | .error cause => (failed (Failure.io path cause).message, s)
      | .ok files => (.ok ⟨template.name, path, document⟩, { s with files })

/-- Compiles the templates and adds what becomes of them. -/
def compileEach (h : Host σ) (t : Toolchain) (params : Params) (outputDir : Path) :
    List Template → Outcome → Session σ → Outcome × Session σ
  | [], o, s => (o, s)
  | template :: rest, o, s =>
    match compile h t params outputDir template s with
    | (.ok c, s) => compileEach h t params outputDir rest { o with compiled := o.compiled ++ [c] } s
    | (.error f, s) =>
      compileEach h t params outputDir rest { o with failures := o.failures ++ [f] } s

/-- Makes the output directory and compiles all templates. -/
def compileAll (h : Host σ) (t : Toolchain) (params : Params) (outputDir : Path)
    (templates : List Template) (s : Session σ) : Except Failure Outcome × Session σ :=
  match s.files.makeDirs outputDir with
  | (.error cause, files) => (.error (.io outputDir cause), { s with files })
  | (.ok (), files) =>
    let (o, s) := compileEach h t params outputDir templates {} { s with files }
    (.ok o, s)

end Dashboards
