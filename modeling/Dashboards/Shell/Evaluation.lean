import Dashboards.Shell.Builtin

/-!
# Running the commands of a script

* `runSimple`   one command with its assignments, words and redirections;
* `runNode`     a command composed of others;
* `inner`       commands and words tied together, to a depth.
-/

namespace Dashboards
namespace Shell

/-- A command that fails ends the shell, if it has been told so and nobody looks at the status. -/
def checkStatus : Run Unit := do
  let s ← scope
  if s.exitOnFailure && !s.tested && s.status ≠ 0 then throw (.exit s.status)

def traceLine (assigns : List (Octets × Octets)) (fields : List Octets) : Run Unit := do
  if (← scope).trace then
    let words := assigns.map (fun (k, v) => k ++ "=" ++ v) ++ fields
    let _ ← put 2 ("+ " ++ " ".intercalate words ++ "\n")

def assignAll (run : Inner) : List (String × List Part) → Run (List (Octets × Octets))
  | [] => return []
  | (name, word) :: more => do
    let value ← expandText run word
    return (name, value) :: (← assignAll run more)

/-- Runs an action with redirections in force, or fails. -/
def redirecting (run : Inner) (rs : List Redirect) (r : Run Unit) : Run Unit := do
  let handles := (← scope).handles
  let back : Run Unit := modifyScope ({ · with handles })
  try
    if ← redirectAll run rs then r else setStatus 2
    back
  catch e =>
    back
    throw e

def runSimple (run : Inner) (line : Nat) (assigns : List (String × List Part))
    (words : List (List Part)) (rs : List Redirect) : Run Unit := do
  let s ← get
  if s.steps = 0 then throw .late
  set { s with steps := s.steps - 1 }
  modifyScope ({ · with line, outputStatus := none })
  let fields ← fieldsOf run words
  match fields with
  | [] =>
    let values ← assignAll run assigns
    traceLine values []
    for (k, v) in values do modifyScope (·.assign k v)
    let status := (← scope).outputStatus.getD 0
    setStatus status
    unless rs.isEmpty do redirecting run rs (setStatus status)
  | "exec" :: [] =>
    if ← redirectAll run rs then setStatus 0 else throw (.exit 2)
  | "exec" :: name :: args =>
    redirecting run rs (runProgram run "exec: " name args)
    throw (.exit (← scope).status)
  | name :: args =>
    let (functions, name, args) := match name, args with
      | "command", n :: as => (false, n, as)
      | _, _ => (true, name, args)
    let values ← assignAll run assigns
    traceLine values fields
    redirecting run rs do
      if !functions && (name = "-v" || name = "-V") then tellKind run (args.headD "")
      else if isSpecial name then
        for (k, v) in values do modifyScope (·.assign k v)
        dispatch run functions name args
      else
        let old ← scope
        for (k, v) in values do modifyScope fun s => (s.assign k v).export k
        dispatch run functions name args
        unless values.isEmpty do modifyScope (·.restore old (values.map (·.1)))
  checkStatus

/-- Runs the stages one after the other, each reading what the one before has written; the status is
that of the last. -/
def runStages (run : Inner) : List Node → Option Nat → Run Unit
  | [], _ => return
  | n :: ns, input => do
    let output ← if ns.isEmpty then pure none else do pure (some (← newStream ""))
    let status ← keepingScope do
      match input with
      | some i => setHandle 0 (.stream i)
      | none => pure ()
      match output with
      | some i => setHandle 1 (.stream i)
      | none => pure ()
      apart (run.node n)
    setStatus status
    runStages run ns output

/-- The number of turns that a loop takes before it counts as endless. -/
def manyTurns : Nat := 1000000

/-- Runs the body of a loop once. The answer tells whether the loop goes on. -/
def turn (body : Run Unit) : Run Bool := do
  let loops := (← scope).loops
  modifyScope ({ · with loops := loops + 1 })
  let back : Run Unit := modifyScope ({ · with loops })
  try
    body
    back
    return true
  catch e =>
    back
    match e with
    | .breakOut n => if n > 1 then throw (.breakOut (n - 1)) else return false
    | .nextTurn n => if n > 1 then throw (.nextTurn (n - 1)) else return true
    | e => throw e

/-- Asks for the condition and runs the body as long as the answer is the wanted one. -/
def runLoop (run : Inner) (whileTrue : Bool) (condition body : Node) : Run Unit := do
  let mut status := 0
  for _ in [0:manyTurns] do
    let asked ← turn (testing (run.node condition))
    if !asked then
      setStatus 0
      return
    if ((← scope).status = 0) ≠ whileTrue then
      setStatus status
      return
    let goesOn ← turn (run.node body)
    status := (← scope).status
    unless goesOn do
      setStatus 0
      return
  throw .late

def runEach (run : Inner) (name : String) (body : Node) : List Octets → Run Unit
  | [] => return
  | v :: vs => do
    modifyScope (·.assign name v)
    if ← turn (run.node body) then runEach run name body vs else setStatus 0

/-- The first arm that has a fitting pattern. -/
def runSelect (run : Inner) (value : List Char) : List (List (List Part) × Node) → Run Unit
  | [] => setStatus 0
  | (patterns, body) :: arms => do
    if ← anyFits patterns then
      setStatus 0
      run.node body
    else runSelect run value arms
where
  anyFits : List (List Part) → Run Bool
    | [] => return false
    | p :: ps => do
      if (← expandPattern run p).fits value then return true else anyFits ps

def runSequence (run : Inner) : List Node → Run Unit
  | [] => return
  | n :: ns => do
    run.node n
    runSequence run ns

def runNode (run : Inner) : Node → Run Unit
  | .simple line assigns words rs => runSimple run line assigns words rs
  | .redirected line body rs => do
    modifyScope ({ · with line })
    redirecting run rs (run.node body)
  | .sequence ns => runSequence run ns
  | .background body => do
    let shell ← keepingScope do
      setHandle 0 .nowhere
      scope
    modify fun s => { s with jobs := s.jobs ++ [(s.clock, shell, body)] }
    setStatus 0
  | .both a b => do
    testing (run.node a)
    if (← scope).status = 0 then run.node b
  | .either a b => do
    testing (run.node a)
    if (← scope).status ≠ 0 then run.node b
  | .negated body => do
    testing (run.node body)
    setStatus (if (← scope).status = 0 then 1 else 0)
  | .pipeline stages => do
    runStages run stages none
    checkStatus
  | .subshell body => do
    setStatus (← apart (run.node body))
    checkStatus
  | .choice c yes no => do
    testing (run.node c)
    if (← scope).status = 0 then run.node yes
    else
      setStatus 0
      run.node no
  | .loop whileTrue c body => runLoop run whileTrue c body
  | .each name words body => do
    let values ← match words with
      | some ws => fieldsOf run ws
      | none => do pure (← scope).args
    setStatus 0
    runEach run name body values
  | .select word arms => do
    let value ← expandText run word
    runSelect run value.toList arms
  | .define name body => do
    modifyScope fun s => { s with functions := (name, body) :: s.functions.filter (·.1 ≠ name) }
    setStatus 0

/-- Runs nodes and expands words down to a depth; what is deeper breaks the shell. -/
def inner : Nat → Inner
  | 0 => ⟨fun _ => throw (.killed 11), fun _ _ => throw (.killed 11)⟩
  | n + 1 => ⟨fun node => runNode (inner n) node, fun q ps => expandParts (inner n) q ps⟩

/-- How deep commands may stand inside of others. -/
def depth : Nat := 400

end Shell
end Dashboards
