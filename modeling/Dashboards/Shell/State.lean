import Dashboards.Shell.Pattern
import Dashboards.Shell.Script
import Dashboards.Shell.Tool

/-!
# The state of running scripts

* `Scope`    what belongs to one shell: its arguments, variables, functions and descriptors;
* `State`    the files, the streams between processes and the clock, with the scope of the shell
             that is running;
* `Run`      an action on the state, which may stop for one of the reasons in `Stop`.
-/

namespace Dashboards
namespace Shell

/-- What a descriptor leads to. -/
inductive Handle where
  | nowhere
  | stream (index : Nat)
  /-- The end of a file. -/
  | file (l : Location)
deriving DecidableEq

structure Variable where
  value : Octets
  exported : Bool := false

structure Scope where
  /-- The name that the shell was called by. -/
  name : Octets
  args : List Octets := []
  vars : List (Octets × Variable) := []
  functions : List (String × Node) := []
  handles : List (Nat × Handle) := []
  cwd : Location
  process : Nat
  /-- The process that has started this one. -/
  parent : Nat := 0
  line : Nat := 1
  /-- The status of the last command. -/
  status : Nat := 0
  /-- The status of the last script whose output was asked for. -/
  outputStatus : Option Nat := none
  exitOnFailure : Bool := false
  refuseUnset : Bool := false
  trace : Bool := false
  noMatching : Bool := false
  /-- The status of the running command is going to be looked at. -/
  tested : Bool := false
  /-- How many loops the running command stands in. -/
  loops : Nat := 0
  traps : List (String × Octets) := []
  /-- The variables that the running function keeps to itself. -/
  locals : Option (List Octets) := none

structure State where
  files : Files
  /-- What has been written to each stream and not yet read. -/
  streams : Array Octets := #[]
  /-- Thousandths of a second since the start. -/
  clock : Nat := 0
  /-- When the time is up. -/
  limit : Nat
  /-- Commands in the background, with the time they start and the shell they belong to. -/
  jobs : List (Nat × Scope × Node) := []
  /-- When the last of them ends. -/
  background : Nat := 0
  /-- How many commands may still be started. -/
  steps : Nat
  /-- How many processes there have been. -/
  processes : Nat := 0
  /-- The program that has started the first process, if it can be started again. -/
  own : Option (Tool.Call → Tool.Result) := none
  scope : Scope

/-- Why a shell does not go on with its next command. -/
inductive Stop where
  | exit (status : Nat)
  | killed (signal : Nat)
  /-- The time is up. -/
  | late
  | breakOut (levels : Nat)
  | nextTurn (levels : Nat)
  | returned (status : Nat)

abbrev Run := ExceptT Stop (StateM State)

def scope : Run Scope := do return (← get).scope

def modifyScope (f : Scope → Scope) : Run Unit := modify fun s => { s with scope := f s.scope }

def setStatus (n : Nat) : Run Unit := modifyScope ({ · with status := n })

/-- The files as the running shell sees them. -/
def currentFiles : Run Files := do
  let s ← get
  return { s.files with cwd := s.scope.cwd }

def setFiles (t : Files) : Run Unit := modify ({ · with files := t })

/-- Lets time pass. -/
def wait (time : Nat) : Run Unit := do
  let s ← get
  set { s with clock := s.clock + time }
  if s.clock + time ≥ s.limit && time > 0 then throw .late

/-! ### variables -/

def Scope.value? (s : Scope) (name : Octets) : Option Octets :=
  (s.vars.lookup name).map (·.value)

def Scope.assign (s : Scope) (name value : Octets) : Scope :=
  match s.vars.lookup name with
  | some _ =>
    { s with vars := s.vars.map fun (k, v) =>
        if k = name then (k, { v with value }) else (k, v) }
  | none => { s with vars := s.vars ++ [(name, { value })] }

def Scope.export (s : Scope) (name : Octets) : Scope :=
  let s := if (s.value? name).isNone then s.assign name "" else s
  { s with vars := s.vars.map fun (k, v) =>
      if k = name then (k, { v with exported := true }) else (k, v) }

/-- Gives variables back the values that they have in another scope. -/
def Scope.restore (s : Scope) (old : Scope) (names : List Octets) : Scope :=
  { s with vars := s.vars.filter (!names.contains ·.1)
      ++ old.vars.filter (names.contains ·.1) }

def Scope.unset (s : Scope) (name : Octets) : Scope :=
  { s with vars := s.vars.filter (·.1 ≠ name) }

/-- The variables that a program gets. -/
def Scope.environment (s : Scope) : List (Octets × Octets) :=
  s.vars.filterMap fun (k, v) => if v.exported then some (k, v.value) else none

/-- The place of a name in the table that a shell keeps its variables in. -/
def tableIndex (name : Octets) : Nat :=
  (16 * (name.toList.headD '\x00').toNat + name.toList.foldl (fun n c => n + c.toNat) 0) % 39

/-- The variables in the order in which a shell hands them on. -/
def inTableOrder (es : List (Octets × Octets)) : List (Octets × Octets) :=
  es.mergeSort fun a b => tableIndex a.1 ≤ tableIndex b.1

/-! ### streams and files -/

def newStream (text : Octets) : Run Nat := do
  let s ← get
  set { s with streams := s.streams.push text }
  return s.streams.size

def setHandle (fd : Nat) (h : Handle) : Run Unit :=
  modifyScope fun s => { s with handles := (fd, h) :: s.handles.filter (·.1 ≠ fd) }

def closeHandle (fd : Nat) : Run Unit :=
  modifyScope fun s => { s with handles := s.handles.filter (·.1 ≠ fd) }

/-- Writes to a descriptor; tells whether it is open. -/
def put (fd : Nat) (text : Octets) : Run Bool := do
  let s ← get
  match s.scope.handles.lookup fd with
  | none => return false
  | some .nowhere => return true
  | some (.stream i) =>
    modify fun s => { s with streams := s.streams.modify i (· ++ text) }
    return true
  | some (.file l) =>
    match s.files.get? l with
    | some (.file old x) =>
      setFiles (s.files.put l (.file (old ++ Octets.toBytes text) x))
      return true
    | _ => return true

/-- What can be read from a descriptor. -/
def pending (fd : Nat) : Run Octets := do
  let s ← get
  match s.scope.handles.lookup fd with
  | some (.stream i) => return s.streams.getD i ""
  | _ => return ""

/-- Leaves the given text to be read. -/
def leave (fd : Nat) (text : Octets) : Run Unit := do
  match (← scope).handles.lookup fd with
  | some (.stream i) => modify fun s => { s with streams := s.streams.setIfInBounds i text }
  | _ => pure ()

/-- Tells what went wrong, with the name of the shell and the line. -/
def complain (text : Octets) : Run Unit := do
  let s ← scope
  let _ ← put 2 (s.name ++ ": " ++ toString s.line ++ ": " ++ text ++ "\n")

/-- Runs an action and puts the scope back as it was. -/
def keepingScope (r : Run α) : Run α := do
  let s ← scope
  try
    let a ← r
    modifyScope fun _ => s
    return a
  catch e =>
    modifyScope fun _ => s
    throw e

/-- Runs an action in a copy of the shell and gives its status. -/
def apart (r : Run Unit) : Run Nat :=
  keepingScope do
    try
      r
      return (← scope).status
    catch
      | .exit n => return n
      | .returned n => return n
      | .breakOut _ => return (← scope).status
      | .nextTurn _ => return (← scope).status
      | .killed n => throw (.killed n)
      | .late => throw .late

/-- Runs an action while its status is going to be looked at. -/
def testing (r : Run Unit) : Run Unit := do
  let tested := (← scope).tested
  modifyScope ({ · with tested := true })
  try
    r
    modifyScope ({ · with tested })
  catch e =>
    modifyScope ({ · with tested })
    throw e

/-- Runs an action and gives what it writes. -/
def captured (r : Run Unit) : Run (Octets × Nat) := do
  let i ← newStream ""
  let status ← keepingScope do
    setHandle 1 (.stream i)
    apart r
  return ((← get).streams.getD i "", status)

end Shell
end Dashboards
