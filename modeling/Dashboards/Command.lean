import Dashboards.Json.Path
import Dashboards.Text.Blank

/-!
# Commands

* `Call`      a program with its arguments and the directory it runs in;
* `Command`   a call together with the one to make when it runs out of time;
* `Output`    what a finished process leaves: two texts, and its status unless a signal ended it;
* `Command.perform`   the call, and the cleanup if it runs out of time.

Arguments are a list and are never put together to a line, except to be looked at.
-/

namespace Dashboards

structure Call where
  program : String
  args : List String := []
  workingDir : Path
deriving DecidableEq

structure Command extends Call where
  /-- The call to make after a timeout, then the one that was meant for a timeout of that, and so
  on. Only the first is ever made. -/
  onTimeout : List Call := []
deriving DecidableEq

namespace Command

def new (program : String) (workingDir : Path) : Command := { program, workingDir }

def arg (c : Command) (a : String) : Command := { c with args := c.args ++ [a] }

def withArgs (c : Command) (as : List String) : Command := { c with args := c.args ++ as }

def cleanupOnTimeout (c k : Command) : Command := { c with onTimeout := k.toCall :: k.onTimeout }

/-- The command that is run after a timeout. -/
def cleanup? (c : Command) : Option Command :=
  match c.onTimeout with
  | [] => none
  | k :: ks => some { k with onTimeout := ks }

/-- The program and its arguments with blanks between, to be read by people. -/
def line (c : Command) : String :=
  c.args.foldl (fun l a => l ++ " " ++ a) c.program

end Command

/-- The members of a call, with those of the cleanup inside. -/
def Call.json (c : Call) : List Call → Except Unwritable Json.Value
  | [] => do
    return .object [("program", .text c.program), ("args", .list (c.args.map .text)),
      ("working_dir", ← c.workingDir.json)]
  | k :: ks => do
    return .object [("program", .text c.program), ("args", .list (c.args.map .text)),
      ("working_dir", ← c.workingDir.json), ("on_timeout", ← k.json ks)]

def Command.json (c : Command) : Except Unwritable Json.Value := c.toCall.json c.onTimeout

structure Output where
  status : Option Int
  stdout : String := ""
  stderr : String := ""
deriving DecidableEq

namespace Output

def success (o : Output) : Bool := o.status = some 0

/-- The error text, else the output, else the status. -/
def diagnostic (o : Output) : String :=
  let err := Text.trim o.stderr
  let out := Text.trim o.stdout
  if !err.isEmpty then err
  else if !out.isEmpty then out
  else match o.status with
    | some n => "exited with status " ++ toString n
    | none => "terminated by signal"

end Output

/-- Runs a command, given a way to make calls. After a timeout the cleanup is called once, and
whatever becomes of it is passed over. -/
def Command.perform (make : Call → τ → Except Failure Output × τ) (c : Command) (t : τ) :
    Except Failure Output × τ :=
  match make c.toCall t with
  | (.error (.timeout p n), t) =>
    match c.cleanup? with
    | some k => (.error (.timeout p n), (make k.toCall t).2)
    | none => (.error (.timeout p n), t)
  | r => r

end Dashboards
