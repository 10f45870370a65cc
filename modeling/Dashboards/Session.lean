import Dashboards.Json.Document
import Dashboards.Toolchain

/-!
# Sessions

A run acts on the world in three ways: it runs commands, sends requests to the server, and reads and
writes files.

* `Host`       what commands and requests lead to; its state is its own affair;
* `Session`    the files, the state of the host, and what has been done so far;
* `Session.run`, `Session.post`, `Session.route`   one command, one request, one call of a tool.
-/

namespace Dashboards

/-- A request to the server, authenticated by the token. -/
structure Request where
  url : String
  token : String
  body : String
deriving DecidableEq

structure Reply where
  status : Nat
  body : String
deriving DecidableEq

structure Host (σ : Type) where
  /-- Runs a command. It may change files. -/
  run : Command → Files → σ → Except Failure Output × Files × σ
  /-- Sends a request; a failure means that no reply was received. -/
  post : Request → σ → Except Failure Reply × σ

structure Session (σ : Type) where
  files : Files
  state : σ
  /-- The number of the process, which is part of the names of its containers. -/
  process : Nat
  containers : Nat := 0
  commands : List Command := []
  requests : List Request := []

namespace Session

def run (h : Host σ) (c : Command) (s : Session σ) : Except Failure Output × Session σ :=
  let (r, files, state) := h.run c s.files s.state
  (r, { s with files, state, commands := s.commands ++ [c] })

def post (h : Host σ) (r : Request) (s : Session σ) : Except Failure Reply × Session σ :=
  let (reply, state) := h.post r s.state
  (reply, { s with state, requests := s.requests ++ [r] })

/-- The name of the next container. No two containers of a process have the same. -/
def containerName (s : Session σ) : String :=
  "dashbuild-" ++ toString s.process ++ "-" ++ toString s.containers

/-- The call of a tool as the toolchain makes it. -/
def route (t : Toolchain) (c : Command) (s : Session σ) : Command × Session σ :=
  match t.mode with
  | .native => (c, s)
  | .containerized _ => (t.route s.containerName c, { s with containers := s.containers + 1 })

end Session

namespace Toolchain

/-- Makes sure that the image is there, building it if need be. -/
def prepare (h : Host σ) (t : Toolchain) (s : Session σ) : Except Failure Unit × Session σ :=
  match t.mode with
  | .native => (.ok (), s)
  | .containerized image =>
    match s.run h (t.inspect image) with
    | (.error f, s) => (.error f, s)
    | (.ok o, s) =>
      if o.success then (.ok (), s)
      else match s.run h (t.build image) with
        | (.error f, s) => (.error f, s)
        | (.ok o, s) =>
          if o.success then (.ok (), s)
          else (.error (.toolchain ("building image " ++ image ++ " failed: " ++ o.diagnostic)), s)

/-- Fetches the libraries that the templates use. -/
def install (h : Host σ) (t : Toolchain) (s : Session σ) : Except Failure Unit × Session σ :=
  let (c, s) := s.route t ((t.tool installer).arg "install")
  match s.run h c with
  | (.error f, s) => (.error f, s)
  | (.ok o, s) => if o.success then (.ok (), s) else (.error (.install o.diagnostic), s)

end Toolchain
end Dashboards
