import Dashboards.Session

/-!
# Sessions that follow a script

A scripted host answers commands and requests from two lists, in order, and leaves files alone. When
a list is used up, commands succeed without output and requests are accepted.
-/

namespace Dashboards

structure Script where
  outputs : List (Except Failure Output) := []
  replies : List (Except Failure Reply) := []

namespace Script

def nextOutput (s : Script) : Except Failure Output × Script :=
  match s.outputs with
  | [] => (.ok { status := some 0 }, s)
  | o :: os => (o, { s with outputs := os })

def nextReply (s : Script) : Except Failure Reply × Script :=
  match s.replies with
  | [] => (.ok ⟨200, ""⟩, s)
  | r :: rs => (r, { s with replies := rs })

def host : Host Script where
  run _ files s := let (o, s) := s.nextOutput; (o, files, s)
  post _ s := s.nextReply

end Script
end Dashboards
