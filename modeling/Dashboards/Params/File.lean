import Dashboards.Files
import Dashboards.Params.Document

/-!
# Parameters from a file
-/

namespace Dashboards

/-- The parameters of the file at a path, ascending by key. -/
def Params.load (t : Files) (p : Path) : Except Failure (List (String × String)) :=
  match t.readText p with
  | .error c => .error (.io p c)
  | .ok s =>
    match Params.ofText s with
    | .error f => .error (.parse f)
    | .ok entries => .ok entries

end Dashboards
