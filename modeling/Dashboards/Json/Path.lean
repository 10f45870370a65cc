import Dashboards.Failure
import Dashboards.Json.Value

/-!
# Paths in JSON

A path is written as a text; one that is no UTF-8 has no written form.
-/

namespace Dashboards

def Path.json (p : Path) : Except Unwritable Json.Value :=
  match p.text? with
  | some s => .ok (.text s)
  | none => .error .notText

end Dashboards
