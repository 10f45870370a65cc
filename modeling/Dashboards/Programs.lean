import Dashboards.Files

/-!
# Programs on the search path

A program given by a bare name is looked for in the directories of the search path; one with more
parts is looked for from the working directory.
-/

namespace Dashboards
open Text (Bytes)

/-- The directories between the colons of a search path. -/
def searchDirs (bs : Bytes) : List Path :=
  match bs with
  | [] => [⟨[]⟩]
  | b :: bs =>
    if b = 58 then ⟨[]⟩ :: searchDirs bs
    else match searchDirs bs with
      | [] => [⟨[b]⟩]
      | d :: ds => ⟨b :: d.bytes⟩ :: ds

namespace Files

/-- A regular file, or a link to one, that may be run. -/
def isProgram (t : Files) (p : Path) : Bool :=
  match t.entry p with
  | .ok (_, .file _ executable) => executable
  | _ => false

/-- The program can be found. -/
def hasProgram (t : Files) (search : Path) (program : Path) : Bool :=
  if program.parts.length > 1 then t.isProgram (t.cwd.path.join program)
  else (searchDirs search.bytes).any fun d => t.isProgram (d.join program)

end Files
end Dashboards
