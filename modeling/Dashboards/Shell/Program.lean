import Dashboards.Programs
import Dashboards.Shell.Octets

/-!
# What an executable file holds

A file is executed as a tool of the system or as a script that names its interpreter in the first
line.

* `toolFile`       the contents of a file that is a tool of the system;
* `ownTool`        the tool that stands for the program that has started the first process;
* `load`           the tool that runs when a file is executed, with its name and arguments;
* `findProgram`    the same for a program looked for on a search path.
-/

namespace Dashboards
namespace Shell
open Text (Bytes)

/-- A tool that is about to run, the name it was called by, and its arguments. -/
structure Image where
  tool : String
  name : Octets
  args : List Octets

/-- What a tool of the system starts with; its name follows. -/
def toolMark : Bytes := [0x7f, 0x45, 0x4c, 0x46]

def toolFile (name : String) : Bytes := toolMark ++ Text.utf8 name

/-- The program that has started the first process, as a tool. -/
def ownTool : String := "own"

/-- The interpreter and its argument in the first line of a script. -/
def interpreter? (contents : Bytes) : Option (Octets × Option Octets) :=
  match (Octets.ofBytes (contents.take 256)).toList with
  | '#' :: '!' :: cs =>
    let blank (c : Char) : Bool := c = ' ' || c = '\t'
    let line := (cs.takeWhile (· ≠ '\n')).dropWhile blank
    let program := line.takeWhile (!blank ·)
    let rest := (line.drop program.length).dropWhile blank
    let rest := (rest.reverse.dropWhile blank).reverse
    if program.isEmpty then none
    else some (String.ofList program, if rest.isEmpty then none else some (String.ofList rest))
  | _ => none

def execFormat : Cause := .os 8

/-- What runs when the file is executed; `depth` bounds the interpreters of interpreters. -/
def loadWithin (t : Files) : Nat → Octets → Octets → List Octets → Except Cause Image
  | 0, _, _, _ => .error .linkLoop
  | depth + 1, path, name, args =>
    match t.entry (Octets.toPath path) with
    | .error cause => .error cause
    | .ok (_, .file contents true) =>
      if toolMark.isPrefixOf contents then
        .ok ⟨Text.lossy (contents.drop toolMark.length), name, args⟩
      else match interpreter? contents with
        | some (program, option) =>
          loadWithin t depth program program (option.toList ++ path :: args)
        | none => .error execFormat
    | .ok _ => .error .accessDenied

def load (t : Files) (path name : Octets) (args : List Octets) : Except Cause Image :=
  loadWithin t 5 path name args

/-- Causes for which the search goes on in the next directory. -/
def goesOn (c : Cause) : Bool :=
  [Cause.accessDenied, .noEntry, .notDirectory].contains c

/-- Tries the directories in their order. A file that must not be executed is remembered, in case
nothing better is found. -/
def search (t : Files) (name : Octets) (args : List Octets) :
    List Path → Option Cause → Cause → Except Cause Image
  | [], denied, last => .error (denied.getD last)
  | d :: ds, denied, _ =>
    let path := if d.bytes.isEmpty then name else Octets.ofPath d ++ "/" ++ name
    match load t path name args with
    | .ok image => .ok image
    | .error c =>
      if goesOn c then search t name args ds (if c = .accessDenied then some c else denied) c
      else .error c

/-- A name with a slash is a path; any other is looked for on the search path. -/
def findProgram (t : Files) (searchPath : Octets) (name : Octets) (args : List Octets) :
    Except Cause Image :=
  if name.isEmpty then .error .noEntry
  else if name.contains '/' then load t name name args
  else if name.length > 255 then .error .nameTooLong
  else search t name args (searchDirs (Octets.toBytes searchPath)) none .noEntry

end Shell
end Dashboards
