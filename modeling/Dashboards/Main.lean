import Dashboards.Cli

/-!
# The program

Loads the files below the working directory, does what the arguments and the environment ask for,
and writes back what has changed. Whether a file may be run is not known here; one that names its
interpreter in the first line counts as a program.
-/

namespace Dashboards
namespace Program
open Text (Bytes)

/-- How deep directories are looked into. -/
def depth : Nat := 40

def fileEntry (bs : Bytes) : Entry := .file bs (bs.take 2 = Text.utf8 "#!")

/-- What is found in a directory that stands at a location, and below it. -/
def load : Nat → Location → Array IO.FS.DirEntry → IO (List (Location × Entry))
  | 0, _, _ => return []
  | n + 1, l, listed => do
    let mut found := []
    for e in listed do
      let m := l ++ [Text.utf8 e.fileName]
      if ← e.path.isDir then
        found := found ++ (m, Entry.directory) :: (← load n m (← e.path.readDir))
      else
        found := found ++ [(m, fileEntry (← IO.FS.readBinFile e.path).toList)]
    return found

/-- The directories on the way to a location. -/
def ancestors (l : Location) : List (Location × Entry) :=
  (List.range l.length).map fun n => (l.take (n + 1), .directory)

/-- The variables that count. -/
def names : List String := "PATH" :: Cli.Opt.ofRun.filterMap (·.environment)

def environment : IO (List (String × String)) := do
  let mut found := []
  for name in names do
    if let some value ← IO.getEnv name then found := found ++ [(name, value)]
  return found

/-- Makes what is new or has changed. -/
def save (old new : Files) : IO Unit := do
  for (l, e) in new.entries do
    if old.get? l ≠ some e then
      match e with
      | .directory => IO.FS.createDirAll l.path.shown
      | .file bs _ => IO.FS.writeBinFile l.path.shown ⟨bs.toArray⟩
      | .link _ | .special => pure ()

/-- The number by which the program tells its containers from those of others. -/
def process : IO Nat := do return (← IO.monoNanosNow) / 1000000

end Program
end Dashboards

open Dashboards in
def main (args : List String) : IO UInt32 := do
  let dir ← IO.currentDir
  let here : Location := (Path.segments (Text.utf8 dir.toString)).filter (!Path.isIdle ·)
  let below ← Program.load Program.depth here (← dir.readDir)
  let files := Files.ofEntries (systemFiles ++ Program.ancestors here ++ below) here
  let (ending, new) := Cli.execute args (← Program.environment) (← Program.process) files
  Program.save files new
  (← IO.getStdout).putStr ending.stdout
  (← IO.getStderr).putStr ending.stderr
  return ending.exit.toUInt32
