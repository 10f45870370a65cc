import Dashboards.Shell.Condition
import Dashboards.Shell.Format
import Dashboards.Shell.Process

/-!
# Commands of the shell itself

* `builtin?`    the commands by their names;
* `dispatch`    what a name stands for: a function, a command of the shell or a program;
* `settle`      the commands in the background are run.
-/

namespace Dashboards
namespace Shell

/-- An exit status is a number below 256. -/
def statusArg (command : String) (as : List Octets) : Run Nat := do
  match as with
  | [] => return (← scope).status
  | a :: _ =>
    match Octets.number? a with
    | some n => return n % 256
    | none => fatal (command ++ ": Illegal number: " ++ a)

def say (text : Octets) (status : Nat) : Run Unit := do
  complain text
  setStatus status

/-- Writes what a command of the shell prints. -/
def print (command : String) (text : Octets) : Run Unit := do
  if text.isEmpty then setStatus 0
  else if ← put 1 text then setStatus 0
  else say (command ++ ": " ++ command ++ ": I/O error") 1

def echoCommand (as : List Octets) : Run Unit := do
  let (newline, as) := match as with
    | "-n" :: as => (false, as)
    | _ => (true, as)
  let (text, stopped) := unescape (" ".intercalate as)
  print "echo" (text ++ if newline && !stopped then "\n" else "")

def printfFault : Format.Fault → Octets
  | .notNumber t => "printf: " ++ t ++ ": expected numeric value"
  | .notAllNumber t => "printf: " ++ t ++ ": not completely converted"
  | .badDirective t => "printf: " ++ t ++ ": invalid directive"

def printfCommand (as : List Octets) : Run Unit := do
  match as with
  | "--" :: format :: args => fill format args
  | format :: args => fill format args
  | [] => say "printf: usage: printf format [arg ...]" 2
where
  fill (format : Octets) (args : List Octets) : Run Unit := do
    let (out, faults) := Format.print format args
    print "printf" out
    for f in faults do complain (printfFault f)
    unless faults.isEmpty do setStatus 1

def testCommand (name : String) (as : List Octets) : Run Unit := do
  let asked := if name = "[" then
      match as.reverse with
      | "]" :: rest => some rest.reverse
      | _ => none
    else some as
  match asked with
  | none => say "[: missing ]" 2
  | some as =>
    match Condition.eval (← currentFiles) as with
    | .ok b => setStatus (if b then 0 else 1)
    | .error f => say (name ++ ": " ++ f.message) 2

/-- The fields of a line for a number of names; the last name gets what is left. -/
def lineFields (seps : List Char) (names : Nat) (line : List Char) : List Octets :=
  let blank (c : Char) : Bool := seps.contains c && (c = ' ' || c = '\t' || c = '\n')
  match names with
  | 0 => []
  | 1 =>
    let cs := line.dropWhile blank
    [String.ofList (cs.reverse.dropWhile blank).reverse]
  | n + 2 =>
    let cs := line.dropWhile blank
    let w := cs.takeWhile (!seps.contains ·)
    let rest := (cs.drop w.length).dropWhile blank
    let rest := match rest with
      | c :: more => if seps.contains c then more else rest
      | [] => []
    String.ofList w :: lineFields seps (n + 1) rest

/-- A line without its escapes; an escaped end of line joins it with the next. -/
def unescapeLine : List Char → List Char × List Char × Bool
  | [] => ([], [], false)
  | '\n' :: rest => ([], rest, true)
  | '\\' :: '\n' :: rest => unescapeLine rest
  | '\\' :: c :: rest => let (l, r, e) := unescapeLine rest; (c :: l, r, e)
  | c :: rest => let (l, r, e) := unescapeLine rest; (c :: l, r, e)

def readCommand (as : List Octets) : Run Unit := do
  let (rawLine, names) := match as with
    | "-r" :: as => (true, as)
    | _ => (false, as)
  if names.isEmpty then fatal "read: arg count"
  let text := (← pending 0).toList
  let (line, rest, ended) := if rawLine then
      let l := text.takeWhile (· ≠ '\n')
      (l, (text.drop l.length).drop 1, decide (l.length < text.length))
    else unescapeLine text
  leave 0 (String.ofList rest)
  let values := lineFields (← separators) names.length line
  for (name, value) in names.zip values do modifyScope (·.assign name value)
  setStatus (if ended then 0 else 1)

/-- Goes to a directory, the one before for a hyphen. -/
def changeDir (as : List Octets) : Run Unit := do
  let s ← scope
  let as := match as with
    | "--" :: as => as
    | "-P" :: as => as
    | "-L" :: as => as
    | _ => as
  let target := match as with
    | [] => s.value? "HOME"
    | "-" :: _ => s.value? "OLDPWD"
    | a :: _ => some a
  match target with
  | none => setStatus 0
  | some dir =>
    match (← currentFiles).entry (Octets.toPath dir) with
    | .ok (l, .directory) =>
      let old := Octets.ofPath s.cwd.path
      modifyScope fun s =>
        ({ s with cwd := l }.assign "OLDPWD" old).assign "PWD" (Octets.ofPath l.path)
      if as.head? = some "-" then print "cd" (Octets.ofPath l.path ++ "\n")
      else setStatus 0
    | _ => say ("cd: can't cd to " ++ dir) 2

def setCommand (as : List Octets) : Run Unit := do
  match as with
  | [] =>
    let vs := ((← scope).vars.map fun (k, v) => k ++ "='" ++ v.value ++ "'").mergeSort (· ≤ ·)
    print "set" (Tool.lines vs)
  | as => flags as
where
  flags : List Octets → Run Unit
    | [] => setStatus 0
    | a :: as => do
      if a = "--" then
        modifyScope ({ · with args := as })
        setStatus 0
      else
        match a.toList with
        | '-' :: c :: cs =>
          switch true (c :: cs)
          flags as
        | '+' :: c :: cs =>
          switch false (c :: cs)
          flags as
        | _ =>
          modifyScope ({ · with args := a :: as })
          setStatus 0
  switch (on : Bool) (cs : List Char) : Run Unit :=
    modifyScope fun s => { s with
      exitOnFailure := if cs.contains 'e' then on else s.exitOnFailure
      refuseUnset := if cs.contains 'u' then on else s.refuseUnset
      trace := if cs.contains 'x' then on else s.trace
      noMatching := if cs.contains 'f' then on else s.noMatching }

def shiftCommand (as : List Octets) : Run Unit := do
  let n := (as.head?.bind Octets.number?).getD 1
  let s ← scope
  if n > s.args.length then fatal "shift: can't shift that many"
  modifyScope ({ · with args := s.args.drop n })
  setStatus 0

/-- Assigns what stands behind the sign of equality, if any does. -/
def declare (change : Scope → Octets → Scope) (as : List Octets) : Run Unit := do
  for a in as do
    let name := String.ofList (a.toList.takeWhile (· ≠ '='))
    if name.length < a.length then
      modifyScope (·.assign name (a.drop (name.length + 1)).toString)
    modifyScope (change · name)
  setStatus 0

def trapCommand (as : List Octets) : Run Unit := do
  let as := match as with
    | "--" :: as => as
    | _ => as
  match as with
  | [] => setStatus 0
  | action :: names =>
    let (action, names) := if names.isEmpty then ("-", [action]) else (action, names)
    for name in names do
      match signalNumber? name with
      | none => say ("trap: " ++ name ++ ": bad trap") 1
      | some n =>
        modifyScope fun s =>
          let others := s.traps.filter (·.1 ≠ toString n)
          { s with traps := if action = "-" then others else (toString n, action) :: others
                   status := 0 }

def killCommand (run : Inner) (as : List Octets) : Run Unit := do
  let (signal, targets) := match as with
    | "-s" :: name :: more => (signalNumber? name, more)
    | "--" :: more => (some 15, more)
    | a :: more =>
      match a.toList with
      | '-' :: cs => (signalNumber? (String.ofList cs), more)
      | _ => (some 15, a :: more)
    | [] => (some 15, [])
  match signal with
  | none => fatal "kill: invalid signal number or name"
  | some n =>
    if targets.isEmpty then
      fatal ("kill: Usage: kill [-s sigspec | -signum | -sigspec] [pid | job]... or\n"
        ++ "kill -l [exitstatus]")
    setStatus 0
    for target in targets do
      if Octets.number? target = some (← scope).process then receive run n
      else say "kill: No such process" 1

/-- Outside of loops there is nothing to leave. -/
def leaveLoops (stop : Nat → Stop) (as : List Octets) : Run Unit := do
  let n := (as.head?.bind Octets.number?).getD 1
  let loops := (← scope).loops
  if loops = 0 then setStatus 0 else throw (stop (min n loops))

/-- Runs the commands that have been put in the background, each from the time it was started. -/
def settle (run : Inner) : Run Unit := do
  let s ← get
  set { s with jobs := [] }
  let now := s.clock
  let mine ← scope
  for (start, shell, body) in s.jobs do
    modify fun s => { s with clock := start, scope := shell }
    let _ ← apart (run.node body)
    modify fun s => { s with background := max s.background s.clock }
  modify fun s => { s with clock := now, scope := mine }

/-- The commands of the shell, apart from those that are handled where redirections are. -/
def builtin? (run : Inner) (name : String) : Option (List Octets → Run Unit) :=
  match name with
  | ":" => some fun _ => setStatus 0
  | "true" => some fun _ => setStatus 0
  | "false" => some fun _ => setStatus 1
  | "echo" => some echoCommand
  | "printf" => some printfCommand
  | "test" => some (testCommand "test")
  | "[" => some (testCommand "[")
  | "read" => some readCommand
  | "cd" => some changeDir
  | "pwd" => some fun _ => do print "pwd" (Octets.ofPath (← scope).cwd.path ++ "\n")
  | "set" => some setCommand
  | "shift" => some shiftCommand
  | "export" => some (declare Scope.export)
  | "readonly" => some (declare fun s _ => s)
  | "local" => some fun as => do
    match (← scope).locals with
    | none => fatal "local: not in a function"
    | some names =>
      let more := as.map fun a => String.ofList (a.toList.takeWhile (· ≠ '='))
      modifyScope ({ · with locals := some (names ++ more) })
      declare (fun s _ => s) as
  | "unset" => some fun as => do
    for a in as.filter (!·.startsWith "-") do
      modifyScope fun s =>
        if as.head? = some "-f" then { s with functions := s.functions.filter (·.1 ≠ a) }
        else s.unset a
    setStatus 0
  | "exit" => some fun as => do throw (.exit (← statusArg "exit" as))
  | "return" => some fun as => do throw (.returned (← statusArg "return" as))
  | "break" => some (leaveLoops .breakOut)
  | "continue" => some (leaveLoops .nextTurn)
  | "eval" => some fun as => do
    setStatus 0
    runText run (" ".intercalate as)
  | "." => some fun as => do
    let file := as.headD ""
    match (← currentFiles).read (Octets.toPath file) with
    | .ok contents =>
      setStatus 0
      runText run (Octets.ofBytes contents)
    | .error c =>
      fatal (".: " ++ if file.contains '/' then openFault false file c else file ++ ": not found")
  | "trap" => some trapCommand
  | "kill" => some (killCommand run)
  | "wait" => some fun _ => do
    settle run
    let s ← get
    wait (s.background - s.clock)
    setStatus 0
  | "umask" => some fun as => if as.isEmpty then print "umask" "0022\n" else setStatus 0
  | _ => none

/-- Commands that assign variables for good. -/
def isSpecial (name : String) : Bool :=
  [":", ".", "break", "continue", "eval", "exec", "exit", "export", "readonly", "return", "set",
    "shift", "trap", "unset"].contains name

/-- The function, the command of the shell or the program of that name. -/
def dispatch (run : Inner) (functions : Bool) (name : Octets) (args : List Octets) : Run Unit := do
  let known := (← scope).functions
  match if functions then known.lookup name else none with
  | some body =>
    let s ← scope
    modifyScope ({ · with args, loops := 0, locals := some [] })
    let back : Run Unit := modifyScope fun t =>
      { t.restore s (t.locals.getD []) with args := s.args, loops := s.loops, locals := s.locals }
    try
      run.node body
      back
    catch
      | .returned n => back; setStatus n
      | e => back; throw e
  | none =>
    match builtin? run name with
    | some f => f args
    | none => runProgram run "" name args

/-- How `command -v` tells what a name stands for. -/
def tellKind (run : Inner) (name : Octets) : Run Unit := do
  let s ← scope
  if (builtin? run name).isSome || (s.functions.lookup name).isSome || reserved.contains name then
    print "command" (name ++ "\n")
  else
    let t ← currentFiles
    let dirs := searchDirs (Octets.toBytes ((s.value? "PATH").getD ""))
    let found := if name.contains '/' then some (Octets.toPath name) else
      (dirs.map fun d => d.join (Octets.toPath name)).find? t.isProgram
    match found with
    | some p => if t.isProgram p then print "command" (Octets.ofPath p ++ "\n") else setStatus 127
    | none => setStatus 127

end Shell
end Dashboards
