import Dashboards.Shell.Condition
import Dashboards.Shell.Format

/-!
# Tools of the system

Programs that scripts call. A tool is a function of its arguments, the environment, the files and
its input; it ends with a status after some time.

* `Tool.Call`, `Tool.Result`   what a tool gets and gives;
* `Tool.named?`                the tools by their names.
-/

namespace Dashboards
namespace Shell
open Text (Bytes)

namespace Tool

structure Call where
  args : List Octets
  environment : List (Octets × Octets)
  /-- The number of the process that the tool runs in. -/
  process : Nat
  files : Files
  input : Octets

structure Result where
  status : Nat := 0
  out : Octets := ""
  err : Octets := ""
  files : Files
  /-- The input that is left. -/
  input : Octets
  /-- How long the tool takes, in thousandths of a second. -/
  time : Nat := 0
  /-- The tool goes on for as long as somebody reads. -/
  endless : Bool := false

namespace Call

def done (c : Call) (status : Nat) : Result := { status, files := c.files, input := c.input }

def print (c : Call) (out : Octets) : Result := { c.done 0 with out }

def refuse (c : Call) (status : Nat) (err : Octets) : Result := { c.done status with err }

end Call

def lines (ls : List Octets) : Octets := String.join (ls.map (· ++ "\n"))

/-- The lines of a text; a last one without an end counts too. -/
def linesOf (s : Octets) : List Octets :=
  match (s.splitOn "\n").reverse with
  | "" :: ls => ls.reverse
  | ls => ls.reverse

def hint (tool : String) : Octets := "Try '" ++ tool ++ " --help' for more information.\n"

/-- Options are arguments that start with a hyphen, up to the first that does not or to `--`. -/
def options : List Octets → List Octets × List Octets
  | [] => ([], [])
  | a :: as =>
    if a = "--" then ([], as)
    else if a.length > 1 && a.front = '-' then
      let (os, rest) := options as
      (a :: os, rest)
    else ([], a :: as)

/-- One of the options has this letter. -/
def has (os : List Octets) (letter : Char) : Bool :=
  os.any fun o => o.toList.tail.contains letter && !o.startsWith "--"

def quoted (s : Octets) : Octets := "'" ++ s ++ "'"

/-! ### texts -/

/-- The options of `echo`: letters that switch the last line end off and escapes on and off. -/
def echoOptions : Bool → Bool → List Octets → Bool × Bool × List Octets
  | newline, escapes, [] => (newline, escapes, [])
  | newline, escapes, a :: as =>
    match a.toList with
    | '-' :: c :: cs =>
      if (c :: cs).all fun d => d = 'n' || d = 'e' || d = 'E' then
        let escapes := match (c :: cs).reverse.find? (· ≠ 'n') with
          | some d => d = 'e'
          | none => escapes
        echoOptions (newline && !(c :: cs).contains 'n') escapes as
      else (newline, escapes, a :: as)
    | _ => (newline, escapes, a :: as)

def echo (c : Call) : Result :=
  let (newline, escapes, as) := echoOptions true false c.args
  let text := " ".intercalate as
  let (text, stopped) := if escapes then unescape text else (text, false)
  c.print (text ++ if newline && !stopped then "\n" else "")

/-- The number of lines of a tool that never stops on its own. -/
def manyLines : Nat := 65536

def yes (c : Call) : Result :=
  let line := if c.args.isEmpty then "y" else " ".intercalate c.args
  { c.print (lines (List.replicate manyLines line)) with endless := true }

/-- Two operands and what stands between them; a null answer is a failure. -/
def expr (c : Call) : Result :=
  let answer (text : Octets) : Result :=
    { c.print (text ++ "\n") with status := if text = "" || text = "0" then 1 else 0 }
  let refused (why : Octets) : Result := c.refuse 2 ("expr: " ++ why ++ "\n")
  let sums : List (Octets × Op) := [("+", .add), ("-", .sub), ("*", .mul), ("/", .div), ("%", .rem)]
  let order : List (Octets × (Ordering → Bool)) := [("=", (·.isEq)), ("!=", (·.isNe)),
    ("<", (·.isLT)), ("<=", (·.isLE)), (">", (·.isGT)), (">=", (·.isGE))]
  match c.args with
  | [] => refused ("missing operand\n" ++ "Try 'expr --help' for more information.")
  | [a] => answer a
  | ["length", a] => answer (toString a.length)
  | [a, op, b] =>
    match sums.lookup op, order.lookup op, Octets.integer? a, Octets.integer? b with
    | some f, _, some x, some y =>
      match f.apply x y with
      | .ok v => answer (toString v)
      | .error e => refused e.message
    | some _, _, _, _ => refused "non-integer argument"
    | none, some f, some x, some y => answer (if f (compare x y) then "1" else "0")
    | none, some f, _, _ => answer (if f (compare a b) then "1" else "0")
    | none, none, _, _ => refused "syntax error: unexpected argument"
  | _ => refused "syntax error: unexpected argument"

def seq (c : Call) : Result :=
  let count (first step last : Int) : Result :=
    let n := if step > 0 then ((last - first) / step + 1).toNat
      else if step < 0 then ((first - last) / -step + 1).toNat
      else 0
    c.print (lines ((List.range n).map fun (i : Nat) => toString (first + i * step)))
  match c.args.mapM Octets.integer? with
  | some [last] => count 1 1 last
  | some [first, last] => count first 1 last
  | some [first, step, last] => count first step last
  | _ => c.refuse 1 ("seq: missing operand\n" ++ hint "seq")

def baseName (s : Octets) : Octets :=
  let cs := s.toList.reverse.dropWhile (· = '/')
  if cs.isEmpty && !s.isEmpty then "/" else String.ofList (cs.takeWhile (· ≠ '/')).reverse

def dirName (s : Octets) : Octets :=
  let cs := ((s.toList.reverse.dropWhile (· = '/')).dropWhile (· ≠ '/')).dropWhile (· = '/')
  if cs.isEmpty then (if s.startsWith "/" then "/" else ".") else String.ofList cs.reverse

def basename (c : Call) : Result :=
  match c.args with
  | [s] => c.print (baseName s ++ "\n")
  | [s, ending] =>
    let b := baseName s
    let cut := if b.endsWith ending && b ≠ ending then (b.dropEnd ending.length).toString else b
    c.print (cut ++ "\n")
  | _ => c.refuse 1 ("basename: missing operand\n" ++ hint "basename")

def dirname (c : Call) : Result :=
  match c.args with
  | [] => c.refuse 1 ("dirname: missing operand\n" ++ hint "dirname")
  | as => c.print (lines (as.map dirName))

def testCondition (closed : Bool) (c : Call) : Result :=
  let name := if closed then "[" else "test"
  let asked : Option (List Octets) :=
    if closed then
      match c.args.reverse with
      | "]" :: as => some as.reverse
      | _ => none
    else some c.args
  match asked with
  | none => c.refuse 2 (name ++ ": missing ']'\n")
  | some as =>
    match Condition.eval c.files as with
    | .ok b => c.done (if b then 0 else 1)
    | .error f => c.refuse 2 (name ++ ": " ++ f.message ++ "\n")

def formatFault : Format.Fault → Octets
  | .notNumber t => "printf: " ++ quoted t ++ ": expected a numeric value\n"
  | .notAllNumber t => "printf: " ++ quoted t ++ ": value not completely converted\n"
  | .badDirective t => "printf: " ++ t ++ ": invalid conversion specification\n"

def printf (c : Call) : Result :=
  match c.args with
  | [] => c.refuse 1 ("printf: missing operand\n" ++ hint "printf")
  | format :: args =>
    let (out, faults) := Format.print format args
    { c.print out with status := if faults.isEmpty then 0 else 1
                       err := String.join (faults.map formatFault) }

/-! ### input and files -/

/-- The contents of a file, or the input for a hyphen. -/
def contents (c : Call) (name : Octets) : Except Octets Octets :=
  if name = "-" then .ok c.input
  else match c.files.read (Octets.toPath name) with
    | .ok bs => .ok (Octets.ofBytes bs)
    | .error cause => .error cause.text

/-- Applies a function to the contents of each file, or to the input if none is named. -/
def onEach (tool : String) (f : Octets → Octets) (names : List Octets) (c : Call) : Result :=
  let names := if names.isEmpty then ["-"] else names
  let r := names.foldl (fun (r : Result) name =>
    match contents c name with
    | .ok text =>
      { r with out := r.out ++ f text, input := if name = "-" then "" else r.input }
    | .error why =>
      { r with status := 1, err := r.err ++ tool ++ ": " ++ name ++ ": " ++ why ++ "\n" })
    (c.done 0)
  r

def cat (c : Call) : Result := onEach "cat" id (options c.args).2 c

/-- The number behind `-n` or the hyphen, with the names that follow. -/
def countOption : List Octets → Nat × List Octets
  | "-n" :: n :: as => ((Octets.number? n).getD 10, as)
  | a :: as =>
    match a.toList with
    | '-' :: 'n' :: ds => ((Octets.number? (String.ofList ds)).getD 10, as)
    | '-' :: ds =>
      match Octets.number? (String.ofList ds) with
      | some n => (n, as)
      | none => (10, a :: as)
    | _ => (10, a :: as)
  | [] => (10, [])

def head (c : Call) : Result :=
  match c.args with
  | ["-c", n, "/dev/zero"] =>
    c.print (String.ofList (List.replicate ((Octets.number? n).getD 0) '\x00'))
  | "-c" :: n :: as =>
    onEach "head" (fun s => (s.take ((Octets.number? n).getD 0)).toString) as c
  | _ =>
    let (n, names) := countOption c.args
    onEach "head" (fun s => lines ((linesOf s).take n)) names c

def tail (c : Call) : Result :=
  let (n, names) := countOption c.args
  onEach "tail" (fun s => let ls := linesOf s; lines (ls.drop (ls.length - n))) names c

def sort (c : Call) : Result :=
  let (os, names) := options c.args
  onEach "sort" (fun s =>
    let ls := (linesOf s).mergeSort (· ≤ ·)
    let ls := if has os 'u' then ls.eraseReps else ls
    lines (if has os 'r' then ls.reverse else ls)) names c

def wordCount (s : Octets) : Nat :=
  ((s.toList.splitBy fun a b => isGap a = isGap b).filter fun w => !(w.headD ' ' |> isGap)).length
where
  isGap (c : Char) : Bool := c.isWhitespace || c = '\x0b' || c = '\x0c'

def wc (c : Call) : Result :=
  let (os, names) := options c.args
  let all := os.isEmpty
  let counts (s : Octets) : List Nat :=
    (if all || has os 'l' then [s.toList.count '\n'] else [])
      ++ (if all || has os 'w' then [wordCount s] else [])
      ++ (if all || has os 'c' then [s.length] else [])
  let set (n : Nat) (w : Nat) : Octets :=
    let d := toString n
    String.ofList (List.replicate (w - d.length) ' ') ++ d
  let show_ (s : Octets) : Octets :=
    let ns := counts s
    " ".intercalate (ns.map (set · (if ns.length = 1 then 0 else if names.isEmpty then 7 else 0)))
  match names with
  | [] => { c.print (show_ c.input ++ "\n") with input := "" }
  | _ => names.foldl (fun (r : Result) name =>
      match contents c name with
      | .ok s => { r with out := r.out ++ show_ s ++ " " ++ name ++ "\n" }
      | .error why => { r with status := 1, err := r.err ++ "wc: " ++ name ++ ": " ++ why ++ "\n" })
      (c.done 0)

/-- The characters of a set, with ranges spelled out. -/
def charSet (s : Octets) : List Char :=
  go (unescape s).1.toList
where
  go : List Char → List Char
    | a :: '-' :: b :: cs =>
      (List.range (b.toNat + 1 - a.toNat)).map (fun i => Char.ofNat (a.toNat + i)) ++ go cs
    | c :: cs => c :: go cs
    | [] => []

def tr (c : Call) : Result :=
  let give (f : Char → Option Char) : Result :=
    { c.print (String.ofList (c.input.toList.filterMap f)) with input := "" }
  match c.args with
  | ["-d", set] => give fun x => if (charSet set).contains x then none else some x
  | [set, images] =>
    let set := charSet set
    let images := charSet images
    give fun x =>
      match set.idxOf? x with
      | some i => some (images.getD i (images.getLastD x))
      | none => some x
  | _ => c.refuse 1 ("tr: missing operand\n" ++ hint "tr")

def tee (c : Call) : Result :=
  let (os, names) := options c.args
  let r := names.foldl (fun (r : Result) name =>
    let p := Octets.toPath name
    let old := if has os 'a' then (r.files.read p).toOption.getD [] else []
    match r.files.write p (old ++ Octets.toBytes c.input) with
    | .ok files => { r with files }
    | .error cause =>
      { r with status := 1, err := r.err ++ "tee: " ++ name ++ ": " ++ cause.text ++ "\n" })
    (c.print c.input)
  { r with input := "" }

/-- The names inside a directory that are not hidden, or the name of a file. -/
def listing (t : Files) (hidden : Bool) (name : Octets) : Except Octets (List Octets) :=
  let p := Octets.toPath name
  match t.entry p with
  | .error cause => .error cause.text
  | .ok (l, .directory) =>
    let ns := (t.children l).map fun e => Octets.ofBytes e.1
    .ok ((ns.filter fun n => hidden || !n.startsWith ".").mergeSort (· ≤ ·))
  | .ok _ => .ok [name]

def ls (c : Call) : Result :=
  let (os, names) := options c.args
  let hidden := has os 'A' || has os 'a'
  let isDir (n : Octets) : Bool := c.files.isDirectory (Octets.toPath n)
  match names with
  | [] =>
    match listing c.files hidden "." with
    | .ok ns => c.print (lines ns)
    | .error why => c.refuse 2 ("ls: cannot open directory '.': " ++ why ++ "\n")
  | [n] =>
    match listing c.files hidden n with
    | .ok ns => c.print (lines ns)
    | .error why => c.refuse 2 ("ls: cannot access " ++ quoted n ++ ": " ++ why ++ "\n")
  | _ =>
    let names := names.mergeSort (· ≤ ·)
    let found := names.filter fun n => (listing c.files hidden n).toOption.isSome
    let missing := names.filterMap fun n =>
      match listing c.files hidden n with
      | .error why => some ("ls: cannot access " ++ quoted n ++ ": " ++ why ++ "\n")
      | .ok _ => none
    let files := found.filter (!isDir ·)
    let blocks := (found.filter isDir).map fun n =>
      n ++ ":\n" ++ lines ((listing c.files hidden n).toOption.getD [])
    let blocks := if files.isEmpty then blocks else lines files :: blocks
    { c.print ("\n".intercalate blocks) with
      status := if missing.isEmpty then 0 else 2, err := String.join missing }

/-! ### changes to files -/

/-- Applies a change for each name; what a change refuses is told and does not stop the others. -/
def onNames (tool : String) (c : Call) (names : List Octets)
    (change : Files → Octets → Except Octets Files) : Result :=
  if names.isEmpty then c.refuse 1 (tool ++ ": missing operand\n" ++ hint tool)
  else names.foldl (fun (r : Result) name =>
    match change r.files name with
    | .ok files => { r with files }
    | .error why => { r with status := 1, err := r.err ++ tool ++ ": " ++ why ++ "\n" }) (c.done 0)

def touch (c : Call) : Result :=
  let (os, names) := options c.args
  if names.isEmpty then c.refuse 1 ("touch: missing file operand\n" ++ hint "touch")
  else onNames "touch" c names fun t name =>
    let p := Octets.toPath name
    match t.entry p with
    | .ok _ => .ok t
    | .error _ =>
      if has os 'c' then .ok t
      else match t.find p with
        | .ok (.free l false) => .ok (t.put l (.file [] false))
        | .ok (.free _ true) =>
          .error ("setting times of " ++ quoted name ++ ": No such file or directory")
        | .ok _ => .ok t
        | .error cause => .error ("cannot touch " ++ quoted name ++ ": " ++ cause.text)

def mkdir (c : Call) : Result :=
  let (os, names) := options c.args
  onNames "mkdir" c names fun t name =>
    let p := Octets.toPath name
    let refused (cause : Cause) : Octets :=
      "cannot create directory " ++ quoted name ++ ": " ++ cause.text
    if has os 'p' || os.contains "--parents" then
      match t.makeDirs p with
      | (.ok (), t) => .ok t
      | (.error cause, _) => .error (refused cause)
    else (t.makeDir p).mapError refused

def rmdir (c : Call) : Result :=
  onNames "rmdir" c (options c.args).2 fun t name =>
    let refused (cause : Cause) : Octets := "failed to remove " ++ quoted name ++ ": " ++ cause.text
    match t.find (Octets.toPath name) false with
    | .ok (.taken l .directory) =>
      if (t.children l).isEmpty then .ok (t.remove l) else .error (refused (.os 39))
    | .ok (.taken ..) => .error (refused .notDirectory)
    | .ok (.free ..) => .error (refused .noEntry)
    | .error cause => .error (refused cause)

def rm (c : Call) : Result :=
  let (os, names) := options c.args
  let force := has os 'f'
  let recursive := has os 'r' || has os 'R'
  if names.isEmpty && force then c.done 0
  else onNames "rm" c names fun t name =>
    let refused (cause : Cause) : Octets := "cannot remove " ++ quoted name ++ ": " ++ cause.text
    match t.find (Octets.toPath name) false with
    | .ok (.taken l .directory) =>
      if recursive then .ok (t.remove l) else .error (refused .isDirectory)
    | .ok (.taken l _) => .ok (t.remove l)
    | .ok (.free ..) => if force then .ok t else .error (refused .noEntry)
    | .error cause => if force && cause = .noEntry then .ok t else .error (refused cause)

/-- Entries at and below a location, moved to another. -/
def transplant (t : Files) (l m : Location) : List (Location × Entry) :=
  (t.entries.filter fun x => l.isPrefixOf x.1).map fun x => (m ++ x.1.drop l.length, x.2)

/-- Where a file goes that is put to a target: inside, if that is a directory. -/
def destination (t : Files) (name target : Octets) : Except Cause Location :=
  let p := Octets.toPath target
  let p := if t.isDirectory p then p.join (Octets.toPath (baseName name)) else p
  match t.find p with
  | .ok (.taken l _) => .ok l
  | .ok (.free l _) => .ok l
  | .error cause => .error cause

/-- Puts copies of the named entries to the last of the names. -/
def putTo (tool : String) (keep recursive : Bool) (c : Call) (names : List Octets) : Result :=
  match names.reverse with
  | [] => c.refuse 1 (tool ++ ": missing file operand\n" ++ hint tool)
  | [name] =>
    c.refuse 1 (tool ++ ": missing destination file operand after " ++ quoted name ++ "\n"
      ++ hint tool)
  | target :: sources =>
    onNames tool c sources.reverse fun t name =>
      match t.find (Octets.toPath name) false with
      | .error cause => .error ("cannot stat " ++ quoted name ++ ": " ++ cause.text)
      | .ok (.free ..) => .error ("cannot stat " ++ quoted name ++ ": No such file or directory")
      | .ok (.taken l e) =>
        if e = .directory && keep && !recursive then
          .error ("-r not specified; omitting directory " ++ quoted name)
        else match destination t name target with
          | .error cause =>
            .error ("cannot create regular file " ++ quoted target ++ ": " ++ cause.text)
          | .ok m =>
            let moved := transplant t l m
            let t := if keep then t else t.remove l
            .ok (moved.foldl (fun t x => t.put x.1 x.2) t)

def cp (c : Call) : Result :=
  let (os, names) := options c.args
  putTo "cp" true (has os 'r' || has os 'R' || has os 'a') c names

def mv (c : Call) : Result := putTo "mv" false true c (options c.args).2

def ln (c : Call) : Result :=
  match options c.args with
  | (os, [target, name]) =>
    let refused (cause : Cause) : Result :=
      c.refuse 1
        ("ln: failed to create symbolic link " ++ quoted name ++ ": " ++ cause.text ++ "\n")
    match c.files.find (Octets.toPath name) false with
    | .ok (.free l _) =>
      if has os 's' then { c.done 0 with files := c.files.put l (.link (Octets.toPath target)) }
      else match c.files.entry (Octets.toPath target) with
        | .ok (_, e) => { c.done 0 with files := c.files.put l e }
        | .error cause =>
          c.refuse 1 ("ln: failed to access " ++ quoted target ++ ": " ++ cause.text ++ "\n")
    | .ok (.taken ..) => refused .fileExists
    | .error cause => refused cause
  | _ => c.refuse 1 ("ln: missing file operand\n" ++ hint "ln")

def chmod (c : Call) : Result :=
  match c.args with
  | mode :: names =>
    let runnable :=
      mode.contains 'x' && !mode.contains '-' || mode.contains '7' || mode.contains '5'
    onNames "chmod" c names fun t name =>
      match t.entry (Octets.toPath name) with
      | .ok (l, .file bs _) => .ok (t.put l (.file bs runnable))
      | .ok _ => .ok t
      | .error cause => .error ("cannot access " ++ quoted name ++ ": " ++ cause.text)
  | [] => c.refuse 1 ("chmod: missing operand\n" ++ hint "chmod")

/-! ### time and surroundings -/

/-- Seconds with decimals and a unit, in thousandths. -/
def duration? (s : Octets) : Option Nat :=
  let cs := s.toList
  let (cs, unit) := match cs.getLast? with
    | some 's' => (cs.dropLast, 1)
    | some 'm' => (cs.dropLast, 60)
    | some 'h' => (cs.dropLast, 3600)
    | some 'd' => (cs.dropLast, 86400)
    | _ => (cs, 1)
  let whole := cs.takeWhile Char.isDigit
  let value (w f : List Char) : Option Nat := do
    let w ← if w.isEmpty then some 0 else Octets.number? (String.ofList w)
    let f ← Octets.number? (String.ofList ((f ++ ['0', '0', '0']).take 3))
    return (w * 1000 + f) * unit
  match cs.drop whole.length with
  | [] => if whole.isEmpty then none else value whole []
  | '.' :: f => if whole.isEmpty && f.isEmpty || !f.all Char.isDigit then none else value whole f
  | _ => none

/-- A time that no process waits for. -/
def forever : Nat := 1000000000000

def sleep (c : Call) : Result :=
  if c.args.isEmpty then c.refuse 1 ("sleep: missing operand\n" ++ hint "sleep")
  else
    match c.args.find? fun a => (duration? a).isNone && a ≠ "infinity" with
    | some a => c.refuse 1 ("sleep: invalid time interval " ++ quoted a ++ "\n" ++ hint "sleep")
    | none => { c.done 0 with time := c.args.foldl (fun n a => n + (duration? a).getD forever) 0 }

def pwd (c : Call) : Result := c.print (Octets.ofPath c.files.cwd.path ++ "\n")

def printenv (c : Call) : Result :=
  match c.args with
  | [] => c.print (lines (c.environment.map fun (k, v) => k ++ "=" ++ v))
  | ks =>
    let found := ks.filterMap (List.lookup · c.environment)
    { c.print (lines found) with status := if found.length = ks.length then 0 else 1 }

def table : List (String × (Call → Result)) := [
  ("basename", basename), ("cat", cat), ("chmod", chmod), ("cp", cp), ("dirname", dirname),
  ("echo", echo), ("expr", expr), ("false", fun c => c.done 1), ("head", head), ("ln", ln),
  ("ls", ls), ("mkdir", mkdir), ("mv", mv), ("printenv", printenv), ("printf", printf),
  ("pwd", pwd), ("rm", rm), ("rmdir", rmdir), ("seq", seq), ("sleep", sleep), ("sort", sort),
  ("tail", tail), ("tee", tee), ("test", testCondition false), ("[", testCondition true),
  ("touch", touch), ("tr", tr), ("true", fun c => c.done 0), ("wc", wc), ("yes", yes)]

def named? (name : String) : Option (Call → Result) := table.lookup name

end Tool
end Shell
end Dashboards
