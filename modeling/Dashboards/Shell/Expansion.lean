import Dashboards.Shell.State
import Dashboards.Shell.Sum

/-!
# Expansion of words

The parts of a word are turned into pieces, the pieces are split into fields, and a field that is a
pattern becomes the paths that match it.

* `Inner`           runs the scripts and expands the words inside of others;
* `expandParts`     the pieces of a word;
* `fieldsOf`        the fields of the words of a command;
* `expandText`, `expandPattern`   a word that stays one text or one pattern.
-/

namespace Dashboards
namespace Shell

/-- A piece of an expanded word. -/
inductive Piece where
  /-- Characters that mean themselves. -/
  | fixed (s : Octets)
  /-- Characters of the script outside quotes. -/
  | plain (s : Octets)
  /-- A value outside quotes, which is split at blanks. -/
  | split (s : Octets)
  /-- The end of a field. -/
  | gap

/-- How to run a script, and how to expand parts, inside of what is being run or expanded. -/
structure Inner where
  node : Node → Run Unit
  parts : Bool → List Part → Run (List Piece)

def Piece.text : Piece → Octets
  | .fixed s => s
  | .plain s => s
  | .split s => s
  | .gap => " "

def Piece.pattern : Piece → Pattern
  | .fixed s => s.toList.map (·, false)
  | .plain s => s.toList.map (·, true)
  | .split s => s.toList.map (·, true)
  | .gap => [(' ', false)]

def joined (ps : List Piece) : Octets := String.join (ps.map Piece.text)

/-- A fault that ends the shell. -/
def fatal (text : Octets) : Run α := do
  complain text
  throw (.exit 2)

/-! ### splitting -/

structure Fields where
  done : List Pattern := []
  /-- The field that is being built. -/
  current : Option Pattern := none
  /-- The last field was ended by a blank. -/
  afterBlank : Bool := false

namespace Fields

def add (f : Fields) (p : Pattern) : Fields :=
  { f with current := some (f.current.getD [] ++ p), afterBlank := false }

def close (f : Fields) : Fields :=
  match f.current with
  | some p => { f with done := f.done ++ [p], current := none }
  | none => f

/-- Takes in a character of a value outside quotes. -/
def takeIn (separators : List Char) (f : Fields) (c : Char) : Fields :=
  if !separators.contains c then f.add [(c, true)]
  else if c = ' ' || c = '\t' || c = '\n' then
    match f.current with
    | some _ => { f.close with afterBlank := true }
    | none => f
  else if f.current.isNone && f.afterBlank then { f with afterBlank := false }
  else { (f.add []).close with afterBlank := false }

def piece (separators : List Char) (f : Fields) : Piece → Fields
  | .fixed s => f.add (s.toList.map (·, false))
  | .plain s => f.add (s.toList.map (·, true))
  | .split s => s.toList.foldl (takeIn separators) f
  | .gap => f.close

end Fields

def separators : Run (List Char) := do
  return match (← scope).value? "IFS" with
    | some s => s.toList
    | none => [' ', '\t', '\n']

/-! ### values -/

def flagLetters (s : Scope) : Octets :=
  (if s.exitOnFailure then "e" else "") ++ (if s.refuseUnset then "u" else "")
    ++ (if s.trace then "x" else "") ++ (if s.noMatching then "f" else "")

/-- The value of a name: an argument, something about the shell, or a variable. -/
def valueOf? (name : Octets) : Run (Option Octets) := do
  let s ← scope
  match name with
  | "#" => return some (toString s.args.length)
  | "?" => return some (toString s.status)
  | "$" => return some (toString s.process)
  | "-" => return some (flagLetters s)
  | "!" => return some ""
  | "0" => return some s.name
  | "@" => return if s.args.isEmpty then none else some (" ".intercalate s.args)
  | "*" => return if s.args.isEmpty then none else some (" ".intercalate s.args)
  | _ =>
    match Octets.number? name with
    | some n => return s.args[n - 1]?
    | none => return s.value? name

def requireValue (name : Octets) : Run Octets := do
  match ← valueOf? name with
  | some v => return v
  | none =>
    if (← scope).refuseUnset && name ≠ "@" && name ≠ "*" then fatal (name ++ ": parameter not set")
    return ""

def aPiece (quoted : Bool) (s : Octets) : Piece := if quoted then .fixed s else .split s

/-- The arguments of the script, each a field of its own. -/
def argumentPieces (quoted : Bool) : Run (List Piece) := do
  let args := (← scope).args
  return (args.map (aPiece quoted)).intersperse .gap

/-- What is left of a value without the part at one end that matches the pattern. -/
def without (side : Side) (longest : Bool) (p : Pattern) (value : Octets) : Octets :=
  let cs := value.toList
  let cuts := List.range (cs.length + 1)
  let fitting := match side with
    | .front => cuts.filter fun n => p.fits (cs.take n)
    | .back => cuts.reverse.filter fun n => p.fits (cs.drop n)
  match if longest then fitting.getLast? else fitting.head? with
  | none => value
  | some n =>
    match side with
    | .front => String.ofList (cs.drop n)
    | .back => String.ofList (cs.take n)

def trimLines (s : Octets) : Octets :=
  String.ofList (s.toList.reverse.dropWhile (· = '\n')).reverse

/-! ### sums -/

def sumFault (text : Octets) (f : SumFault) : Run α :=
  match f with
  | .illTyped t => fatal ("Illegal number: " ++ t)
  | _ => fatal ("arithmetic expression: " ++ f.message ++ ": \"" ++ text ++ "\"")

def numberOf (text name : Octets) : Run Int := do
  let v := (← valueOf? name).getD ""
  let cs := v.toList
  match cs with
  | [] => return 0
  | '-' :: ds =>
    match numeral? ds with
    | some n => return wrap (-n)
    | none => sumFault text (.illTyped v)
  | _ =>
    match numeral? cs with
    | some n => return wrap n
    | none => sumFault text (.illTyped v)

def valueOfSum (text : Octets) : Sum → Run Int
  | .number n => return n
  | .name x => numberOf text x
  | .negate e => do return wrap (-(← valueOfSum text e))
  | .complement e => do return wrap (-(← valueOfSum text e) - 1)
  | .not e => do return ofBool ((← valueOfSum text e) = 0)
  | .binary .and a b => do
    if (← valueOfSum text a) = 0 then return 0
    return ofBool ((← valueOfSum text b) ≠ 0)
  | .binary .or a b => do
    if (← valueOfSum text a) ≠ 0 then return 1
    return ofBool ((← valueOfSum text b) ≠ 0)
  | .binary op a b => do
    let x ← valueOfSum text a
    let y ← valueOfSum text b
    match op.apply x y with
    | .ok v => return v
    | .error f => sumFault text f
  | .choose c a b => do
    if (← valueOfSum text c) ≠ 0 then valueOfSum text a else valueOfSum text b
  | .assign x none e => do
    let v ← valueOfSum text e
    modifyScope (·.assign x (toString v))
    return v
  | .assign x (some op) e => do
    let old ← numberOf text x
    let y ← valueOfSum text e
    match op.apply old y with
    | .ok v =>
      modifyScope (·.assign x (toString v))
      return v
    | .error f => sumFault text f

def sumOf (text : Octets) : Run Octets := do
  match Sum.read text with
  | .error f => sumFault text f
  | .ok e => return toString (← valueOfSum text e)

/-! ### parts -/

def used (inner : Inner) (quoted : Bool) (name : Octets) (use : Use) : Run (List Piece) := do
  match use with
  | .value =>
    if name = "@" then argumentPieces quoted
    else if name = "*" then
      if quoted then
        let between := match (← scope).value? "IFS" with
          | none => " "
          | some s => String.ofList (s.toList.take 1)
        return [.fixed (between.intercalate (← scope).args)]
      else argumentPieces false
    else return [aPiece quoted (← requireValue name)]
  | .length =>
    if name = "@" || name = "*" then return [aPiece quoted (toString (← scope).args.length)]
    return [aPiece quoted (toString (← requireValue name).length)]
  | .otherwise emptyToo fallback word =>
    let v ← valueOf? name
    let missing := match v with
      | none => true
      | some s => emptyToo && s.isEmpty
    match fallback with
    | .instead => if missing then return [] else inner.parts quoted word
    | .use =>
      if missing then inner.parts quoted word
      else if name = "@" then argumentPieces quoted
      else return [aPiece quoted (v.getD "")]
    | .assign =>
      if missing then
        let s := joined (← inner.parts true word)
        modifyScope (·.assign name s)
        return [aPiece quoted s]
      else return [aPiece quoted (v.getD "")]
    | .fail =>
      if missing then
        let s := joined (← inner.parts true word)
        fatal (name ++ ": " ++ (if s.isEmpty then
          (if emptyToo then "parameter not set or null" else "parameter not set") else s))
      else return [aPiece quoted (v.getD "")]
  | .without side longest pattern =>
    let v ← requireValue name
    let p := (← inner.parts false pattern).flatMap Piece.pattern
    return [aPiece quoted (without side longest p v)]

/-- The parts of a word hold nothing but the arguments. -/
def areArguments (ps : List Part) : Bool :=
  ps.any fun
    | .variable "@" _ => true
    | _ => false

def expandPart (inner : Inner) (quoted : Bool) : Part → Run (List Piece)
  | .plain s => return [.plain s]
  | .literal s => return [.fixed s]
  | .quoted ps => do
    let pieces ← inner.parts true ps
    return if pieces.isEmpty && !areArguments ps then [.fixed ""] else pieces
  | .variable name use => used inner quoted name use
  | .output script => do
    let (text, status) ← captured (inner.node script)
    modifyScope ({ · with outputStatus := some status })
    return [aPiece quoted (trimLines text)]
  | .sum ps => do
    let text := joined (← inner.parts true ps)
    return [aPiece quoted (← sumOf text)]

def expandParts (inner : Inner) (quoted : Bool) : List Part → Run (List Piece)
  | [] => return []
  | p :: ps => do
    let a ← expandPart inner quoted p
    let b ← expandParts inner quoted ps
    return a ++ b

/-- A tilde at the head of a word stands for the home directory. -/
def expandHome (ps : List Part) : Run (List Part) := do
  match ps with
  | .plain s :: rest =>
    match s.toList, (← scope).value? "HOME" with
    | '~' :: cs, some home =>
      if cs.head?.all (· = '/') && (cs ≠ [] || rest.isEmpty) then
        return .literal home :: .plain (String.ofList cs) :: rest
      else return ps
    | _, _ => return ps
  | _ => return ps

def expandWord (inner : Inner) (ps : List Part) : Run (List Piece) := do
  inner.parts false (← expandHome ps)

/-- The word as one text. -/
def expandText (inner : Inner) (ps : List Part) : Run Octets := do
  return joined (← expandWord inner ps)

/-- The word as one pattern. -/
def expandPattern (inner : Inner) (ps : List Part) : Run Pattern := do
  return (← expandWord inner ps).flatMap Piece.pattern

/-- The fields of a word. -/
def fieldsOfWord (inner : Inner) (ps : List Part) : Run (List Octets) := do
  let pieces ← expandWord inner ps
  let seps ← separators
  let fields := (pieces.foldl (Fields.piece seps) {}).close.done
  let s ← scope
  let files ← currentFiles
  return fields.flatMap fun p =>
    let found := if s.noMatching then [] else matching files p
    if found.isEmpty then [p.text] else found

/-- The fields of the words of a command. -/
def fieldsOf (inner : Inner) : List (List Part) → Run (List Octets)
  | [] => return []
  | w :: ws => do
    let a ← fieldsOfWord inner w
    let b ← fieldsOf inner ws
    return a ++ b

end Shell
end Dashboards
