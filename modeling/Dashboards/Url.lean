import Dashboards.Url.Host

/-!
# URLs

* `Url`         the address of a web server in its parts, each in its final text;
* `Url.text`    the parts put together;
* `Url.parse`   reading a text. Of a URL that does not lead to a web server only the scheme is kept,
                once the rest has been checked.
-/

namespace Dashboards

structure Url where
  scheme : String
  username : String
  password : String
  host : String
  port : Option Nat
  /-- The path with the slash in front of it. -/
  path : String
  query : Option String
  fragment : Option String
deriving DecidableEq

namespace Url

def credentials (u : Url) : String :=
  if u.username.isEmpty && u.password.isEmpty then ""
  else u.username ++ (if u.password.isEmpty then "" else ":" ++ u.password) ++ "@"

def text (u : Url) : String :=
  let port := match u.port with
    | some n => ":" ++ toString n
    | none => ""
  let query := match u.query with
    | some q => "?" ++ q
    | none => ""
  let fragment := match u.fragment with
    | some f => "#" ++ f
    | none => ""
  u.scheme ++ "://" ++ u.credentials ++ u.host ++ port ++ u.path ++ query ++ fragment

/-! ### scheme -/

def isSchemeChar (c : Char) : Bool := c.isAlphanum || c = '+' || c = '-' || c = '.'

/-- The scheme in small letters, and what follows its colon. -/
def splitScheme (cs : List Char) : Option (String × List Char) :=
  if !cs.head?.any Char.isAlpha then none
  else
    match cs.dropWhile isSchemeChar with
    | ':' :: rest => some (String.ofList ((cs.takeWhile isSchemeChar).map Char.toLower), rest)
    | _ => none

/-- Schemes whose URLs always have a host, with the port that goes without saying. -/
def defaultPort? (scheme : String) : Option Nat :=
  match scheme with
  | "http" => some 80
  | "https" => some 443
  | "ws" => some 80
  | "wss" => some 443
  | "ftp" => some 21
  | _ => none

/-! ### authority -/

/-- The characters that end the part with the host. -/
def endsAuthority (special : Bool) (c : Char) : Bool :=
  c = '/' || c = '?' || c = '#' || (special && c = '\\')

/-- Name and password, and what follows the last `@` of the authority. -/
def splitUserinfo (special : Bool) (cs : List Char) : Option (List Char) × List Char :=
  let authority := cs.takeWhile (!endsAuthority special ·)
  let host := (authority.reverse.takeWhile (· ≠ '@')).reverse
  if host.length = authority.length then (none, cs)
  else
    let n := authority.length - host.length
    (some (cs.take (n - 1)), cs.drop n)

def splitCredentials (cs : List Char) : String × String :=
  let name := cs.takeWhile (· ≠ ':')
  let password := cs.drop (name.length + 1)
  (String.ofList (percentEncode inUserinfo name), String.ofList (percentEncode inUserinfo password))

/-- The characters up to the end of the host; a colon in brackets does not end it. -/
def hostChars (special : Bool) (inBrackets : Bool) : List Char → List Char
  | [] => []
  | c :: cs =>
    if endsAuthority special c || (c = ':' && !inBrackets) then []
    else
      c :: hostChars special (if c = '[' then true else if c = ']' then false else inBrackets) cs

/-- The digits of a port, which the end of the authority has to follow. -/
def readPort : Nat → Bool → List Char → Except Fault (Option Nat × List Char)
  | n, found, [] => .ok (if found then some n else none, [])
  | n, found, c :: cs =>
    if c.isDigit then
      let m := n * 10 + (c.toNat - 48)
      if m > 65535 then .error .badPort else readPort m true cs
    else if c = '/' || c = '\\' || c = '?' || c = '#' then
      .ok (if found then some n else none, c :: cs)
    else .error .badPort

structure Authority where
  username : String
  password : String
  host : String
  port : Option Nat
  rest : List Char

/-- The authority of a scheme with a default port. -/
def readAuthority (standard : Nat) (cs : List Char) : Except Fault Authority :=
  let (userinfo, cs) := splitUserinfo true cs
  let (username, password) := splitCredentials (userinfo.getD [])
  if userinfo = some [] && cs.head?.any (endsAuthority true) then .error .emptyHost
  else
    let hostText := hostChars true false cs
    if hostText.isEmpty then .error .emptyHost
    else match Host.read hostText with
      | .error e => .error e
      | .ok host =>
        match cs.drop hostText.length with
        | ':' :: rest =>
          match readPort 0 false rest with
          | .error e => .error e
          | .ok (port, rest) => .ok ⟨username, password, host, port.filter (· ≠ standard), rest⟩
        | rest => .ok ⟨username, password, host, none, rest⟩

/-- The authority of a scheme without rules of its own. A name or port needs a host. -/
def checkAuthority (cs : List Char) : Except Fault Unit :=
  let (userinfo, cs) := splitUserinfo false cs
  if userinfo = some [] && cs.head?.any (endsAuthority false) then .error .emptyHost
  else
    let hostText := hostChars false false cs
    match Host.checkOpaque hostText with
    | .error e => .error e
    | .ok () =>
      let rest := cs.drop hostText.length
      let named := (userinfo.getD []).any (· ≠ ':') || (userinfo.getD []).length > 1
      if hostText.isEmpty && rest.head? = some ':' then .error .emptyHost
      else
        let port : Except Fault Unit := match rest with
          | ':' :: rest => (readPort 0 false rest).map fun _ => ()
          | _ => .ok ()
        match port with
        | .error e => .error e
        | .ok () => if hostText.isEmpty && named then .error .emptyHost else .ok ()

/-! ### path -/

def isPathEnd (c : Char) : Bool := c = '?' || c = '#'

def isSlash (c : Char) : Bool := c = '/' || c = '\\'

/-- A point, which may be written as an escape. -/
def pointForms : List (List Char) := [['.'], "%2e".toList, "%2E".toList]

def isSinglePoint (s : List Char) : Bool := pointForms.contains s

def isDoublePoint (s : List Char) : Bool :=
  pointForms.any fun a => pointForms.any fun b => s = a ++ b

/-- A letter and a colon or bar, as drives are named. -/
def isDrive (s : List Char) : Bool :=
  match s with
  | [c, d] => c.isAlpha && (d = ':' || d = '|')
  | _ => false

/-- Takes the last segment away; `done` are the segments in reverse. A drive stays. -/
def dropSegment : List (List Char) → List (List Char)
  | [] => []
  | s :: ss => if isDrive s then s :: ss else ss

/-- Adds segments; the last one is followed by no slash. Single points vanish and double points take
the segment before them away, each leaving an empty last segment. -/
def addSegments (done : List (List Char)) : List (List Char) → List (List Char)
  | [] => done
  | [s] =>
    if isDoublePoint s then [] :: dropSegment done
    else if isSinglePoint s then [] :: done
    else s :: done
  | s :: t :: rest =>
    if isDoublePoint s then addSegments (dropSegment done) (t :: rest)
    else if isSinglePoint s then addSegments done (t :: rest)
    else addSegments (s :: done) (t :: rest)

/-- The path of a web address, which always begins with a slash. -/
def pathText (cs : List Char) : String :=
  let cs := match cs with
    | c :: r => if isSlash c then r else c :: r
    | [] => []
  let segments := (Idna.splitAt isSlash cs).map (percentEncode inPath)
  String.ofList ((addSegments [] segments).reverse.flatMap ('/' :: ·))

/-! ### the whole -/

/-- Query and fragment behind a path. -/
def splitTail (cs : List Char) : Option String × Option String :=
  let fragment (cs : List Char) : Option String := match cs with
    | _ :: f => some (String.ofList (percentEncode inFragment f))
    | [] => none
  match cs with
  | '?' :: r =>
    (some (String.ofList (percentEncode inQuery (r.takeWhile (· ≠ '#')))),
      fragment (r.dropWhile (· ≠ '#')))
  | cs => (none, fragment cs)

def isTrimmed (c : Char) : Bool := c.toNat ≤ 0x20

/-- Without blanks and controls at the ends, and without tabs and line breaks anywhere. -/
def clean (s : String) : List Char :=
  let cs := ((s.toList.dropWhile isTrimmed).reverse.dropWhile isTrimmed).reverse
  cs.filter fun c => c ≠ '\t' && c ≠ '\n' && c ≠ '\r'

inductive Parsed where
  | web (u : Url)
  | other (scheme : String)

def parseWeb (scheme : String) (standard : Nat) (cs : List Char) : Except Fault Url :=
  match readAuthority standard (cs.dropWhile isSlash) with
  | .error e => .error e
  | .ok a =>
    let (query, fragment) := splitTail (a.rest.dropWhile (!isPathEnd ·))
    .ok { scheme, username := a.username, password := a.password, host := a.host, port := a.port,
          path := pathText (a.rest.takeWhile (!isPathEnd ·)), query, fragment }

/-- The host of a file, if there is one; a drive is none. -/
def checkFile (cs : List Char) : Except Fault Unit :=
  match cs with
  | a :: b :: rest =>
    if isSlash a && isSlash b then
      let host := rest.takeWhile fun c => !(isSlash c || isPathEnd c)
      if host.isEmpty || isDrive host then .ok () else (Host.read host).map fun _ => ()
    else .ok ()
  | _ => .ok ()

def parse (s : String) : Except Fault Parsed :=
  match splitScheme (clean s) with
  | none => .error .relative
  | some (scheme, rest) =>
    match defaultPort? scheme with
    | some standard =>
      match parseWeb scheme standard rest with
      | .error e => .error e
      | .ok u => .ok (if scheme = "http" || scheme = "https" then .web u else .other scheme)
    | none =>
      let checked := if scheme = "file" then checkFile rest
        else match rest with
          | '/' :: '/' :: rest => checkAuthority rest
          | _ => .ok ()
      match checked with
      | .error e => .error e
      | .ok () => .ok (.other scheme)

end Url
end Dashboards
