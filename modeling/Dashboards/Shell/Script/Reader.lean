import Dashboards.Shell.Script.Token

/-!
# Reading scripts

A script is read line by line, as it is run: `Source.next` reads the commands of the next line and
leaves the rest, or tells why the line has no meaning.

Every reader has a bound on the number of its steps; `Source.next` takes one that no source reaches,
since each step either consumes a character or goes one level into the grammar.
-/

namespace Dashboards
namespace Shell

open Reader

mutual

/-- Parts up to the place where they end; a closing quote or brace is consumed. -/
def parts (n : Nat) (quoted : Bool) (u : Until) : Reader (List Part) := do
  match n with
  | 0 => fail .openQuote
  | n + 1 =>
    match ← rest with
    | [] =>
      match u with
      | .quote => fail .openQuote
      | .brace => fail .openBrace
      | _ => return []
    | c :: cs =>
      if u.stops c then
        if u = .quote || u = .brace then skip 1
        return []
      else if c = '\\' then
        match cs with
        | [] => skip 1; return [.literal "\\"]
        | d :: _ =>
          skip 2
          if d = '\n' then parts n quoted u
          else if quoted && !u.escapable d then
            return .literal (String.ofList [c, d]) :: (← parts n quoted u)
          else return .literal (String.singleton d) :: (← parts n quoted u)
      else if c = '\x27' && !quoted then
        let text := cs.takeWhile (· ≠ '\x27')
        if (cs.drop text.length).isEmpty then fail .openQuote
        skip (text.length + 2)
        return .literal (String.ofList text) :: (← parts n quoted u)
      else if c = '"' && (!quoted || u = .brace) then
        skip 1
        let inner ← parts n true .quote
        return .quoted inner :: (← parts n quoted u)
      else if c = '$' then
        skip 1
        let p ← expansion n quoted
        return p :: (← parts n quoted u)
      else if c = backquote then
        match backquoteText cs with
        | none => fail .openBackquote
        | some (text, left) =>
          let body ← within text (wholeScript n)
          passTo left
          return .output body :: (← parts n quoted u)
      else
        let run := cs.takeWhile fun d => !u.stops d && !isQuoting d
        skip (run.length + 1)
        return plainText quoted (c :: run) :: (← parts n quoted u)

/-- What stands behind a dollar sign. -/
def expansion (n : Nat) (quoted : Bool) : Reader Part := do
  match n with
  | 0 => fail .openQuote
  | n + 1 =>
    match ← rest with
    | '(' :: '(' :: cs =>
      match sumText cs 0 with
      | some (text, left) =>
        let ps ← within text (parts n true .textEnd)
        passTo left
        return .sum ps
      | none => skip 1; outputOf n
    | '(' :: _ => skip 1; outputOf n
    | '\x7b' :: _ => skip 1; braced n quoted
    | c :: cs =>
      if isSpecialName c then
        skip 1
        return .variable (String.singleton c) .value
      else if isNameStart c then
        let name := c :: cs.takeWhile isNameChar
        skip name.length
        return .variable (String.ofList name) .value
      else return .literal "$"
    | [] => return .literal "$"

/-- A script up to its closing parenthesis. -/
def outputOf (n : Nat) : Reader Part := do
  match n with
  | 0 => fail .openQuote
  | n + 1 =>
    let body ← list n true
    skipLines n
    match ← rest with
    | ')' :: _ => skip 1; return .output body
    | _ => expecting ")"

/-- A variable between braces with what is made of its value. -/
def braced (n : Nat) (quoted : Bool) : Reader Part := do
  match n with
  | 0 => fail .openBrace
  | n + 1 =>
    let cs ← rest
    match cs with
    | '#' :: c :: more =>
      if c ≠ '\x7d' then
        let name := if isNameStart c then c :: more.takeWhile isNameChar else [c]
        match cs.drop (name.length + 1) with
        | '\x7d' :: _ =>
          skip (name.length + 2)
          return .variable (String.ofList name) .length
        | _ => fail .openBrace
      else
        skip 2
        return .variable "#" .value
    | c :: more =>
      let name := if isNameStart c then c :: more.takeWhile isNameChar
        else if c.isDigit then c :: more.takeWhile Char.isDigit else [c]
      skip name.length
      let name := String.ofList name
      match ← rest with
      | '\x7d' :: _ => skip 1; return .variable name .value
      | '#' :: '#' :: _ =>
        skip 2; return .variable name (.without .front true (← parts n false .brace))
      | '#' :: _ => skip 1; return .variable name (.without .front false (← parts n false .brace))
      | '%' :: '%' :: _ =>
        skip 2; return .variable name (.without .back true (← parts n false .brace))
      | '%' :: _ => skip 1; return .variable name (.without .back false (← parts n false .brace))
      | ':' :: d :: _ => skip 2; otherwise n quoted name true d
      | d :: _ => skip 1; otherwise n quoted name false d
      | [] => fail .openBrace
    | [] => fail .openBrace

def otherwise (n : Nat) (quoted : Bool) (name : String) (emptyToo : Bool) (c : Char) :
    Reader Part := do
  match n with
  | 0 => fail .openBrace
  | n + 1 =>
    let word ← parts n quoted .brace
    match c with
    | '-' => return .variable name (.otherwise emptyToo .use word)
    | '=' => return .variable name (.otherwise emptyToo .assign word)
    | '?' => return .variable name (.otherwise emptyToo .fail word)
    | '+' => return .variable name (.otherwise emptyToo .instead word)
    | _ => fail .openBrace

/-- A script to the end of its text. -/
def wholeScript (n : Nat) : Reader Node := do
  match n with
  | 0 => unexpected
  | n + 1 =>
    let body ← list n true
    skipLines n
    if (← rest).isEmpty then return body else unexpected

/-- Commands up to a token that closes a list. -/
def list (n : Nat) (mayBeEmpty : Bool) : Reader Node := do
  match n with
  | 0 => unexpected
  | n + 1 =>
    skipLines n
    if ← atClosing then
      if mayBeEmpty || (← rest).isEmpty then return .sequence [] else unexpected
    else
      let a ← andOr n
      skipBlanks
      let (a, more) ← match ← rest with
        | '&' :: _ => do skip 1; pure (Node.background a, true)
        | ';' :: ';' :: _ => pure (a, false)
        | ';' :: _ => do skip 1; pure (a, true)
        | '\n' :: _ => do skip 1; pure (a, true)
        | _ => pure (a, false)
      if more then
        match ← list n true with
        | .sequence as => return .sequence (a :: as)
        | b => return .sequence [a, b]
      else return .sequence [a]

/-- The commands of one line. -/
def lineOfCommands (n : Nat) : Reader (List Node) := do
  match n with
  | 0 => unexpected
  | n + 1 =>
    skipBlanks
    match ← rest with
    | [] => return []
    | '\n' :: _ => skip 1; return []
    | _ =>
      let a ← andOr n
      skipBlanks
      match ← rest with
      | '&' :: _ => skip 1; return .background a :: (← lineOfCommands n)
      | ';' :: ';' :: _ => unexpected
      | ';' :: _ => skip 1; return a :: (← lineOfCommands n)
      | '\n' :: _ => skip 1; return [a]
      | [] => return [a]
      | _ => unexpected

def andOr (n : Nat) : Reader Node := do
  match n with
  | 0 => unexpected
  | n + 1 => andOrMore n (← pipeline n)

def andOrMore (n : Nat) (left : Node) : Reader Node := do
  match n with
  | 0 => unexpected
  | n + 1 =>
    skipBlanks
    match ← rest with
    | '&' :: '&' :: _ =>
      skip 2
      skipLines n
      let right ← pipeline n
      andOrMore n (.both left right)
    | '|' :: '|' :: _ =>
      skip 2
      skipLines n
      let right ← pipeline n
      andOrMore n (.either left right)
    | _ => return left

def pipeline (n : Nat) : Reader Node := do
  match n with
  | 0 => unexpected
  | n + 1 =>
    skipBlanks
    if (← reservedWord?) = some "!" then
      skip 1
      return .negated (← pipeline n)
    else
      match ← stages n with
      | [c] => return c
      | cs => return .pipeline cs

def stages (n : Nat) : Reader (List Node) := do
  match n with
  | 0 => unexpected
  | n + 1 =>
    let c ← command n
    skipBlanks
    match ← rest with
    | '|' :: '|' :: _ => return [c]
    | '|' :: _ =>
      skip 1
      skipLines n
      return c :: (← stages n)
    | _ => return [c]

def command (n : Nat) : Reader Node := do
  match n with
  | 0 => unexpected
  | n + 1 =>
    skipBlanks
    let line := (← get).line
    match ← reservedWord? with
    | some "if" => skip 2; withRedirects n line (← choice n)
    | some "while" => skip 5; withRedirects n line (← loop n true)
    | some "until" => skip 5; withRedirects n line (← loop n false)
    | some "for" => skip 3; withRedirects n line (← each n)
    | some "case" => skip 4; withRedirects n line (← select n)
    | some "\x7b" =>
      skip 1
      let body ← list n false
      expectWord n "\x7d"
      withRedirects n line body
    | some _ => unexpected
    | none =>
      match ← rest with
      | '(' :: _ =>
        skip 1
        let body ← list n false
        skipLines n
        expectChar ')'
        withRedirects n line (.subshell body)
      | [] => unexpected
      | c :: cs =>
        if endsWord c && (redirectStart? (c :: cs)).isNone then unexpected
        else simple n line [] [] []

/-- A compound command with the redirections behind it. -/
def withRedirects (n : Nat) (line : Nat) (body : Node) : Reader Node := do
  match n with
  | 0 => unexpected
  | n + 1 =>
    match ← redirects n with
    | [] => return body
    | rs => return .redirected line body rs

def redirects (n : Nat) : Reader (List Redirect) := do
  match n with
  | 0 => unexpected
  | n + 1 =>
    skipBlanks
    match redirectStart? (← rest) with
    | none => return []
    | some (fd, left) =>
      passTo left
      let r ← redirect n fd
      return r :: (← redirects n)

def redirect (n : Nat) (fd : Option Nat) : Reader Redirect := do
  match n with
  | 0 => unexpected
  | n + 1 =>
    match ← rest with
    | '>' :: '>' :: _ => skip 2; return .mk (fd.getD 1) .append (← target n)
    | '>' :: '|' :: _ => skip 2; return .mk (fd.getD 1) .write (← target n)
    | '>' :: '&' :: _ => skip 2; return .mk (fd.getD 1) .copy (← target n)
    | '>' :: _ => skip 1; return .mk (fd.getD 1) .write (← target n)
    | '<' :: '<' :: '-' :: _ => skip 3; hereDocument n (fd.getD 0) true
    | '<' :: '<' :: _ => skip 2; hereDocument n (fd.getD 0) false
    | '<' :: '&' :: _ => skip 2; return .mk (fd.getD 0) .copy (← target n)
    | '<' :: '>' :: _ => skip 2; return .mk (fd.getD 0) .readWrite (← target n)
    | _ => skip 1; return .mk (fd.getD 0) .read (← target n)

/-- The word of a redirection. -/
def target (n : Nat) : Reader (List Part) := do
  match n with
  | 0 => unexpected
  | n + 1 =>
    skipBlanks
    match ← rest with
    | [] => unexpected
    | c :: _ => if endsWord c then unexpected else parts n false .word

/-- A text that stands in the lines below, up to its delimiter. If the delimiter has quotes, the
text means itself. -/
def hereDocument (n : Nat) (fd : Nat) (strip : Bool) : Reader Redirect := do
  match n with
  | 0 => unexpected
  | n + 1 =>
    let delimiter ← target n
    let cs ← rest
    let line := cs.takeWhile (· ≠ '\n')
    let below := (cs.drop line.length).drop 1
    let (text, left) := hereText strip (fixedText delimiter) cs.length below
    modify fun s => { s with rest := line ++ '\n' :: left }
    if hasQuotes delimiter then return .mk fd .text [.literal (String.ofList text)]
    else return .mk fd .text [.quoted (← within text (parts n true .textEnd))]

/-- A simple command, after what has been read of it. -/
def simple (n : Nat) (line : Nat) (assigns : List (String × List Part)) (words : List (List Part))
    (rs : List Redirect) : Reader Node := do
  match n with
  | 0 => unexpected
  | n + 1 =>
    skipBlanks
    let cs ← rest
    match redirectStart? cs with
    | some (fd, left) =>
      passTo left
      let r ← redirect n fd
      simple n line assigns words (rs ++ [r])
    | none =>
      match cs with
      | [] => return .simple line assigns words rs
      | c :: _ =>
        if c = '(' then
          match words with
          | [w] =>
            skip 1
            expectChar ')'
            let name := fixedText w
            if !isName name || hasQuotes w then fail .functionName
            skipLines n
            return .define (String.ofList name) (← command n)
          | _ => unexpected
        else if endsWord c then return .simple line assigns words rs
        else if words.isEmpty then
          match assignment? cs with
          | some name =>
            skip (name.length + 1)
            let value ← parts n false .word
            simple n line (assigns ++ [(name, value)]) words rs
          | none =>
            let w ← parts n false .word
            simple n line assigns [w] rs
        else
          let w ← parts n false .word
          simple n line assigns (words ++ [w]) rs

/-- What follows `if` or `elif`. -/
def choice (n : Nat) : Reader Node := do
  match n with
  | 0 => unexpected
  | n + 1 =>
    let condition ← list n false
    expectWord n "then"
    let yes ← list n false
    skipLines n
    match ← reservedWord? with
    | some "elif" => skip 4; return .choice condition yes (← choice n)
    | some "else" =>
      skip 4
      let no ← list n false
      expectWord n "fi"
      return .choice condition yes no
    | _ => expectWord n "fi"; return .choice condition yes (.sequence [])

def loop (n : Nat) (whileTrue : Bool) : Reader Node := do
  match n with
  | 0 => unexpected
  | n + 1 =>
    let condition ← list n false
    expectWord n "do"
    let body ← list n false
    expectWord n "done"
    return .loop whileTrue condition body

def each (n : Nat) : Reader Node := do
  match n with
  | 0 => unexpected
  | n + 1 =>
    skipBlanks
    let name := (← rest).takeWhile fun c => !endsWord c
    if !isName name then fail .loopVariable
    skip name.length
    skipLines n
    let words ← if (← reservedWord?) = some "in" then do
        skip 2
        pure (some (← wordsOfLine n))
      else pure none
    skipBlanks
    match ← rest with
    | ';' :: _ => skip 1
    | _ => pure ()
    expectWord n "do"
    let body ← list n false
    expectWord n "done"
    return .each (String.ofList name) words body

/-- Words up to the end of a command. -/
def wordsOfLine (n : Nat) : Reader (List (List Part)) := do
  match n with
  | 0 => unexpected
  | n + 1 =>
    skipBlanks
    match ← rest with
    | [] => return []
    | c :: _ =>
      if endsWord c then return []
      else
        let w ← parts n false .word
        return w :: (← wordsOfLine n)

def select (n : Nat) : Reader Node := do
  match n with
  | 0 => unexpected
  | n + 1 =>
    let word ← target n
    expectWord n "in"
    return .select word (← arms n)

/-- The arms of a selection with the word that closes it. -/
def arms (n : Nat) : Reader (List (List (List Part) × Node)) := do
  match n with
  | 0 => unexpected
  | n + 1 =>
    skipLines n
    if (← reservedWord?) = some "esac" then
      skip 4
      return []
    else
      match ← rest with
      | '(' :: _ => skip 1
      | [] => expecting ")"
      | _ => pure ()
      let ps ← patterns n
      let body ← list n true
      skipLines n
      match ← rest with
      | ';' :: ';' :: _ =>
        skip 2
        return (ps, body) :: (← arms n)
      | _ =>
        expectWord n "esac"
        return [(ps, body)]

/-- The patterns of an arm with the parenthesis behind them. -/
def patterns (n : Nat) : Reader (List (List Part)) := do
  match n with
  | 0 => unexpected
  | n + 1 =>
    let p ← target n
    skipBlanks
    match ← rest with
    | '|' :: _ =>
      skip 1
      return p :: (← patterns n)
    | _ =>
      expectChar ')'
      return [p]

end

/-- The commands of the next line that has any, and what is left. -/
def Source.next (s : Source) : Except BadScript (Option (Node × Source)) :=
  let bound := 40 * s.rest.length + 40
  let read : Reader (Option Node) := do
    skipLines s.rest.length
    if (← Reader.rest).isEmpty then return none
    return some (.sequence (← lineOfCommands bound))
  match read.run s with
  | .error e => .error e
  | .ok (none, _) => .ok none
  | .ok (some n, s) => .ok (some (n, s))

end Shell
end Dashboards
