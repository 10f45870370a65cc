import Dashboards.Shell.Script

/-!
# Tokens of scripts

* `Source`    a text that is being read, with the number of its line;
* `Reader`    reads a source, or fails with the fault and its line;
* the characters that end words, the words with a meaning of their own, and the pieces of text
  between parentheses, backquotes and delimiters.
-/

namespace Dashboards
namespace Shell

structure Source where
  rest : List Char
  line : Nat := 1

inductive Fault where
  | unexpected (token : String)
  | expecting (token expected : String)
  | openQuote
  | openBrace
  | openBackquote
  | loopVariable
  | functionName
deriving DecidableEq

def Fault.message : Fault → String
  | .unexpected token => token ++ " unexpected"
  | .expecting token expected => token ++ " unexpected (expecting \"" ++ expected ++ "\")"
  | .openQuote => "Unterminated quoted string"
  | .openBrace => "Missing '\x7d'"
  | .openBackquote => "EOF in backquote substitution"
  | .loopVariable => "Bad for loop variable"
  | .functionName => "Bad function name"

/-- A fault with the line it was found in. -/
structure BadScript where
  line : Nat
  fault : Fault

abbrev Reader := StateT Source (Except BadScript)

namespace Reader

def fail (f : Fault) : Reader α := do throw ⟨(← get).line, f⟩

def rest : Reader (List Char) := do return (← get).rest

/-- Goes on with what is left, counting the lines that have been passed. -/
def passTo (cs : List Char) : Reader Unit :=
  modify fun s =>
    let passed := s.rest.take (s.rest.length - cs.length)
    ⟨cs, s.line + passed.count '\n'⟩

def skip (n : Nat) : Reader Unit := do passTo ((← rest).drop n)

/-- Reads another text in between. -/
def within (text : List Char) (r : Reader α) : Reader α := do
  let s ← get
  set (⟨text, s.line⟩ : Source)
  let a ← r
  set s
  return a

end Reader

open Reader

/-! ### characters and tokens -/

def isBlank (c : Char) : Bool := c = ' ' || c = '\t'

def isNameStart (c : Char) : Bool := c.isAlpha || c = '_'

def isNameChar (c : Char) : Bool := c.isAlphanum || c = '_'

def isName : List Char → Bool
  | [] => false
  | c :: cs => isNameStart c && cs.all isNameChar

/-- Characters that end a word. -/
def endsWord (c : Char) : Bool :=
  isBlank c || c = '\n' || c = ';' || c = '&' || c = '|' || c = '<' || c = '>' || c = '(' || c = ')'

def backquote : Char := '\x60'

def isQuoting (c : Char) : Bool :=
  c = '\\' || c = '\x27' || c = '"' || c = '$' || c = backquote

/-- Words that have a meaning of their own at the head of a command. -/
def reserved : List String :=
  ["!", "case", "do", "done", "elif", "else", "esac", "fi", "for", "if", "in", "then", "until",
    "while", "\x7b", "\x7d"]

/-- Reserved words that end a list of commands. -/
def closing : List String := ["then", "do", "done", "fi", "elif", "else", "esac", "\x7d"]

/-- The word at the head of a text if it is free of quotes and expansions. -/
def bareWord (cs : List Char) : Option String :=
  let w := cs.takeWhile fun c => !endsWord c && !isQuoting c
  match cs.drop w.length with
  | [] => if w.isEmpty then none else some (String.ofList w)
  | c :: _ => if w.isEmpty || !endsWord c then none else some (String.ofList w)

def skipComment (cs : List Char) : List Char :=
  match cs with
  | '#' :: cs => cs.dropWhile (· ≠ '\n')
  | _ => cs

def dropBlanks : List Char → List Char
  | '\\' :: '\n' :: cs => dropBlanks cs
  | c :: cs => if isBlank c then dropBlanks cs else c :: cs
  | [] => []

def skipBlanks : Reader Unit := do passTo (skipComment (dropBlanks (← rest)))

/-- Skips blanks, comments and ends of lines. -/
def skipLines : Nat → Reader Unit
  | 0 => pure ()
  | n + 1 => do
    skipBlanks
    match ← rest with
    | '\n' :: _ => skip 1; skipLines n
    | _ => pure ()

/-- How the next token is called in a message. -/
def tokenName (cs : List Char) : String :=
  match cs with
  | [] => "end of file"
  | '\n' :: _ => "newline"
  | ';' :: ';' :: _ => "\";;\""
  | ';' :: _ => "\";\""
  | '&' :: '&' :: _ => "\"&&\""
  | '&' :: _ => "\"&\""
  | '|' :: '|' :: _ => "\"||\""
  | '|' :: _ => "\"|\""
  | '(' :: _ => "\"(\""
  | ')' :: _ => "\")\""
  | '<' :: _ => "redirection"
  | '>' :: _ => "redirection"
  | cs =>
    match bareWord cs with
    | some w => if reserved.contains w then "\"" ++ w ++ "\"" else "word"
    | none => "word"

def unexpected : Reader α := do fail (.unexpected (tokenName (← rest)))

def expecting (s : String) : Reader α := do fail (.expecting (tokenName (← rest)) s)

/-- The reserved word at the head, if there is one. -/
def reservedWord? : Reader (Option String) := do
  return (bareWord (← rest)).filter reserved.contains

/-- Consumes a reserved word that has to stand here. -/
def expectWord (n : Nat) (w : String) : Reader Unit := do
  skipLines n
  if (← reservedWord?) = some w then skip w.length else expecting w

def expectChar (c : Char) : Reader Unit := do
  skipBlanks
  match ← rest with
  | d :: _ => if d = c then skip 1 else expecting (String.singleton c)
  | [] => expecting (String.singleton c)

/-- The list of commands ends here. -/
def atClosing : Reader Bool := do
  match ← rest with
  | [] => return true
  | ')' :: _ => return true
  | ';' :: ';' :: _ => return true
  | cs => return (bareWord cs).any closing.contains

/-- The text of a sum and what follows it, from behind the two parentheses that open it. -/
def sumText : List Char → Nat → Option (List Char × List Char)
  | [], _ => none
  | ')' :: ')' :: cs, 0 => some ([], cs)
  | ')' :: _, 0 => none
  | c :: cs, depth =>
    let depth := if c = '(' then depth + 1 else if c = ')' then depth - 1 else depth
    (sumText cs depth).map fun (t, r) => (c :: t, r)

/-- The text up to the closing backquote, with its escapes removed, and what follows. -/
def backquoteText : List Char → Option (List Char × List Char)
  | [] => none
  | '\\' :: c :: cs =>
    (backquoteText cs).map fun (t, r) =>
      (if c = '\\' || c = '$' || c = backquote then c :: t else '\\' :: c :: t, r)
  | c :: cs =>
    if c = backquote then some ([], cs)
    else (backquoteText cs).map fun (t, r) => (c :: t, r)

/-- The lines up to the one that is the delimiter, and what follows that. -/
def hereText (strip : Bool) (delimiter : List Char) : Nat → List Char → List Char × List Char
  | 0, cs => (cs, [])
  | n + 1, cs =>
    if cs.isEmpty then ([], [])
    else
      let line := cs.takeWhile (· ≠ '\n')
      let left := (cs.drop line.length).drop 1
      let line := if strip then line.dropWhile (· = '\t') else line
      if line = delimiter then ([], left)
      else
        let (text, left) := hereText strip delimiter n left
        (line ++ '\n' :: text, left)

/-- Where the reading of parts ends: at the end of a word, at the quote or brace that closes them,
or at the end of the text. -/
inductive Until where
  | word
  | quote
  | brace
  | textEnd
deriving DecidableEq

def Until.stops (u : Until) (c : Char) : Bool :=
  match u with
  | .word => endsWord c
  | .quote => c = '"'
  | .brace => c = '\x7d'
  | .textEnd => false

/-- A character that a backslash between quotes takes the meaning from. -/
def Until.escapable (u : Until) (c : Char) : Bool :=
  c = '$' || c = backquote || c = '\\' || (c = '"' && u ≠ .textEnd) || (c = '\x7d' && u = .brace)

def isSpecialName (c : Char) : Bool :=
  c = '@' || c = '*' || c = '#' || c = '?' || c = '-' || c = '$' || c = '!' || c.isDigit

def plainText (quoted : Bool) (cs : List Char) : Part :=
  if quoted then .literal (String.ofList cs) else .plain (String.ofList cs)

/-- The text of a word that has no expansions. -/
def fixedText : List Part → List Char
  | [] => []
  | .plain t :: ps => t.toList ++ fixedText ps
  | .literal t :: ps => t.toList ++ fixedText ps
  | .quoted qs :: ps => (fixedText qs) ++ fixedText ps
  | _ :: ps => fixedText ps

/-- A word, or a part of one, holds a quote. -/
def hasQuotes (ps : List Part) : Bool :=
  ps.any fun
    | .literal _ => true
    | .quoted _ => true
    | _ => false

/-- The name in an assignment, the value of which follows. -/
def assignment? (cs : List Char) : Option String :=
  let name := cs.takeWhile isNameChar
  match cs.drop name.length with
  | '=' :: _ => if isName name then some (String.ofList name) else none
  | _ => none

/-- The descriptor and the operator of a redirection. -/
def redirectStart? (cs : List Char) : Option (Option Nat × List Char) :=
  let digits := cs.takeWhile Char.isDigit
  match cs.drop digits.length with
  | '<' :: r => some (descriptor digits, '<' :: r)
  | '>' :: r => some (descriptor digits, '>' :: r)
  | _ => none
where
  descriptor (digits : List Char) : Option Nat :=
    if digits.isEmpty then none
    else some (digits.foldl (fun n c => n * 10 + (c.toNat - 48)) 0)

end Shell
end Dashboards
