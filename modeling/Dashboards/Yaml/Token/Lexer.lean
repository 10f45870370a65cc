import Dashboards.Yaml.Token.Block
import Dashboards.Yaml.Token.Plain
import Dashboards.Yaml.Token.Quoted
import Dashboards.Yaml.Token.Tag

/-!
# The tokens of a text

* `Candidate`   a place where a mapping key may have begun; it is confirmed by a `:` on its line;
* `Lexer`       the state: the tokens so far, the open brackets and the indentation;
* `Lexer.step`  reads one token, with the block marks that its column calls for;
* `Token.scan`  all tokens up to the end of the text or to the first flaw.

A confirmed candidate puts its `key` token, and a block start, in front of tokens that are already
there. So after a flaw only the tokens before the first open candidate count.
-/

namespace Dashboards
namespace Yaml

structure Candidate where
  required : Bool
  /-- The number of tokens before the key. -/
  position : Nat
  mark : Mark

structure Lexer where
  cursor : Cursor
  tokens : Array Token := #[]
  /-- The column of the innermost block collection. -/
  indent : Option Nat := none
  outer : List (Option Nat) := []
  /-- One entry for each open bracket, the innermost first, and one for the text around them. -/
  candidates : List (Option Candidate) := [none]
  keyAllowed : Bool := true

namespace Lexer

def inFlow (l : Lexer) : Bool := l.candidates.length > 1

def mark (l : Lexer) : Mark := l.cursor.mark

def emit (l : Lexer) (kind : TokenKind) (start stop : Mark) : Lexer :=
  { l with tokens := l.tokens.push ⟨kind, start, stop⟩ }

def emitAt (l : Lexer) (position : Nat) (kind : TokenKind) (mark : Mark) : Lexer :=
  { l with tokens := l.tokens.insertIdx! (min position l.tokens.size) ⟨kind, mark, mark⟩ }

def lostKey (l : Lexer) (c : Candidate) : Flaw :=
  l.cursor.flaw "while scanning a simple key" c.mark "could not find expected ':'"

def isStale (l : Lexer) (c : Candidate) : Bool :=
  c.mark.line < l.mark.line || c.mark.index + 1024 < l.mark.index

/-- Gives up the candidates on earlier lines or too far back; a required one must not be given up.
The outermost are looked at first. -/
def dropStale (l : Lexer) : Except Flaw Lexer :=
  match l.candidates.reverse.findSome? fun
    | some c => if c.required && l.isStale c then some c else none
    | none => none with
  | some c => .error (l.lostKey c)
  | none => .ok { l with candidates := l.candidates.map (·.filter (!l.isStale ·)) }

/-- Gives up the candidate of the innermost bracket. -/
def dropCandidate (l : Lexer) : Except Flaw Lexer :=
  match l.candidates with
  | some c :: cs =>
    if c.required then .error (l.lostKey c) else .ok { l with candidates := none :: cs }
  | _ => .ok l

/-- The token that comes next may turn out to be a key. -/
def addCandidate (l : Lexer) : Except Flaw Lexer :=
  if !l.keyAllowed then .ok l
  else match l.dropCandidate with
    | .error e => .error e
    | .ok l =>
      let required := !l.inFlow && l.indent = some l.mark.column
      .ok { l with candidates := some ⟨required, l.tokens.size, l.mark⟩ :: l.candidates.drop 1 }

/-- Opens a block collection at a column that lies further right than the innermost one. -/
def openBlock (l : Lexer) (column : Nat) (position : Option Nat) (kind : TokenKind) (mark : Mark) :
    Lexer :=
  if l.inFlow || l.indent.any (column ≤ ·) then l
  else
    let l := { l with outer := l.indent :: l.outer, indent := some column }
    match position with
    | none => l.emit kind mark mark
    | some n => l.emitAt n kind mark

/-- Ends the block collections that lie further right than the column; `none` ends all. -/
def closeBlocks (l : Lexer) (column : Option Nat) : Lexer :=
  if l.inFlow then l
  else
    let all := l.indent :: l.outer
    let ended := all.takeWhile fun
      | some n => column.all (· < n)
      | none => false
    let rest := all.drop ended.length
    let l := ended.foldl (fun l _ => l.emit .blockEnd l.mark l.mark) l
    { l with indent := rest.headD none, outer := rest.drop 1 }

/-- Passes blanks, comments and line breaks. A tab does not indent. -/
def skipToToken : Nat → Lexer → Lexer
  | 0, l => l
  | fuel + 1, l =>
    let c := l.cursor
    let c := if c.mark.column = 0 && c.is (Char.ofNat 0xFEFF) then c.skip else c
    let tabs := l.inFlow || !l.keyAllowed
    let c := (c.skipWhile fun x => x = ' ' || (tabs && x = '\t')).skipComment
    if c.sees isBreak then
      skipToToken fuel { l with cursor := c.skipLine, keyAllowed := l.keyAllowed || !l.inFlow }
    else { l with cursor := c }

/-- A token of `n` characters. -/
def indicator (l : Lexer) (kind : TokenKind) (n : Nat := 1) : Lexer :=
  let c := l.cursor.skipMany n
  { l with cursor := c }.emit kind l.mark c.mark

def refuse (l : Lexer) (problem : String) : Except Flaw Lexer :=
  .error { problem := problem, mark := l.mark }

def streamEnd (l : Lexer) : Except Flaw Lexer := do
  let m := l.mark
  let l := if m.column = 0 then l
    else { l with cursor := { l.cursor with mark := { m with line := m.line + 1, column := 0 } } }
  let l ← (l.closeBlocks none).dropCandidate
  return { l with keyAllowed := false }.emit .streamEnd l.mark l.mark

def directive (l : Lexer) : Except Flaw Lexer := do
  let l ← (l.closeBlocks none).dropCandidate
  let (kind, stop, c) ← Directive.read l.cursor
  return { l with cursor := c, keyAllowed := false }.emit kind l.mark stop

def documentMark (l : Lexer) : Except Flaw Lexer := do
  let l ← (l.closeBlocks none).dropCandidate
  let kind := if l.cursor.is '-' then TokenKind.documentStart else .documentEnd
  return { l with keyAllowed := false }.indicator kind 3

def openBracket (l : Lexer) (kind : TokenKind) : Except Flaw Lexer := do
  let l ← l.addCandidate
  return { l with candidates := none :: l.candidates, keyAllowed := true }.indicator kind

def closeBracket (l : Lexer) (kind : TokenKind) : Except Flaw Lexer := do
  let l ← l.dropCandidate
  let cs := if l.inFlow then l.candidates.drop 1 else l.candidates
  return { l with candidates := cs, keyAllowed := false }.indicator kind

def flowEntry (l : Lexer) : Except Flaw Lexer := do
  let l ← l.dropCandidate
  return { l with keyAllowed := true }.indicator .flowEntry

def blockEntry (l : Lexer) : Except Flaw Lexer := do
  if !l.inFlow && !l.keyAllowed then
    l.refuse "block sequence entries are not allowed in this context"
  else
    let l ← (l.openBlock l.mark.column none .blockSequenceStart l.mark).dropCandidate
    return { l with keyAllowed := true }.indicator .blockEntry

def key (l : Lexer) : Except Flaw Lexer := do
  if !l.inFlow && !l.keyAllowed then l.refuse "mapping keys are not allowed in this context"
  else
    let l ← (l.openBlock l.mark.column none .blockMappingStart l.mark).dropCandidate
    return { l with keyAllowed := !l.inFlow }.indicator .key

def value (l : Lexer) : Except Flaw Lexer :=
  match l.candidates with
  | some c :: cs =>
    let l := { l with candidates := none :: cs, keyAllowed := false }
    let l := l.emitAt c.position .key c.mark
    .ok ((l.openBlock c.mark.column (some c.position) .blockMappingStart c.mark).indicator .value)
  | _ =>
    if l.inFlow then .ok ({ l with keyAllowed := false }.indicator .value)
    else if !l.keyAllowed then l.refuse "mapping values are not allowed in this context"
    else .ok ((l.openBlock l.mark.column none .blockMappingStart l.mark).indicator .value)

/-- An anchor or alias. -/
def anchor (l : Lexer) (isAlias : Bool) : Except Flaw Lexer := do
  let l ← l.addCandidate
  let (name, c) := l.cursor.skip.takeWhile isWordChar
  if name.isEmpty || !(c.blankOrEnd || c.sees "?:,]\x7d%@`".toList.contains) then
    throw (c.flaw (if isAlias then "while scanning an alias" else "while scanning an anchor") l.mark
      "did not find expected alphabetic or numeric character")
  let kind := if isAlias then TokenKind.alias name else .anchor name
  return { l with cursor := c, keyAllowed := false }.emit kind l.mark c.mark

def tag (l : Lexer) : Except Flaw Lexer := do
  let l ← l.addCandidate
  let (name, c) ← Tag.read l.inFlow l.cursor
  return { l with cursor := c, keyAllowed := false }.emit (.tag name) l.mark c.mark

def blockScalar (l : Lexer) (literal : Bool) : Except Flaw Lexer := do
  let l ← l.dropCandidate
  let (text, stop, c) ← Block.read literal l.indent l.cursor
  return { l with cursor := c, keyAllowed := true }.emit (.scalar text .block) l.mark stop

def quotedScalar (l : Lexer) (single : Bool) : Except Flaw Lexer := do
  let l ← l.addCandidate
  let (text, c) ← QuotedScalar.read single l.cursor
  return { l with cursor := c, keyAllowed := false }.emit (.scalar text .quoted) l.mark c.mark

def plainScalar (l : Lexer) : Except Flaw Lexer := do
  let l ← l.addCandidate
  let r ← Plain.read l.inFlow (l.indent.elim 0 (· + 1)) l.cursor
  let read : Lexer := { l with cursor := r.cursor, keyAllowed := r.newLine }
  return read.emit (.scalar r.text .plain) l.mark r.stop

def isIndicator (c : Char) : Bool := "-?:,[]\x7b\x7d#&*!|>'\"%@`".toList.contains c

/-- The token at the cursor, told by its first characters. -/
def fetch (l : Lexer) : Except Flaw Lexer :=
  let c := l.cursor
  match c.peek with
  | none => l.streamEnd
  | some x =>
    if x = '%' && c.mark.column = 0 then l.directive
    else if c.atDocumentMark then l.documentMark
    else if x = '[' then l.openBracket .flowSequenceStart
    else if x = '\x7b' then l.openBracket .flowMappingStart
    else if x = ']' then l.closeBracket .flowSequenceEnd
    else if x = '\x7d' then l.closeBracket .flowMappingEnd
    else if x = ',' then l.flowEntry
    else if x = '-' && c.blankOrEnd 1 then l.blockEntry
    else if x = '?' && (l.inFlow || c.blankOrEnd 1) then l.key
    else if x = ':' && (l.inFlow || c.blankOrEnd 1) then l.value
    else if x = '*' then l.anchor true
    else if x = '&' then l.anchor false
    else if x = '!' then l.tag
    else if x = '|' && !l.inFlow then l.blockScalar true
    else if x = '>' && !l.inFlow then l.blockScalar false
    else if x = '\'' then l.quotedScalar true
    else if x = '"' then l.quotedScalar false
    else if !(isBlank x || isBreak x || isIndicator x) || x = '-' || x = '?' || x = ':' then
      l.plainScalar
    else .error (c.flaw "while scanning for the next token" l.mark
      "found character that cannot start any token")

def step (l : Lexer) : Except Flaw Lexer := do
  let l ← (skipToToken (l.cursor.rest.length + 1) l).dropStale
  let l ← (l.closeBlocks (some l.mark.column)).fetch
  l.dropStale

/-- The tokens that nothing can be put in front of any more. -/
def settled (l : Lexer) : List Token :=
  let bound := l.candidates.foldl (fun n c => c.elim n fun c => min n c.position) l.tokens.size
  l.tokens.toList.take bound

def isDone (l : Lexer) : Bool := l.tokens.back?.any (·.kind = .streamEnd)

def run : Nat → Lexer → List Token × Option Flaw
  | 0, l => (l.settled, none)
  | fuel + 1, l =>
    if l.isDone then (l.tokens.toList, none)
    else match l.step with
      | .ok l => run fuel l
      | .error e => (l.settled, some e)

end Lexer

/-- The tokens of a text, and the flaw that ends them if there is one. Every step reads a character
or ends the text. -/
def Token.scan (s : String) : List Token × Option Flaw :=
  let l : Lexer := { cursor := .ofString s }
  (l.emit .streamStart l.mark l.mark).run (s.length + 2)

end Yaml
end Dashboards
