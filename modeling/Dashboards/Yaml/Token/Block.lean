import Dashboards.Yaml.Token
import Dashboards.Yaml.Cursor

/-!
# Block scalars

After `|` lines are kept, after `>` they are folded. An indicator tells what becomes of the breaks
at the end (`+` keeps them, `-` drops them, otherwise one stays), and a digit gives the
indentation.
-/

namespace Dashboards
namespace Yaml
namespace Block

def context : String := "while scanning a block scalar"

inductive Chomp where
  | strip
  | clip
  | keep
deriving DecidableEq

def chomp? : Option Char → Option Chomp
  | some '+' => some .keep
  | some '-' => some .strip
  | _ => none

structure Header where
  chomp : Chomp
  indent : Option Nat
  cursor : Cursor

def digit? (start : Mark) (c : Cursor) : Except Flaw (Option Nat × Cursor) :=
  match c.peek with
  | some x =>
    if x = '0' then .error (c.flaw context start "found an indentation indicator equal to 0")
    else if x.isDigit then .ok (some (x.toNat - 48), c.skip)
    else .ok (none, c)
  | none => .ok (none, c)

/-- The indicators behind `|` or `>`, in either order. -/
def readIndicators (start : Mark) (c : Cursor) : Except Flaw Header :=
  match chomp? c.peek with
  | some ch =>
    match digit? start c.skip with
    | .error e => .error e
    | .ok (n, c) => .ok ⟨ch, n, c⟩
  | none =>
    match digit? start c with
    | .error e => .error e
    | .ok (none, c) => .ok ⟨.clip, none, c⟩
    | .ok (some n, c) =>
      match chomp? c.peek with
      | some ch => .ok ⟨ch, some n, c.skip⟩
      | none => .ok ⟨.clip, some n, c⟩

/-- The indicators and the rest of their line. -/
def readHeader (start : Mark) (c : Cursor) : Except Flaw Header :=
  match readIndicators start c with
  | .error e => .error e
  | .ok h =>
    let c := (h.cursor.skipWhile isBlank).skipComment
    if !c.breakOrEnd then
      .error (c.flaw context start "did not find expected comment or line break")
    else .ok { h with cursor := c.skipLine }

structure Breaks where
  text : String
  widest : Nat
  stop : Mark
  cursor : Cursor

/-- Passes the indentation of a line, up to the column `indent` if it is known. -/
def skipIndent (indent : Option Nat) : Nat → Cursor → Cursor
  | 0, c => c
  | fuel + 1, c =>
    if c.is ' ' && indent.all (c.mark.column < ·) then skipIndent indent fuel c.skip else c

/-- Reads lines that are empty but for their indentation. -/
def readBreaks (start : Mark) (indent : Option Nat) :
    Nat → String → Nat → Mark → Cursor → Except Flaw Breaks
  | 0, text, widest, stop, c => .ok ⟨text, widest, stop, c⟩
  | fuel + 1, text, widest, stop, c =>
    let c := skipIndent indent (c.rest.length + 1) c
    let widest := max widest c.mark.column
    if c.is '\t' && indent.all (c.mark.column < ·) then
      .error (c.flaw context start "found a tab character where an indentation space is expected")
    else if !c.sees isBreak then .ok ⟨text, widest, stop, c⟩
    else
      let (t, c) := c.readLine
      readBreaks start indent fuel (text ++ t) widest c.mark c

structure Lines where
  text : String
  /-- The break that ends the last line, and the empty lines behind it. -/
  lastBreak : String
  tail : String
  stop : Mark
  cursor : Cursor

/-- Reads the lines at the column `indent`; `blankLine` tells that the last one began with a blank,
which keeps its breaks from being folded. -/
def readLines (literal : Bool) (start : Mark) (indent : Nat) :
    Nat → Bool → Lines → Except Flaw Lines
  | 0, _, l => .ok l
  | fuel + 1, blankLine, l =>
    let c := l.cursor
    if c.mark.column ≠ indent || c.atEnd then .ok l
    else
      let blank := c.sees isBlank
      let between :=
        if !literal && l.lastBreak = "\n" && !blankLine && !blank then
          (if l.tail.isEmpty then " " else l.tail)
        else l.lastBreak ++ l.tail
      let (line, c) := c.takeWhile (!isBreak ·)
      let (lastBreak, c) := c.readLine
      match readBreaks start (some indent) (c.rest.length + 1) "" 0 c.mark c with
      | .error e => .error e
      | .ok b =>
        readLines literal start indent fuel blank
          ⟨l.text ++ between ++ line, lastBreak, b.text, b.stop, b.cursor⟩

/-- A block scalar inside a collection indented by `parent` columns, if there is one; the cursor
stands at the `|` or `>`. The result is its text, its end and the cursor behind it. -/
def read (literal : Bool) (parent : Option Nat) (c : Cursor) :
    Except Flaw (String × Mark × Cursor) := do
  let start := c.mark
  let h ← readHeader start c.skip
  let given := h.indent.map (· + parent.getD 0)
  let b ← readBreaks start given (h.cursor.rest.length + 1) "" 0 h.cursor.mark h.cursor
  let least := match parent with
    | some n => max (n + 1) 1
    | none => 1
  let indent := given.getD (max b.widest least)
  let l ← readLines literal start indent (b.cursor.rest.length + 1) false
    ⟨"", "", b.text, b.stop, b.cursor⟩
  let ending := match h.chomp with
    | .strip => ""
    | .clip => l.lastBreak
    | .keep => l.lastBreak ++ l.tail
  return (l.text ++ ending, l.stop, l.cursor)

end Block
end Yaml
end Dashboards
