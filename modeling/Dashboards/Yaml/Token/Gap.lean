import Dashboards.Yaml.Cursor

/-!
# Blanks and line breaks inside a scalar

A `Gap` is what stands between two words of a scalar. `Gap.joined` folds it: blanks on one line
stay, one break reads as a blank, and of more breaks all but the first stay.
-/

namespace Dashboards
namespace Yaml

structure Gap where
  blanks : String := ""
  /-- A line ended in this gap. -/
  broken : Bool := false
  firstBreak : String := ""
  moreBreaks : String := ""

def Gap.isEmpty (g : Gap) : Bool := !g.broken && g.blanks.isEmpty

def Gap.joined (g : Gap) : String :=
  if !g.broken then g.blanks
  else if g.firstBreak = "\n" then (if g.moreBreaks.isEmpty then " " else g.moreBreaks)
  else g.firstBreak ++ g.moreBreaks

/-- Reads blanks and breaks. `indent` is the column below which a tab may not stand in a fresh line,
if there is one; the result is a flag for such a tab, the gap and the cursor behind it. -/
def readGap (indent : Option Nat) : Nat → Gap → Cursor → Bool × Gap × Cursor
  | 0, g, c => (false, g, c)
  | fuel + 1, g, c =>
    match c.peek with
    | none => (false, g, c)
    | some x =>
      if isBlank x then
        if g.broken && x = '\t' && indent.any (c.mark.column < ·) then (true, g, c)
        else if g.broken then readGap indent fuel g c.skip
        else readGap indent fuel { g with blanks := g.blanks.push x } c.skip
      else if isBreak x then
        let (text, c') := c.readLine
        if g.broken then readGap indent fuel { g with moreBreaks := g.moreBreaks ++ text } c'
        else readGap indent fuel { g with blanks := "", broken := true, firstBreak := text } c'
      else (false, g, c)

def Gap.read (c : Cursor) (indent : Option Nat) (g : Gap := {}) : Bool × Gap × Cursor :=
  readGap indent (c.rest.length + 1) g c

end Yaml
end Dashboards
