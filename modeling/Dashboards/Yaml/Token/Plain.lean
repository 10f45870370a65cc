import Dashboards.Yaml.Token
import Dashboards.Yaml.Token.Gap

/-!
# Plain scalars

A scalar without quotes is made of words with gaps between them; it ends before `: `, before ` #`,
at a document mark, at a line that is not indented enough, and inside brackets at the characters
that structure them.
-/

namespace Dashboards
namespace Yaml
namespace Plain

def context : String := "while scanning a plain scalar"

def isFlowChar (c : Char) : Bool :=
  c = ',' || c = '[' || c = ']' || c = '\x7b' || c = '\x7d'

/-- The characters up to the end of a word, with a flag for a colon that may not stand there. -/
def word (inFlow : Bool) : List Char → List Char × Bool
  | [] => ([], false)
  | x :: r =>
    let next := r.head?
    if isBlank x || isBreak x then ([], false)
    else if inFlow && x = ':' && next.any (fun y => isFlowChar y || y = '?') then ([], true)
    else if x = ':' && next.all (fun y => isBlank y || isBreak y) then ([], false)
    else if inFlow && isFlowChar x then ([], false)
    else
      let (w, bad) := word inFlow r
      (x :: w, bad)

structure Result where
  text : String
  stop : Mark
  /-- The scalar ended in a gap with a line break. -/
  newLine : Bool
  cursor : Cursor

/-- Reads word after word; `gap` stands before the next word, `stop` behind the last one. -/
def readWords (inFlow : Bool) (indent : Nat) (start : Mark) :
    Nat → String → Gap → Mark → Cursor → Except Flaw Result
  | 0, text, gap, stop, c => .ok ⟨text, stop, gap.broken, c⟩
  | fuel + 1, text, gap, stop, c =>
    if c.atDocumentMark || c.is '#' then .ok ⟨text, stop, gap.broken, c⟩
    else
      let (w, bad) := word inFlow c.rest
      let behind := c.skipMany w.length
      if bad then .error (behind.flaw context start "found unexpected ':'")
      else
        let (text, stop) :=
          if w.isEmpty then (text, stop) else (text ++ gap.joined ++ String.ofList w, behind.mark)
        let gap := if w.isEmpty then gap else {}
        if !behind.sees (fun x => isBlank x || isBreak x) then
          .ok ⟨text, stop, gap.broken, behind⟩
        else
          let (badTab, gap, c') := Gap.read behind (some indent) gap
          if badTab then
            .error (c'.flaw context start "found a tab character that violates indentation")
          else if !inFlow && c'.mark.column < indent then .ok ⟨text, stop, gap.broken, c'⟩
          else readWords inFlow indent start fuel text gap stop c'

/-- A plain scalar whose lines after the first start at the column `indent` or further right. -/
def read (inFlow : Bool) (indent : Nat) (c : Cursor) : Except Flaw Result :=
  readWords inFlow indent c.mark (c.rest.length + 1) "" {} c.mark c

end Plain
end Yaml
end Dashboards
