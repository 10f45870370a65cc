import Dashboards.Text.Utf8
import Dashboards.Yaml.Fault

/-!
# Walking over the characters of a document

A cursor is the text that is left together with the place where it begins. `Cursor.skip` passes one
character, `Cursor.skipLine` one line break; `Cursor.readLine` also says what the break stands for
in a scalar.
-/

namespace Dashboards
namespace Yaml

structure Cursor where
  rest : List Char
  mark : Mark

def isBreak (c : Char) : Bool :=
  c = '\r' || c = '\n' || c.toNat = 0x85 || c.toNat = 0x2028 || c.toNat = 0x2029

def isBlank (c : Char) : Bool := c = ' ' || c = '\t'

/-- Letters, digits, `_` and `-`: the characters of anchors and directive names. -/
def isWordChar (c : Char) : Bool := c.isAlphanum || c = '_' || c = '-'

def hexValue? (c : Char) : Option Nat :=
  if c.isDigit then some (c.toNat - 48)
  else if 'a' ≤ c && c ≤ 'f' then some (c.toNat - 87)
  else if 'A' ≤ c && c ≤ 'F' then some (c.toNat - 55)
  else none

namespace Cursor

def ofString (s : String) : Cursor := ⟨s.toList, Mark.first⟩

def peek (c : Cursor) : Option Char := c.rest.head?

def peekAt (c : Cursor) (n : Nat) : Option Char := c.rest[n]?

def atEnd (c : Cursor) : Bool := c.rest.isEmpty

def sees (c : Cursor) (p : Char → Bool) (n : Nat := 0) : Bool := (c.peekAt n).any p

def is (c : Cursor) (x : Char) (n : Nat := 0) : Bool := c.peekAt n == some x

/-- A line break or the end of the text. -/
def breakOrEnd (c : Cursor) (n : Nat := 0) : Bool := (c.peekAt n).all isBreak

/-- A blank, a line break or the end of the text. -/
def blankOrEnd (c : Cursor) (n : Nat := 0) : Bool :=
  (c.peekAt n).all fun x => isBlank x || isBreak x

def skip (c : Cursor) : Cursor :=
  match c.rest with
  | [] => c
  | _ :: r => ⟨r, { c.mark with index := c.mark.index + 1, column := c.mark.column + 1 }⟩

def skipMany (c : Cursor) : Nat → Cursor
  | 0 => c
  | n + 1 => c.skip.skipMany n

def skipLine (c : Cursor) : Cursor :=
  match c.rest with
  | '\r' :: '\n' :: r => ⟨r, ⟨c.mark.index + 2, c.mark.line + 1, 0⟩⟩
  | x :: r => if isBreak x then ⟨r, ⟨c.mark.index + 1, c.mark.line + 1, 0⟩⟩ else c
  | [] => c

/-- A line break reads as a line feed, except for the two separators that stand for themselves. -/
def readLine (c : Cursor) : String × Cursor :=
  match c.rest with
  | x :: _ =>
    if !isBreak x then ("", c)
    else if x.toNat = 0x2028 || x.toNat = 0x2029 then (String.singleton x, c.skipLine)
    else ("\n", c.skipLine)
  | [] => ("", c)

/-- The characters at the front that satisfy `p`, and what follows them. -/
def takeWhile (c : Cursor) (p : Char → Bool) : String × Cursor :=
  let front := c.rest.takeWhile p
  (String.ofList front, c.skipMany front.length)

def skipWhile (c : Cursor) (p : Char → Bool) : Cursor := (c.takeWhile p).2

def skipComment (c : Cursor) : Cursor :=
  if c.is '#' then c.skipWhile (!isBreak ·) else c

/-- `---` or `...` at the start of a line, followed by a blank, a break or the end. -/
def atDocumentMark (c : Cursor) : Bool :=
  c.mark.column = 0 && (c.rest.take 3 = ['-', '-', '-'] || c.rest.take 3 = ['.', '.', '.'])
    && c.blankOrEnd 3

def flaw (c : Cursor) (context : String) (start : Mark) (problem : String) : Flaw :=
  { problem := problem, mark := c.mark, context := some (context, start) }

end Cursor

/-- Characters that may stand in a document. -/
def isAdmissible (c : Char) : Bool :=
  let n := c.toNat
  n = 9 || n = 0xA || n = 0xD || (0x20 ≤ n && n ≤ 0x7E) || n = 0x85 || (0xA0 ≤ n && n ≤ 0xD7FF)
    || (0xE000 ≤ n && n ≤ 0xFFFD) || 0x10000 ≤ n

/-- The first inadmissible character, by its byte offset. -/
def inadmissible? (s : String) : Option Flaw :=
  let front := s.toList.takeWhile isAdmissible
  if front.length = s.toList.length then none
  else some { problem := "control characters are not allowed", mark := Mark.first,
              offset := Text.byteSize front }

end Yaml
end Dashboards
