import Dashboards.Yaml.Token
import Dashboards.Yaml.Token.Gap

/-!
# Quoted scalars

Between single quotes a quote is written twice; between double quotes a backslash starts an escape,
and one at the end of a line joins it with the next.
-/

namespace Dashboards
namespace Yaml
namespace QuotedScalar

def scanning : String := "while scanning a quoted scalar"

def parsing : String := "while parsing a quoted scalar"

/-- What an escape letter stands for. -/
def escaped? : Char → Option Char
  | '0' => some '\x00'
  | 'a' => some '\x07'
  | 'b' => some '\x08'
  | 't' => some '\t'
  | '\t' => some '\t'
  | 'n' => some '\n'
  | 'v' => some '\x0b'
  | 'f' => some '\x0c'
  | 'r' => some '\r'
  | 'e' => some '\x1b'
  | ' ' => some ' '
  | '"' => some '"'
  | '/' => some '/'
  | '\\' => some '\\'
  | 'N' => some (Char.ofNat 0x85)
  | '_' => some (Char.ofNat 0xA0)
  | 'L' => some (Char.ofNat 0x2028)
  | 'P' => some (Char.ofNat 0x2029)
  | _ => none

/-- How many hexadecimal digits follow an escape letter. -/
def codeLength? : Char → Option Nat
  | 'x' => some 2
  | 'u' => some 4
  | 'U' => some 8
  | _ => none

def hexNumber? (cs : List Char) : Option Nat :=
  cs.foldl (fun acc c => do return (← acc) * 16 + (← hexValue? c)) (some 0)

/-- One character written with a backslash; the cursor stands at the backslash. -/
def readEscape (start : Mark) (c : Cursor) : Except Flaw (Char × Cursor) :=
  match c.peekAt 1 with
  | none => .error (c.flaw parsing start "found unknown escape character")
  | some x =>
    match escaped? x, codeLength? x with
    | some y, _ => .ok (y, c.skipMany 2)
    | none, some n =>
      let c := c.skipMany 2
      let digits := c.rest.take n
      match if digits.length = n then hexNumber? digits else none with
      | none => .error (c.flaw parsing start "did not find expected hexdecimal number")
      | some v =>
        if (0xD800 ≤ v && v ≤ 0xDFFF) || v > 0x10FFFF then
          .error (c.flaw parsing start "found invalid Unicode character escape code")
        else .ok (Char.ofNat v, c.skipMany n)
    | none, none => .error (c.flaw parsing start "found unknown escape character")

/-- Reads up to a blank, a break, the closing quote or an escaped break; the flag tells that an
escaped break was passed. -/
def readWord (single : Bool) (start : Mark) :
    Nat → String → Cursor → Except Flaw (String × Bool × Cursor)
  | 0, text, c => .ok (text, false, c)
  | fuel + 1, text, c =>
    match c.peek with
    | none => .ok (text, false, c)
    | some x =>
      if isBlank x || isBreak x then .ok (text, false, c)
      else if single then
        if x = '\'' then
          if c.is '\'' 1 then readWord single start fuel (text.push '\'') (c.skipMany 2)
          else .ok (text, false, c)
        else readWord single start fuel (text.push x) c.skip
      else if x = '"' then .ok (text, false, c)
      else if x = '\\' then
        if c.sees isBreak 1 then .ok (text, true, c.skip.skipLine)
        else match readEscape start c with
          | .error e => .error e
          | .ok (y, c) => readWord single start fuel (text.push y) c
      else readWord single start fuel (text.push x) c.skip

def readWords (single : Bool) (start : Mark) : Nat → String → Cursor → Except Flaw (String × Cursor)
  | 0, text, c => .ok (text, c)
  | fuel + 1, text, c =>
    if c.atDocumentMark then .error (c.flaw scanning start "found unexpected document indicator")
    else if c.atEnd then .error (c.flaw scanning start "found unexpected end of stream")
    else match readWord single start (c.rest.length + 1) text c with
      | .error e => .error e
      | .ok (text, joined, c) =>
        if c.is (if single then '\'' else '"') then .ok (text, c.skip)
        else
          let (_, gap, c) := Gap.read c none { broken := joined }
          readWords single start fuel (text ++ gap.joined) c

/-- A quoted scalar; the cursor stands at the opening quote. -/
def read (single : Bool) (c : Cursor) : Except Flaw (String × Cursor) :=
  readWords single c.mark (c.rest.length + 1) "" c.skip

end QuotedScalar
end Yaml
end Dashboards
