import Dashboards.Yaml.Token
import Dashboards.Yaml.Cursor

/-!
# Tags and directives

A tag is a handle between exclamation marks with a suffix, a lone suffix behind one mark, or a whole
name in angle brackets. Escaped octets in it must form characters of UTF-8 by their leading bits.
-/

namespace Dashboards
namespace Yaml
namespace Tag

def isUriChar (c : Char) : Bool := isWordChar c || ";/?:@&=+$.%!~*'()".toList.contains c

def parsing (directive : Bool) : String :=
  if directive then "while parsing a %TAG directive" else "while parsing a tag"

/-- How many octets a character has that begins with this one. -/
def width (b : Nat) : Nat :=
  if b < 0x80 then 1
  else if b / 32 = 6 then 2
  else if b / 16 = 14 then 3
  else if b / 8 = 30 then 4
  else 0

def octet? (c : Cursor) : Option Nat :=
  match c.rest with
  | '%' :: a :: b :: _ => do return (← hexValue? a) * 16 + (← hexValue? b)
  | _ => none

/-- The octets of one escaped character; `left` counts those that are still due. -/
def readOctets (directive : Bool) (start : Mark) :
    Nat → Text.Bytes → Cursor → Except Flaw (Text.Bytes × Cursor)
  | 0, bs, c => .ok (bs, c)
  | left + 1, bs, c =>
    match octet? c with
    | none => .error (c.flaw (parsing directive) start "did not find URI escaped octet")
    | some b =>
      if b / 64 ≠ 2 then
        .error (c.flaw (parsing directive) start "found an incorrect trailing UTF-8 octet")
      else readOctets directive start left (bs ++ [b.toUInt8]) (c.skipMany 3)

def readEscape (directive : Bool) (start : Mark) (c : Cursor) : Except Flaw (Text.Bytes × Cursor) :=
  match octet? c with
  | none => .error (c.flaw (parsing directive) start "did not find URI escaped octet")
  | some b =>
    match width b with
    | 0 => .error (c.flaw (parsing directive) start "found an incorrect leading UTF-8 octet")
    | n + 1 => readOctets directive start n [b.toUInt8] (c.skipMany 3)

def readUriChars (verbatim directive : Bool) (start : Mark) :
    Nat → Text.Bytes → Cursor → Except Flaw (Text.Bytes × Cursor)
  | 0, bs, c => .ok (bs, c)
  | fuel + 1, bs, c =>
    match c.peek with
    | none => .ok (bs, c)
    | some x =>
      if x = '%' then
        match readEscape directive start c with
        | .error e => .error e
        | .ok (b, c) => readUriChars verbatim directive start fuel (bs ++ b) c
      else if isUriChar x || (verbatim && (x = ',' || x = '[' || x = ']')) then
        readUriChars verbatim directive start fuel (bs ++ String.utf8EncodeChar x) c.skip
      else .ok (bs, c)

/-- The rest of a tag behind `head`, which may be all there is. -/
def readUri (verbatim directive : Bool) (head : String) (start : Mark) (c : Cursor) :
    Except Flaw (Text.Bytes × Cursor) :=
  let handle := Text.utf8 (head.drop 1).toString
  match readUriChars verbatim directive start (c.rest.length + 1) handle c with
  | .error e => .error e
  | .ok (bs, c') =>
    if head.isEmpty && c'.mark.index = c.mark.index then
      .error (c'.flaw (parsing directive) start "did not find expected tag URI")
    else .ok (bs, c')

/-- `!`, `!!` or a word between exclamation marks; a word without the second mark is part of the
suffix of a tag. -/
def readHandle (directive : Bool) (start : Mark) (c : Cursor) : Except Flaw (String × Cursor) :=
  if !c.is '!' then
    .error (c.flaw (if directive then "while scanning a tag directive" else "while scanning a tag")
      start "did not find expected '!'")
  else
    let (w, c) := c.skip.takeWhile isWordChar
    if c.is '!' then .ok (String.singleton '!' ++ w ++ "!", c.skip)
    else if directive && !w.isEmpty then
      .error (c.flaw "while parsing a tag directive" start "did not find expected '!'")
    else .ok (String.singleton '!' ++ w, c)

/-- A tag; the cursor stands at its exclamation mark. -/
def read (inFlow : Bool) (c : Cursor) : Except Flaw (TagName × Cursor) := do
  let start := c.mark
  let scanning := "while scanning a tag"
  let (name, c) ←
    if c.is '<' 1 then do
      let (suffix, c) ← readUri true false "" start (c.skipMany 2)
      if !c.is '>' then throw (c.flaw scanning start "did not find the expected '>'")
      pure ((⟨"", suffix⟩ : TagName), c.skip)
    else do
      let (handle, c) ← readHandle false start c
      if handle.length > 1 && handle.endsWith "!" then
        let (suffix, c) ← readUri false false "" start c
        pure ((⟨handle, suffix⟩ : TagName), c)
      else
        let (suffix, c) ← readUri false false handle start c
        pure ((if suffix.isEmpty then ⟨"", Text.utf8 "!"⟩ else ⟨"!", suffix⟩ : TagName), c)
  if !c.blankOrEnd && !(inFlow && c.is ',') then
    throw (c.flaw scanning start "did not find expected whitespace or line break")
  return (name, c)

end Tag

namespace Directive

def number (start : Mark) (c : Cursor) : Except Flaw (Nat × Cursor) :=
  let context := "while scanning a %YAML directive"
  let (ds, behind) := c.takeWhile Char.isDigit
  if ds.length > 9 then
    .error ((c.skipMany 9).flaw context start "found extremely long version number")
  else if ds.isEmpty then .error (c.flaw context start "did not find expected version number")
  else .ok (ds.toList.foldl (fun n d => n * 10 + (d.toNat - 48)) 0, behind)

def version (start : Mark) (c : Cursor) : Except Flaw (TokenKind × Cursor) := do
  let (major, c) ← number start (c.skipWhile isBlank)
  if !c.is '.' then
    throw (c.flaw "while scanning a %YAML directive" start
      "did not find expected digit or '.' character")
  let (minor, c) ← number start c.skip
  return (.version major minor, c)

def tagMeaning (start : Mark) (c : Cursor) : Except Flaw (TokenKind × Cursor) := do
  let context := "while scanning a %TAG directive"
  let (handle, c) ← Tag.readHandle true start (c.skipWhile isBlank)
  if !c.sees isBlank then throw (c.flaw context start "did not find expected whitespace")
  let (meaning, c) ← Tag.readUri true true "" start (c.skipWhile isBlank)
  if !c.blankOrEnd then
    throw (c.flaw context start "did not find expected whitespace or line break")
  return (.tagDirective handle meaning, c)

/-- A directive with its line; the cursor stands at the percent sign. The result has the place where
the directive proper ends. -/
def read (c : Cursor) : Except Flaw (TokenKind × Mark × Cursor) := do
  let start := c.mark
  let context := "while scanning a directive"
  let (name, c) := c.skip.takeWhile isWordChar
  if name.isEmpty then throw (c.flaw context start "could not find expected directive name")
  if !c.blankOrEnd then throw (c.flaw context start "found unexpected non-alphabetical character")
  let (kind, c) ←
    if name = "YAML" then version start c
    else if name = "TAG" then tagMeaning start c
    else throw (c.flaw context start "found unknown directive name")
  let stop := c.mark
  let c := (c.skipWhile isBlank).skipComment
  if !c.breakOrEnd then throw (c.flaw context start "did not find expected comment or line break")
  return (kind, stop, c.skipLine)

end Directive
end Yaml
end Dashboards
