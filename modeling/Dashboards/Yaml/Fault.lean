/-!
# Places and faults in YAML documents

* `Mark`    a place in a document, counted from zero in characters;
* `Flaw`    a place where the text is no YAML, with the construct it was found in;
* `Fault`   why a document could not be read; `Fault.message` is its text.
-/

namespace Dashboards
namespace Yaml

structure Mark where
  index : Nat
  line : Nat
  column : Nat
deriving DecidableEq, Inhabited

namespace Mark

def first : Mark := ⟨0, 0, 0⟩

def isFirst (m : Mark) : Bool := m.line = 0 && m.column = 0

def shown (m : Mark) : String :=
  "line " ++ toString (m.line + 1) ++ " column " ++ toString (m.column + 1)

/-- The very first place is left out of messages. -/
def suffix (m : Mark) : String := if m.isFirst then "" else " at " ++ m.shown

end Mark

structure Flaw where
  problem : String
  mark : Mark
  /-- The byte at which the text stops being made of admissible characters. -/
  offset : Nat := 0
  context : Option (String × Mark) := none
deriving DecidableEq

def Flaw.message (f : Flaw) : String :=
  let place :=
    if !f.mark.isFirst then f.mark.suffix
    else if f.offset ≠ 0 then " at position " ++ toString f.offset
    else ""
  let around := match f.context with
    | none => ""
    | some (text, m) =>
      let same := m.line = f.mark.line && m.column = f.mark.column
      ", " ++ text ++ (if same then "" else m.suffix)
  f.problem ++ place ++ around

inductive Fault where
  | flaw (f : Flaw)
  /-- A value that does not fit, at the path of the entry it stands in. -/
  | unfit (text : String) (path : String) (mark : Mark)
  | unknownAnchor (mark : Mark)
  | tooDeep (mark : Mark)
  | tooManyRepetitions
  | endOfStream
  | manyDocuments
deriving DecidableEq

def Fault.message : Fault → String
  | .flaw f => f.message
  | .unfit text path mark => (if path = "." then "" else path ++ ": ") ++ text ++ mark.suffix
  | .unknownAnchor mark => "unknown anchor" ++ mark.suffix
  | .tooDeep mark => "recursion limit exceeded" ++ mark.suffix
  | .tooManyRepetitions => "repetition limit exceeded"
  | .endOfStream => "EOF while parsing a value"
  | .manyDocuments => "deserializing from YAML containing more than one document is not supported"

end Yaml
end Dashboards
