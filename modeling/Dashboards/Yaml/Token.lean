import Dashboards.Text.Utf8
import Dashboards.Yaml.Fault

/-!
# Tokens of a YAML document

A token is a piece of the text with its two ends, or one of the marks that indentation stands for.
-/

namespace Dashboards
namespace Yaml

inductive Style where
  | plain
  | quoted
  | block
deriving DecidableEq

/-- A tag as written: a handle and what follows it. A tag in angle brackets has the empty handle. -/
structure TagName where
  handle : String
  suffix : Text.Bytes
deriving DecidableEq

inductive TokenKind where
  | streamStart
  | streamEnd
  | version (major minor : Nat)
  | tagDirective (handle : String) (meaning : Text.Bytes)
  | documentStart
  | documentEnd
  | blockSequenceStart
  | blockMappingStart
  | blockEnd
  | flowSequenceStart
  | flowSequenceEnd
  | flowMappingStart
  | flowMappingEnd
  | blockEntry
  | flowEntry
  | key
  | value
  | alias (name : String)
  | anchor (name : String)
  | tag (name : TagName)
  | scalar (text : String) (style : Style)
deriving DecidableEq

structure Token where
  kind : TokenKind
  start : Mark
  stop : Mark

end Yaml
end Dashboards
