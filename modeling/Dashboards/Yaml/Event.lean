import Dashboards.Yaml.Token.Lexer

/-!
# Events of a YAML document

The tokens of a text are read as the steps of a walk over its documents: `Event.ofText` gives these
steps with their places, and the flaw at which they stop if there is one. What is expected next is
kept as a stack of `Stage`s.
-/

namespace Dashboards
namespace Yaml

inductive Event where
  | documentStart
  | documentEnd
  | streamEnd
  | alias (name : String)
  | scalar (anchor : Option String) (tag : Option Text.Bytes) (text : String) (style : Style)
  | sequenceStart (anchor : Option String) (tag : Option Text.Bytes)
  | sequenceEnd
  | mappingStart (anchor : Option String) (tag : Option Text.Bytes)
  | mappingEnd
deriving DecidableEq

/-- What a walk does next. A collection carries the place where it began. -/
inductive Stage where
  | stream
  | document
  | content
  | contentEnd
  | node
  | blockEntry (start : Mark)
  | indentlessEntry
  | blockKey (start : Mark)
  | blockValue (start : Mark)
  | flowEntry (start : Mark) (isFirst : Bool)
  | pairKey
  | pairValue
  | pairEnd
  | flowKey (start : Mark) (isFirst : Bool)
  | flowValue (start : Mark) (absent : Bool)

structure Walk where
  tokens : List Token
  stages : List Stage := [.stream]
  /-- The meaning of each tag handle of the document. -/
  handles : List (String × Text.Bytes) := []

namespace Walk

abbrev Marked := Event × Mark

/-- A step gives an event and the walk behind it, runs out of tokens, or meets a flaw. -/
inductive Step where
  | event (e : Event) (mark : Mark) (next : Walk)
  | starved
  | refused (f : Flaw)

def refuse (problem : String) (mark : Mark) (context : Option (String × Mark) := none) : Step :=
  .refused { problem := problem, mark := mark, context := context }

/-- A node that is not written is an empty plain scalar. -/
def empty (mark : Mark) (next : Walk) : Step :=
  .event (.scalar none none "" .plain) mark next

def defaultHandles : List (String × Text.Bytes) :=
  [("!", Text.utf8 "!"), ("!!", Text.utf8 "tag:yaml.org,2002:")]

/-- The directives in front of a document. -/
def directives : List Token → Option (Nat × Nat) → List (String × Text.Bytes) →
    Except Flaw (List Token × List (String × Text.Bytes))
  | [], _, hs => .ok ([], hs)
  | t :: ts, version, hs =>
    match t.kind with
    | .version major minor =>
      if version.isSome then
        .error { problem := "found duplicate %YAML directive", mark := t.start }
      else if major ≠ 1 || (minor ≠ 1 && minor ≠ 2) then
        .error { problem := "found incompatible YAML document", mark := t.start }
      else directives ts (some (major, minor)) hs
    | .tagDirective handle meaning =>
      if (hs.lookup handle).isSome then
        .error { problem := "found duplicate %TAG directive", mark := t.start }
      else directives ts version (hs ++ [(handle, meaning)])
    | _ => .ok (t :: ts, hs)

structure Properties where
  anchor : Option String := none
  tag : Option (TagName × Mark) := none
  start : Option Mark := none

/-- An anchor and a tag in front of a node, in either order. -/
def properties : List Token → Properties × List Token
  | [] => ({}, [])
  | t :: ts =>
    match t.kind with
    | .anchor a =>
      match ts with
      | u :: us =>
        match u.kind with
        | .tag n => (⟨some a, some (n, u.start), some t.start⟩, us)
        | _ => (⟨some a, none, some t.start⟩, ts)
      | [] => (⟨some a, none, some t.start⟩, [])
    | .tag n =>
      match ts with
      | u :: us =>
        match u.kind with
        | .anchor a => (⟨some a, some (n, t.start), some t.start⟩, us)
        | _ => (⟨none, some (n, t.start), some t.start⟩, ts)
      | [] => (⟨none, some (n, t.start), some t.start⟩, [])
    | _ => ({}, t :: ts)

/-- The full tag behind a handle; `none` if the handle has no meaning. -/
def fullTag (handles : List (String × Text.Bytes)) (n : TagName) : Option Text.Bytes :=
  if n.handle.isEmpty then some n.suffix else (handles.lookup n.handle).map (· ++ n.suffix)

/-- A node, in block context or inside brackets; `rest` are the stages that follow it. -/
def readNode (w : Walk) (block indentless : Bool) (rest : List Stage) : Step :=
  match w.tokens with
  | [] => .starved
  | first :: others =>
    match first.kind with
    | .alias name => .event (.alias name) first.start { w with tokens := others, stages := rest }
    | _ =>
      match properties w.tokens with
      | (_, []) => .starved
      | (p, t :: ts) =>
        let start := p.start.getD t.start
        let here := if block then "while parsing a block node" else "while parsing a flow node"
        match p.tag.map fun (n, m) => (fullTag w.handles n, m) with
        | some (none, m) =>
          refuse "found undefined tag handle" m (some ("while parsing a node", start))
        | tag =>
          let tag := tag.bind (·.1)
          let go (e : Event) (ts : List Token) (stages : List Stage) : Step :=
            .event e start { w with tokens := ts, stages := stages }
          match t.kind with
          | .scalar text style => go (.scalar p.anchor tag text style) ts rest
          | .flowSequenceStart =>
            go (.sequenceStart p.anchor tag) ts (.flowEntry t.start true :: rest)
          | .flowMappingStart => go (.mappingStart p.anchor tag) ts (.flowKey t.start true :: rest)
          | kind =>
            if indentless && kind = .blockEntry then
              go (.sequenceStart p.anchor tag) (t :: ts) (.indentlessEntry :: rest)
            else if block && kind = .blockSequenceStart then
              go (.sequenceStart p.anchor tag) ts (.blockEntry t.start :: rest)
            else if block && kind = .blockMappingStart then
              go (.mappingStart p.anchor tag) ts (.blockKey t.start :: rest)
            else if p.anchor.isSome || tag.isSome then
              go (.scalar p.anchor tag "" .plain) (t :: ts) rest
            else refuse "did not find expected node content" t.start (some (here, start))

/-- Goes on with a node unless the next token belongs to what surrounds it: then the node is empty
and stands at `mark`. -/
def nodeUnless (w : Walk) (closing : List TokenKind) (block indentless : Bool) (mark : Option Mark)
    (rest : List Stage) : Step :=
  match w.tokens with
  | [] => .starved
  | t :: _ =>
    if closing.contains t.kind then empty (mark.getD t.start) { w with stages := rest }
    else w.readNode block indentless rest

/-- The kind of the token is one of those that stand in front of a document. -/
def isDocumentHead : TokenKind → Bool
  | .version _ _ => true
  | .tagDirective _ _ => true
  | .documentStart => true
  | _ => false

def startDocument (w : Walk) (bare : Bool) (rest : List Stage) : Step :=
  let tokens := if bare then w.tokens else w.tokens.dropWhile (·.kind = .documentEnd)
  match tokens with
  | [] => .starved
  | t :: ts =>
    if t.kind = .streamEnd then .event .streamEnd t.start { w with tokens := ts, stages := [] }
    else if bare && !isDocumentHead t.kind then
      .event .documentStart t.start
        { tokens := tokens, stages := .node :: .contentEnd :: rest, handles := defaultHandles }
    else match directives tokens none [] with
      | .error f => .refused f
      | .ok ([], _) => .starved
      | .ok (u :: us, hs) =>
        if u.kind ≠ .documentStart then refuse "did not find expected <document start>" u.start
        else .event .documentStart t.start {
          tokens := us
          stages := .content :: .contentEnd :: rest
          handles := hs ++ defaultHandles }

def step (w : Walk) : Step :=
  match w.stages, w.tokens with
  | [], _ => .starved
  | _, [] => .starved
  | stage :: rest, t :: ts =>
    let next (stages : List Stage) : Walk := { w with tokens := ts, stages := stages }
    match stage with
    | .stream => { w with tokens := ts }.startDocument true [.document]
    | .document => w.startDocument false [.document]
    | .content =>
      if isDocumentHead t.kind || t.kind = .documentEnd || t.kind = .streamEnd then
        empty t.start { w with stages := rest }
      else w.readNode true false rest
    | .contentEnd =>
      if t.kind = .documentEnd then .event .documentEnd t.start { next rest with handles := [] }
      else .event .documentEnd t.start { w with stages := rest, handles := [] }
    | .node => w.readNode true false rest
    | .blockEntry start =>
      if t.kind = .blockEntry then
        (next []).nodeUnless [.blockEntry, .blockEnd] true false (some t.stop) (stage :: rest)
      else if t.kind = .blockEnd then .event .sequenceEnd t.start (next rest)
      else refuse "did not find expected '-' indicator" t.start
        (some ("while parsing a block collection", start))
    | .indentlessEntry =>
      if t.kind = .blockEntry then
        (next []).nodeUnless [.blockEntry, .key, .value, .blockEnd] true false (some t.stop)
          (stage :: rest)
      else .event .sequenceEnd t.start { w with stages := rest }
    | .blockKey start =>
      if t.kind = .key then
        (next []).nodeUnless [.key, .value, .blockEnd] true true (some t.stop)
          (.blockValue start :: rest)
      else if t.kind = .blockEnd then .event .mappingEnd t.start (next rest)
      else
        refuse "did not find expected key" t.start (some ("while parsing a block mapping", start))
    | .blockValue start =>
      if t.kind = .value then
        (next []).nodeUnless [.key, .value, .blockEnd] true true (some t.stop)
          (.blockKey start :: rest)
      else empty t.start { w with stages := .blockKey start :: rest }
    | .flowEntry start isFirst =>
      let entry (w : Walk) : Step :=
        match w.tokens with
        | [] => .starved
        | t :: ts =>
          if t.kind = .flowSequenceEnd then
            .event .sequenceEnd t.start { w with tokens := ts, stages := rest }
          else if t.kind = .key then
            .event (.mappingStart none none) t.start
              { w with tokens := ts, stages := .pairKey :: .flowEntry start false :: rest }
          else w.readNode false false (.flowEntry start false :: rest)
      if isFirst || t.kind = .flowSequenceEnd then entry w
      else if t.kind = .flowEntry then entry (next [])
      else refuse "did not find expected ',' or ']'" t.start
        (some ("while parsing a flow sequence", start))
    | .pairKey =>
      if t.kind = .value || t.kind = .flowEntry || t.kind = .flowSequenceEnd then
        empty t.stop (next (.pairValue :: rest))
      else w.readNode false false (.pairValue :: rest)
    | .pairValue =>
      if t.kind = .value then
        (next []).nodeUnless [.flowEntry, .flowSequenceEnd] false false none (.pairEnd :: rest)
      else empty t.start { w with stages := .pairEnd :: rest }
    | .pairEnd => .event .mappingEnd t.start { w with stages := rest }
    | .flowKey start isFirst =>
      let entry (w : Walk) : Step :=
        match w.tokens with
        | [] => .starved
        | t :: ts =>
          if t.kind = .flowMappingEnd then
            .event .mappingEnd t.start { w with tokens := ts, stages := rest }
          else if t.kind = .key then
            { w with tokens := ts }.nodeUnless [.value, .flowEntry, .flowMappingEnd] false false
              none (.flowValue start false :: rest)
          else w.readNode false false (.flowValue start true :: rest)
      if isFirst || t.kind = .flowMappingEnd then entry w
      else if t.kind = .flowEntry then entry (next [])
      else refuse "did not find expected ',' or '\x7d'" t.start
        (some ("while parsing a flow mapping", start))
    | .flowValue start absent =>
      if !absent && t.kind = .value then
        (next []).nodeUnless [.flowEntry, .flowMappingEnd] false false none
          (.flowKey start false :: rest)
      else empty t.start { w with stages := .flowKey start false :: rest }

/-- Collects the events. A step that uses up no token is followed by one that does, so a few steps
for each token suffice. -/
def run : Nat → Array Marked → Walk → Array Marked × Option Flaw
  | 0, events, _ => (events, none)
  | fuel + 1, events, w =>
    match w.step with
    | .event e m w => run fuel (events.push (e, m)) w
    | .starved => (events, none)
    | .refused f => (events, some f)

end Walk

/-- The events of a text, and the flaw that ends them: one that the walk meets comes before one that
ends the tokens. -/
def Event.ofText (s : String) : List (Event × Mark) × Option Flaw :=
  match inadmissible? s with
  | some f => ([], some f)
  | none =>
    let (tokens, flaw) := Token.scan s
    let (events, refused) := ({ tokens := tokens } : Walk).run (4 * tokens.length + 8) #[]
    (events.toList, refused.or flaw)

end Yaml
end Dashboards
