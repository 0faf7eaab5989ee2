import Harvest.Yaml.Scan
/-!
# Harvest.Yaml.Events

The YAML grammar over tokens: tokens to events.

The parser is a state machine with a stack of states to return to. Each step reads tokens and
yields one event: the stream and document bounds, a scalar, an alias, or the start or end of a
sequence or mapping (block or flow). A block mapping alternates `key` and `value` tokens until its
`blockEnd`; a missing value or key reads as an empty scalar. A sequence written without
indentation as the value of a mapping key ends at the first token that is not `-`.

A token that fits nowhere is a failure naming what was expected (`did not find expected key`,
`did not find expected '-' indicator`, `did not find expected ',' or ']'`, `did not find
expected node content`, …) with the start of the enclosing collection as the context position.

Tags are resolved against the handles in force: `!` and `!!` (the core schema) and those of
`%TAG` directives. A document may name its version once with `%YAML 1.1`; any other version is
refused as incompatible.
-/

namespace Harvest

namespace Yaml

/-- The kinds of event. -/
inductive EventKind where
  | streamStart
  | streamEnd
  | documentStart
  | documentEnd
  | alias
  | scalar
  | sequenceStart
  | sequenceEnd
  | mappingStart
  | mappingEnd
  deriving DecidableEq, Repr, Inhabited

/-- An event: its kind and start, with the anchor, tag, text and style of a node. -/
structure Event where
  kind : EventKind
  start : Mark := {}
  anchor : String := ""
  tag : String := ""
  value : String := ""
  style : ScalarStyle := .plain
  flow : Bool := false
  deriving Inhabited, Repr

/-- Where the parser is in the grammar. -/
inductive ParseState where
  | streamStart
  | implicitDocumentStart
  | documentStart
  | documentContent
  | documentEnd
  | blockNode
  | blockNodeOrIndentlessSequence
  | flowNode
  | blockSequenceFirstEntry
  | blockSequenceEntry
  | indentlessSequenceEntry
  | blockMappingFirstKey
  | blockMappingKey
  | blockMappingValue
  | flowSequenceFirstEntry
  | flowSequenceEntry
  | flowSequenceEntryMappingKey
  | flowSequenceEntryMappingValue
  | flowSequenceEntryMappingEnd
  | flowMappingFirstKey
  | flowMappingKey
  | flowMappingValue
  | flowMappingEmptyValue
  | finished
  deriving DecidableEq, Repr, Inhabited

/-- The parser: the scanner, the current state, the states to return to, the start marks of the
open collections and the tag handles in force. -/
structure Parser where
  scanner : Scanner
  state : ParseState := .streamStart
  states : List ParseState := []
  marks : List Mark := []
  tagHandles : List (String × String) := []
  deriving Inhabited

/-- Parsing steps. -/
abbrev ParseM := StateT Parser (Except Failure)

/-- Runs a scanning step on the parser's scanner. -/
def scan {α : Type} (m : ScanM α) : ParseM α := do
  let p ← get
  match m.run p.scanner with
  | .ok (a, s) =>
    set { p with scanner := s }
    return a
  | .error e => throw e

/-- The next token. -/
def peek : ParseM Token := scan peekToken

/-- Consumes the next token. -/
def next : ParseM Unit := scan skipToken

/-- Fails with a problem of the grammar. -/
def grammarError {α : Type} (contextMark : Mark) (problem : String) (at_ : Mark) : ParseM α :=
  throw { problem := problem, problemMark := at_, contextMark := contextMark }

/-- Returns to the state on top of the stack. -/
def popState : ParseM Unit :=
  modify fun p => match p.states with
    | s :: rest => { p with state := s, states := rest }
    | [] => { p with state := .finished }

/-- Pushes a state to return to. -/
def pushState (s : ParseState) : ParseM Unit := modify fun p => { p with states := s :: p.states }

/-- Pops the start mark of the innermost collection. -/
def popMark : ParseM Mark := do
  let p ← get
  match p.marks with
  | m :: rest =>
    set { p with marks := rest }
    return m
  | [] => return {}

/-- Pushes the start mark of a collection. -/
def pushMark (m : Mark) : ParseM Unit := modify fun p => { p with marks := m :: p.marks }

/-- An empty plain scalar at a position. -/
def emptyScalar (m : Mark) : Event := { kind := .scalar, start := m }

/-- The default tag handles. -/
def defaultHandles : List (String × String) := [("!", "!"), ("!!", "tag:yaml.org,2002:")]

/-- Reads the directives before a document. -/
def processDirectives : ParseM Unit := do
  let rec go : Nat → Bool → List (String × String) → ParseM (List (String × String))
    | 0, _, hs => pure hs
    | n + 1, seenVersion, hs => do
      let t ← peek
      if t.kind == .versionDirective then
        if seenVersion then grammarError {} "found duplicate %YAML directive" t.start
        if t.value != "1" || t.suffix != "1" then
          grammarError {} "found incompatible YAML document" t.start
        next
        go n true hs
      else if t.kind == .tagDirective then
        if hs.any (·.1 == t.value) then grammarError {} "found duplicate %TAG directive" t.start
        next
        go n seenVersion (hs ++ [(t.value, t.suffix)])
      else pure hs
  let hs ← go ((← get).scanner.input.size + 2) false []
  let extra := defaultHandles.filter fun d => !hs.any (·.1 == d.1)
  modify fun p => { p with tagHandles := hs ++ extra }

/-- A node: an alias, or a scalar or collection start with its optional anchor and tag. -/
def parseNode (block indentlessSequence : Bool) : ParseM Event := do
  let t ← peek
  if t.kind == .alias then
    popState
    next
    return { kind := .alias, start := t.start, anchor := t.value }
  let start := t.start
  -- An anchor and a tag, in either order.
  let (anchor, tagToken) ← do
    if t.kind == .anchor then
      next
      let t2 ← peek
      if t2.kind == .tag then
        next
        pure (t.value, some t2)
      else pure (t.value, none)
    else if t.kind == .tag then
      next
      let t2 ← peek
      if t2.kind == .anchor then
        next
        pure (t2.value, some t)
      else pure ("", some t)
    else pure ("", none)
  let tag ← match tagToken with
    | none => pure ""
    | some tt =>
      if tt.value.isEmpty then pure tt.suffix
      else
        match (← get).tagHandles.find? (·.1 == tt.value) with
        | some (_, pfx) => pure (pfx ++ tt.suffix)
        | none => grammarError start "found undefined tag handle" tt.start
  let t ← peek
  if indentlessSequence && t.kind == .blockEntry then
    modify fun p => { p with state := .indentlessSequenceEntry }
    return { kind := .sequenceStart, start := start, anchor := anchor, tag := tag }
  if t.kind == .scalar then
    popState
    next
    return { kind := .scalar, start := start, anchor := anchor, tag := tag, value := t.value,
             style := t.style }
  if t.kind == .flowSequenceStart then
    modify fun p => { p with state := .flowSequenceFirstEntry }
    return { kind := .sequenceStart, start := start, anchor := anchor, tag := tag, flow := true }
  if t.kind == .flowMappingStart then
    modify fun p => { p with state := .flowMappingFirstKey }
    return { kind := .mappingStart, start := start, anchor := anchor, tag := tag, flow := true }
  if block && t.kind == .blockSequenceStart then
    modify fun p => { p with state := .blockSequenceFirstEntry }
    return { kind := .sequenceStart, start := start, anchor := anchor, tag := tag }
  if block && t.kind == .blockMappingStart then
    modify fun p => { p with state := .blockMappingFirstKey }
    return { kind := .mappingStart, start := start, anchor := anchor, tag := tag }
  if !anchor.isEmpty || !tag.isEmpty then
    popState
    return { kind := .scalar, start := start, anchor := anchor, tag := tag }
  grammarError start "did not find expected node content" t.start

/-- The start of a document, or the end of the stream. -/
def parseDocumentStart (implicit : Bool) : ParseM Event := do
  let rec skipEnds : Nat → ParseM Token
    | 0 => peek
    | n + 1 => do
      let t ← peek
      if t.kind == .documentEnd then
        next
        skipEnds n
      else pure t
  let t ← if implicit then peek else skipEnds ((← get).scanner.input.size + 2)
  if implicit && t.kind != .versionDirective && t.kind != .tagDirective &&
      t.kind != .documentStart && t.kind != .streamEnd then
    processDirectives
    pushState .documentEnd
    modify fun p => { p with state := .blockNode }
    return { kind := .documentStart, start := t.start }
  else if t.kind != .streamEnd then
    let start := t.start
    processDirectives
    let t ← peek
    if t.kind != .documentStart then
      grammarError {} "did not find expected <document start>" t.start
    pushState .documentEnd
    modify fun p => { p with state := .documentContent }
    next
    return { kind := .documentStart, start := start }
  else
    modify fun p => { p with state := .finished }
    next
    return { kind := .streamEnd, start := t.start }

/-- One step of the grammar. -/
def parseStep : ParseM Event := do
  let p ← get
  match p.state with
  | .streamStart =>
    let t ← peek
    if t.kind != .streamStart then grammarError {} "did not find expected <stream-start>" t.start
    modify fun p => { p with state := .implicitDocumentStart }
    next
    return { kind := .streamStart, start := t.start }
  | .implicitDocumentStart => parseDocumentStart true
  | .documentStart => parseDocumentStart false
  | .documentContent =>
    let t ← peek
    if t.kind == .versionDirective || t.kind == .tagDirective || t.kind == .documentStart ||
        t.kind == .documentEnd || t.kind == .streamEnd then
      popState
      return emptyScalar t.start
    parseNode true false
  | .documentEnd =>
    let t ← peek
    if t.kind == .documentEnd then next
    modify fun p => { p with state := .documentStart, tagHandles := [] }
    return { kind := .documentEnd, start := t.start }
  | .blockNode => parseNode true false
  | .blockNodeOrIndentlessSequence => parseNode true true
  | .flowNode => parseNode false false
  | .blockSequenceFirstEntry | .blockSequenceEntry =>
    if p.state == .blockSequenceFirstEntry then
      let t ← peek
      pushMark t.start
      next
    let t ← peek
    if t.kind == .blockEntry then
      let m := t.stop
      next
      let t ← peek
      if t.kind != .blockEntry && t.kind != .blockEnd then
        pushState .blockSequenceEntry
        parseNode true false
      else
        modify fun p => { p with state := .blockSequenceEntry }
        return emptyScalar m
    else if t.kind == .blockEnd then
      popState
      let _ ← popMark
      next
      return { kind := .sequenceEnd, start := t.start }
    else
      let m ← popMark
      grammarError m "did not find expected '-' indicator" t.start
  | .indentlessSequenceEntry =>
    let t ← peek
    if t.kind == .blockEntry then
      let m := t.stop
      next
      let t ← peek
      if t.kind != .blockEntry && t.kind != .key && t.kind != .value && t.kind != .blockEnd then
        pushState .indentlessSequenceEntry
        parseNode true false
      else
        modify fun p => { p with state := .indentlessSequenceEntry }
        return emptyScalar m
    else
      popState
      return { kind := .sequenceEnd, start := t.start }
  | .blockMappingFirstKey | .blockMappingKey =>
    if p.state == .blockMappingFirstKey then
      let t ← peek
      pushMark t.start
      next
    let t ← peek
    if t.kind == .key then
      let m := t.stop
      next
      let t ← peek
      if t.kind != .key && t.kind != .value && t.kind != .blockEnd then
        pushState .blockMappingValue
        parseNode true true
      else
        modify fun p => { p with state := .blockMappingValue }
        return emptyScalar m
    else if t.kind == .blockEnd then
      popState
      let _ ← popMark
      next
      return { kind := .mappingEnd, start := t.start }
    else
      let m ← popMark
      grammarError m "did not find expected key" t.start
  | .blockMappingValue =>
    let t ← peek
    if t.kind == .value then
      let m := t.stop
      next
      let t ← peek
      if t.kind != .key && t.kind != .value && t.kind != .blockEnd then
        pushState .blockMappingKey
        parseNode true true
      else
        modify fun p => { p with state := .blockMappingKey }
        return emptyScalar m
    else
      modify fun p => { p with state := .blockMappingKey }
      return emptyScalar t.start
  | .flowSequenceFirstEntry | .flowSequenceEntry =>
    let first := p.state == .flowSequenceFirstEntry
    if first then
      let t ← peek
      pushMark t.start
      next
    let t ← peek
    if t.kind != .flowSequenceEnd then
      let t ← do
        if !first then
          if t.kind == .flowEntry then
            next
            peek
          else
            let m ← popMark
            grammarError m "did not find expected ',' or ']'" t.start
        else pure t
      if t.kind == .key then
        modify fun p => { p with state := .flowSequenceEntryMappingKey }
        next
        return { kind := .mappingStart, start := t.start, flow := true }
      else if t.kind != .flowSequenceEnd then
        pushState .flowSequenceEntry
        return (← parseNode false false)
    let t ← peek
    popState
    let _ ← popMark
    next
    return { kind := .sequenceEnd, start := t.start }
  | .flowSequenceEntryMappingKey =>
    let t ← peek
    if t.kind != .value && t.kind != .flowEntry && t.kind != .flowSequenceEnd then
      pushState .flowSequenceEntryMappingValue
      parseNode false false
    else
      let m := t.stop
      next
      modify fun p => { p with state := .flowSequenceEntryMappingValue }
      return emptyScalar m
  | .flowSequenceEntryMappingValue =>
    let t ← peek
    if t.kind == .value then
      next
      let t ← peek
      if t.kind != .flowEntry && t.kind != .flowSequenceEnd then
        pushState .flowSequenceEntryMappingEnd
        return (← parseNode false false)
      modify fun p => { p with state := .flowSequenceEntryMappingEnd }
      return emptyScalar t.start
    modify fun p => { p with state := .flowSequenceEntryMappingEnd }
    return emptyScalar t.start
  | .flowSequenceEntryMappingEnd =>
    let t ← peek
    modify fun p => { p with state := .flowSequenceEntry }
    return { kind := .mappingEnd, start := t.start }
  | .flowMappingFirstKey | .flowMappingKey =>
    let first := p.state == .flowMappingFirstKey
    if first then
      let t ← peek
      pushMark t.start
      next
    let t ← peek
    if t.kind != .flowMappingEnd then
      let t ← do
        if !first then
          if t.kind == .flowEntry then
            next
            peek
          else
            let m ← popMark
            grammarError m "did not find expected ',' or '\x7d'" t.start
        else pure t
      if t.kind == .key then
        next
        let t ← peek
        if t.kind != .value && t.kind != .flowEntry && t.kind != .flowMappingEnd then
          pushState .flowMappingValue
          return (← parseNode false false)
        modify fun p => { p with state := .flowMappingValue }
        return emptyScalar t.start
      else if t.kind != .flowMappingEnd then
        pushState .flowMappingEmptyValue
        return (← parseNode false false)
    let t ← peek
    popState
    let _ ← popMark
    next
    return { kind := .mappingEnd, start := t.start }
  | .flowMappingValue =>
    let t ← peek
    if t.kind == .value then
      next
      let t ← peek
      if t.kind != .flowEntry && t.kind != .flowMappingEnd then
        pushState .flowMappingKey
        return (← parseNode false false)
      modify fun p => { p with state := .flowMappingKey }
      return emptyScalar t.start
    modify fun p => { p with state := .flowMappingKey }
    return emptyScalar t.start
  | .flowMappingEmptyValue =>
    let t ← peek
    modify fun p => { p with state := .flowMappingKey }
    return emptyScalar t.start
  | .finished => return { kind := .streamEnd, start := p.scanner.mark }

/-- A parser over a text. -/
def Parser.ofString (text : String) : Parser := { scanner := Scanner.ofString text }

end Yaml

end Harvest
