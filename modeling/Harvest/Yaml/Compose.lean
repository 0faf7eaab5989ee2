import Harvest.Codec.Base64
import Harvest.Config.Dynamic
import Harvest.Text.Number
import Harvest.Text.Quoted
import Harvest.Yaml.Events
import Harvest.Yaml.Timestamp
/-!
# Harvest.Yaml.Compose

From events to a document tree, and from the tree to loosely typed values.

The composer builds the nodes of the first document: scalars with their tag and style,
sequences, mappings and aliases. An anchor names the node it is attached to; an alias copies
the node named at that point, and an alias met inside the node it names refers to itself.

Untagged plain scalars are resolved by their text: `null`, `~` and the empty text are null;
`true`/`false` in three spellings are booleans; integers are read in decimal, `0x`, `0o`, `0b`
or leading-zero octal with `_` separators allowed; floats in decimal or `.inf`/`.nan` forms;
dates such as `2024-05-01` and date-times are timestamps; anything else is a string (so `yes`,
`off` and `on` stay strings). A quoted or block scalar is a string. An explicit core tag (`!!str`,
`!!int`, …) must agree with the text; `!!binary` reads base64.

Decoding the tree into a text-keyed map reports type errors by line and keeps going:
a document that is a sequence or a scalar cannot fill the map; a mapping that repeats a key is
an error at every repetition (`mapping key "port" already defined at line 2`) and is left out.
A merge key `<<` brings in the entries of another mapping that are not set already. Nested
mappings whose keys are not all strings get their keys written as text.

Every node decoded is counted, and so is every node reached through an alias; a document whose
aliases account for too large a share of what is decoded stops with `document contains excessive
aliasing`, so that nested aliases cannot blow a small text up into a huge value.
-/

namespace Harvest

namespace Yaml

/-- A node of a document. -/
inductive Node where
  | scalar (line : Nat) (tag : String) (value : String) (style : ScalarStyle)
  | seq (line : Nat) (tag : String) (items : List Node)
  | map (line : Nat) (tag : String) (entries : List (Node × Node))
  /-- An alias and the node it names; none when the alias sits inside that node. -/
  | alias (line : Nat) (name : String) (target : Option Node)
  deriving Inhabited

/-- The prefix of the core tags. -/
def corePrefix : String := "tag:yaml.org,2002:"

/-- A tag with the core prefix written `!!`. -/
def shortTag (t : String) : String :=
  if t.startsWith corePrefix then "!!" ++ String.ofList (t.toList.drop corePrefix.length) else t

/-! ## Resolving scalars -/

/-- The words that resolve to a fixed value. -/
def fixedScalar (s : String) : Option (String × Dyn) :=
  match s with
  | "true" | "True" | "TRUE" => some ("!!bool", .bool true)
  | "false" | "False" | "FALSE" => some ("!!bool", .bool false)
  | "" | "~" | "null" | "Null" | "NULL" => some ("!!null", .null)
  | ".nan" | ".NaN" | ".NAN" => some ("!!float", .float (0.0 / 0.0))
  | ".inf" | ".Inf" | ".INF" | "+.inf" | "+.Inf" | "+.INF" => some ("!!float", .float (1.0 / 0.0))
  | "-.inf" | "-.Inf" | "-.INF" => some ("!!float", .float (-1.0 / 0.0))
  | _ => none

/-- Whether a text is a float in the plain decimal form: optional sign, digits with an optional
fraction (or a fraction alone), optional exponent. -/
def decimalFloatForm (s : String) : Bool :=
  let cs := s.toList
  let cs := match cs with
    | '+' :: r | '-' :: r => r
    | r => r
  let isD (c : Char) := '0' ≤ c && c ≤ '9'
  let intDigits := cs.takeWhile isD
  let rest := cs.drop intDigits.length
  let (mantissaOk, rest) :=
    if intDigits.isEmpty then
      match rest with
      | '.' :: r =>
        let frac := r.takeWhile isD
        (!frac.isEmpty, r.drop frac.length)
      | _ => (false, rest)
    else
      match rest with
      | '.' :: r =>
        let frac := r.takeWhile isD
        (true, r.drop frac.length)
      | _ => (true, rest)
  let expOk := match rest with
    | [] => true
    | e :: r =>
      if e == 'e' || e == 'E' then
        let r := match r with
          | '+' :: t | '-' :: t => t
          | t => t
        !r.isEmpty && r.all isD
      else false
  mantissaOk && expOk

/-- The hint the first character gives: `S` sign, `D` digit, `M` a fixed word may follow, `.`
a float may follow, `N` empty text; none for plain strings. -/
def hint (s : String) : Option Char :=
  match s.toList with
  | [] => some 'N'
  | c :: _ =>
    if c == '+' || c == '-' then some 'S'
    else if '0' ≤ c && c ≤ '9' then some 'D'
    else if "yYnNtTfFoO~".toList.contains c then some 'M'
    else if c == '.' then some '.'
    else none

/-- Resolves a text by its form: its tag and value. A text of the form of a number is read as a
timestamp first when `stamps` allows it. -/
def resolveText (stamps : Bool) (s : String) : String × Dyn :=
  match hint s with
  | none => ("!!str", .str s)
  | some h =>
    match fixedScalar s with
    | some r => r
    | none =>
      if h == '.' then
        match Number.parseFloat s with
        | .ok x => ("!!float", .float x)
        | .error _ => ("!!str", .str s)
      else if h == 'D' || h == 'S' then
        match (if stamps then parseTimestamp s else none) with
        | some t => ("!!timestamp", .time .instant t.text)
        | none =>
          let plain := String.ofList (s.toList.filter (· != '_'))
          match Number.parseInt plain 0 64 with
          | .ok n => ("!!int", .int n .int)
          | .error _ =>
            match Number.parseUint plain 0 64 with
            | .ok n => ("!!int", .int n .uint64)
            | .error _ =>
              let asFloat : Option Float :=
                if decimalFloatForm plain then
                  match Number.parseFloat plain with
                  | .ok x => some x
                  | .error _ => none
                else none
              match asFloat with
              | some x => ("!!float", .float x)
              | none => ("!!str", .str s)
      else ("!!str", .str s)

/-- Resolves an untagged plain scalar: its tag and value. -/
def resolveImplicit (s : String) : String × Dyn := resolveText true s

/-- The tags a text is resolved under; a text under any other tag stays a string. -/
def resolvable (tag : String) : Bool :=
  tag == "" || tag == "!!str" || tag == "!!bool" || tag == "!!int" || tag == "!!float" ||
    tag == "!!null" || tag == "!!timestamp"

/-- Resolves a scalar under a tag (`""` when untagged). A core tag must agree with what the text
resolves to, except that an integer that fits 64 signed bits may be read as a float. -/
def resolve (tag s : String) : Except String (String × Dyn) :=
  if !resolvable tag then .ok (tag, .str s)
  else if tag == "!!str" then .ok ("!!str", .str s)
  else
    let (rtag, v) := resolveText (tag == "" || tag == "!!timestamp") s
    let mismatch : Except String (String × Dyn) :=
      .error ("yaml: cannot decode " ++ rtag ++ " `" ++ s ++ "` as a " ++ tag)
    if tag == "" || tag == rtag then .ok (rtag, v)
    else if tag == "!!float" && rtag == "!!int" then
      match v with
      | .int n .int => .ok ("!!float", .float (Float.ofInt n))
      | _ => mismatch
    else mismatch

/-- The tag a node gets: its explicit tag, else the default of its kind, else for a plain
scalar the tag of what it resolves to. -/
def nodeTag (explicit defaultTag : String) (value : String) (isScalar : Bool) : String :=
  if explicit != "" && explicit != "!" then shortTag explicit
  else if defaultTag != "" then defaultTag
  else if isScalar then (resolveImplicit value).1
  else ""

/-- A node's tag, an alias taking that of the node it names. -/
def Node.shortTag : Node → String
  | .scalar _ tag value style =>
    if tag == "!!str" || ((tag == "" || tag == "!") && style != .plain) then "!!str"
    else if tag == "" || tag == "!" then (resolveImplicit value).1
    else tag
  | .seq _ tag _ => if tag == "" || tag == "!" then "!!seq" else tag
  | .map _ tag _ => if tag == "" || tag == "!" then "!!map" else tag
  | .alias _ _ target =>
    match target with
    | some (.scalar _ tag value style) => Node.shortTag (.scalar 0 tag value style)
    | some (.seq _ tag _) => if tag == "" || tag == "!" then "!!seq" else tag
    | some (.map _ tag _) => if tag == "" || tag == "!" then "!!map" else tag
    | _ => ""

/-- The line of a node. -/
def Node.line : Node → Nat
  | .scalar l _ _ _ | .seq l _ _ | .map l _ _ | .alias l _ _ => l

/-- The text a node shows when keys are compared: a scalar's text, an alias's name, nothing for
collections. -/
def Node.text : Node → String
  | .scalar _ _ v _ => v
  | .alias _ n _ => n
  | _ => ""

/-- The kind of a node, as keys are compared. -/
def Node.kindIndex : Node → Nat
  | .scalar .. => 0
  | .seq .. => 1
  | .map .. => 2
  | .alias .. => 3

/-! ## Composing -/

/-- The composer: the parser, the event looked at, and the anchors so far (none while the
anchored collection is still open). -/
structure Composer where
  parser : Parser
  event : Option Event := none
  anchors : List (String × Option Node) := []

/-- Composing steps; a failure is the final message. -/
abbrev ComposeM := StateT Composer (Except String)

/-- The event looked at, parsing one when needed. -/
def peekEvent : ComposeM Event := do
  let c ← get
  match c.event with
  | some e => return e
  | none =>
    match parseStep.run c.parser with
    | .ok (e, p) =>
      set { c with parser := p, event := some e }
      return e
    | .error f => throw f.message

/-- The name of an event kind in messages. -/
def EventKind.name : EventKind → String
  | .streamStart => "STREAM-START"
  | .streamEnd => "STREAM-END"
  | .documentStart => "DOCUMENT-START"
  | .documentEnd => "DOCUMENT-END"
  | .alias => "ALIAS"
  | .scalar => "SCALAR"
  | .sequenceStart => "SEQUENCE-START"
  | .sequenceEnd => "SEQUENCE-END"
  | .mappingStart => "MAPPING-START"
  | .mappingEnd => "MAPPING-END"

/-- Consumes an event of the given kind. -/
def expectEvent (k : EventKind) : ComposeM Unit := do
  let e ← peekEvent
  if e.kind == .streamEnd && k != .streamEnd then
    throw "yaml: attempted to go past the end of stream; corrupted value?"
  if e.kind != k then throw ("yaml: expected " ++ k.name ++ " event but got " ++ e.kind.name)
  modify fun c => { c with event := none }

/-- Records an anchor. -/
def setAnchor (name : String) (n : Option Node) : ComposeM Unit :=
  if name.isEmpty then pure ()
  else modify fun c => { c with anchors := (name, n) :: c.anchors.filter (·.1 != name) }

/-- Closes an anchor left open by its collection. -/
def closeAnchor (name : String) (n : Node) : ComposeM Unit := do
  if !name.isEmpty then
    let c ← get
    match c.anchors.find? (·.1 == name) with
    | some (_, none) => setAnchor name (some n)
    | _ => pure ()

mutual

/-- Composes the next node; none at the end of the stream. -/
def composeNode : Nat → ComposeM (Option Node)
  | 0 => throw "yaml: document nested too deeply"
  | fuel + 1 => do
    let e ← peekEvent
    let line := e.start.line + 1
    match e.kind with
    | .scalar =>
      let defaultTag :=
        if e.style == .plain then (if e.value == "<<" then "!!merge" else "") else "!!str"
      let n := Node.scalar line (nodeTag e.tag defaultTag e.value true) e.value e.style
      setAnchor e.anchor (some n)
      expectEvent .scalar
      return some n
    | .alias =>
      match (← get).anchors.find? (·.1 == e.anchor) with
      | none => throw ("yaml: unknown anchor '" ++ e.anchor ++ "' referenced")
      | some (_, target) =>
        expectEvent .alias
        return some (.alias line e.anchor target)
    | .sequenceStart =>
      setAnchor e.anchor none
      expectEvent .sequenceStart
      let items ← composeItems fuel []
      expectEvent .sequenceEnd
      let n := Node.seq line (nodeTag e.tag "!!seq" "" false) items
      closeAnchor e.anchor n
      return some n
    | .mappingStart =>
      setAnchor e.anchor none
      expectEvent .mappingStart
      let entries ← composeEntries fuel []
      expectEvent .mappingEnd
      let n := Node.map line (nodeTag e.tag "!!map" "" false) entries
      closeAnchor e.anchor n
      return some n
    | .documentStart =>
      expectEvent .documentStart
      let n ← composeNode fuel
      expectEvent .documentEnd
      return n
    | .streamEnd => return none
    | k => throw ("yaml: attempted to parse unknown event: " ++ k.name)

/-- Composes sequence items up to the sequence end. -/
def composeItems : Nat → List Node → ComposeM (List Node)
  | 0, acc => return acc.reverse
  | fuel + 1, acc => do
    if (← peekEvent).kind == .sequenceEnd then return acc.reverse
    match ← composeNode fuel with
    | some n => composeItems fuel (n :: acc)
    | none => throw "yaml: attempted to go past the end of stream; corrupted value?"

/-- Composes mapping entries up to the mapping end. -/
def composeEntries : Nat → List (Node × Node) → ComposeM (List (Node × Node))
  | 0, acc => return acc.reverse
  | fuel + 1, acc => do
    if (← peekEvent).kind == .mappingEnd then return acc.reverse
    let k ← composeNode fuel
    let v ← composeNode fuel
    match k, v with
    | some k, some v => composeEntries fuel ((k, v) :: acc)
    | _, _ => throw "yaml: attempted to go past the end of stream; corrupted value?"

end

/-- Composes the first document of a text; none when the text holds no document. -/
def composeDocument (text : String) : Except String (Option Node) :=
  let c : Composer := { parser := Parser.ofString text }
  let fuel := 4 * text.length + 16
  let run : ComposeM (Option Node) := do
    expectEvent .streamStart
    composeNode fuel
  (run.run' c)

/-! ## Decoding -/

/-- What decoding has seen so far: the type errors, the nodes decoded, how many of those were
reached through an alias, and how many aliases are being followed now. -/
structure DecodeState where
  errors : List String := []
  decoded : Nat := 0
  aliased : Nat := 0
  depth : Nat := 0

/-- Decoding steps: type errors are collected and decoding goes on; other failures stop it. -/
abbrev DecodeM := StateT DecodeState (Except String)

/-- Records type errors. -/
def addErrors (es : List String) : DecodeM Unit :=
  modify fun st => { st with errors := st.errors ++ es }

/-- Whether `aliased` of `decoded` steps is more than aliases may account for. Small and
medium documents may owe 99% of their nodes to aliases; from 400,000 nodes on the share falls
evenly until it is 10% at 4,000,000. -/
def tooAliased (aliased decoded : Nat) : Bool :=
  if decoded ≤ 400000 then aliased * 100 > 99 * decoded
  else if decoded ≥ 4000000 then aliased * 10 > decoded
  else aliased * 360000000 > decoded * (356400000 - 89 * (decoded - 400000))

/-- Counts one node about to be decoded, and stops a document that expands aliases too much:
beyond 100 aliased nodes and 1000 in all, their share must stay within `tooAliased`. -/
def visit : DecodeM Unit := do
  let st ← get
  let st := { st with decoded := st.decoded + 1,
                      aliased := if st.depth > 0 then st.aliased + 1 else st.aliased }
  set st
  if st.aliased > 100 && st.decoded > 1000 && tooAliased st.aliased st.decoded then
    throw "yaml: document contains excessive aliasing"

/-- Runs a step on the node an alias names. -/
def throughAlias {α : Type} (step : DecodeM α) : DecodeM α := do
  modify fun st => { st with depth := st.depth + 1 }
  let r ← step
  modify fun st => { st with depth := st.depth - 1 }
  return r

/-- Records a type error. -/
def typeError (line : Nat) (tag value target : String) : DecodeM Unit :=
  let shown :=
    if tag == "!!seq" || tag == "!!map" then ""
    else
      let bytes := value.toUTF8.toList
      if bytes.length > 10 then " `" ++ Utf8.toText (bytes.take 7) ++ "...`" else " `" ++ value ++ "`"
  addErrors ["line " ++ toString line ++ ": cannot unmarshal " ++ tag ++ shown ++ " into " ++ target]

/-- Fails outright. -/
def decodeFail {α : Type} (msg : String) : DecodeM α := throw ("yaml: " ++ msg)

/-- The value of a scalar node. A `!!binary` scalar is base64 text (line breaks ignored, padding
required) standing for the bytes of a string. -/
def scalarValue (tag value : String) (style : ScalarStyle) : DecodeM Dyn :=
  if tag == "!!str" || ((tag == "" || tag == "!") && style != .plain) then pure (.str value)
  else if tag == "!!binary" then
    match Base64.decodeLoose value with
    | .ok bytes => pure (.str (Utf8.toText bytes))
    | .error _ => decodeFail "!!binary value contains invalid base64 data"
  else
    match resolve (if tag == "!" then "" else tag) value with
    | .ok (_, v) => pure v
    | .error e => throw e

/-- A key of a map as decoding compares them: text, or another scalar value with its text. -/
inductive Key where
  | text (s : String)
  | other (v : Dyn) (shown : String)
  deriving Inhabited

/-- The identity of a key. -/
def Key.ident : Key → String
  | .text s => "s" ++ s
  | .other v shown => "v" ++ v.typeName ++ ":" ++ shown

/-- The text a key is given when the map is written with text keys. -/
def Key.asText : Key → String
  | .text s => s
  | .other _ shown => shown

/-- The text of a scalar value as map keys are written. -/
def scalarText : Dyn → String
  | .null => ""
  | .bool b => if b then "true" else "false"
  | .int n _ => toString n
  | .float x => Number.formatPlain x
  | .str s => s
  | .time _ shown => shown
  | _ => ""

/-- Whether every key of a mapping is a string (or a merge key). -/
def stringKeyed (entries : List (Node × Node)) : Bool :=
  entries.all fun (k, _) => k.shortTag == "!!str" || k.shortTag == "!!merge"

/-- Whether a key node is a merge key. -/
def isMerge : Node → Bool
  | .scalar _ tag value _ => value == "<<" && (tag == "" || tag == "!" || tag == "!!merge")
  | _ => false

/-- The type errors for repeated keys of a mapping. -/
def duplicateErrors (entries : List (Node × Node)) : List String :=
  let keys := entries.map (·.1)
  let indexed := keys.zipIdx
  indexed.flatMap fun (ni, i) =>
    (indexed.filter fun (nj, j) => j > i && nj.kindIndex == ni.kindIndex && nj.text == ni.text).map
      fun (nj, _) =>
        "line " ++ toString nj.line ++ ": mapping key " ++ quoted nj.text ++ " already defined at line " ++
          toString ni.line

/-- A map being filled: its entries by key, and the keys a merge must not replace. -/
structure Filling where
  entries : List (Key × Dyn) := []
  fresh : Bool := true
  guarded : Option (List String) := none

mutual

/-- Decodes a node as an arbitrary value; none when it cannot be stored. -/
def decodeAny : Nat → Node → DecodeM (Option Dyn)
  | 0, _ => decodeFail "document nested too deeply"
  | fuel + 1, n => do
    visit
    match n with
    | .scalar _ tag value style => return some (← scalarValue tag value style)
    | .alias _ name target =>
      match target with
      | none => decodeFail ("anchor '" ++ name ++ "' value contains itself")
      | some t => throughAlias (decodeAny fuel t)
    | .seq _ _ items =>
      let vs ← decodeItems fuel items []
      return some (.list vs)
    | .map _ _ entries => do
      match ← fillMapping fuel entries (stringKeyed entries) {} with
      | none => return none
      | some f => return some (.map (f.entries.map fun (k, v) => (k.asText, v)))

/-- Decodes sequence items, leaving out those that cannot be stored. -/
def decodeItems : Nat → List Node → List Dyn → DecodeM (List Dyn)
  | 0, _, acc => return acc.reverse
  | _, [], acc => return acc.reverse
  | fuel + 1, n :: rest, acc => do
    match ← decodeAny fuel n with
    | some v => decodeItems fuel rest (v :: acc)
    | none => decodeItems fuel rest acc

/-- Decodes a key: as text for a string-keyed map (the scalar's text as written, or the bytes a
`!!binary` key stands for), else as a scalar value. -/
def decodeKey : Nat → Bool → Node → DecodeM (Option Key)
  | 0, _, _ => decodeFail "document nested too deeply"
  | fuel + 1, textKeys, n => do
    match n with
    | .alias _ name target =>
      visit
      match target with
      | none => decodeFail ("anchor '" ++ name ++ "' value contains itself")
      | some t => throughAlias (decodeKey fuel textKeys t)
    | .scalar _ tag value style =>
      visit
      let v ← scalarValue tag value style
      if textKeys then
        match v with
        | .null => return none
        | .str s => return some (.text (if tag == "!!binary" then s else value))
        | _ => return some (.text value)
      else
        match v with
        | .str s => return some (.text s)
        | v => return some (.other v (scalarText v))
    | .seq line _ _ =>
      if textKeys then
        visit
        typeError line "!!seq" "" "string"
        return none
      else
        match ← decodeAny fuel n with
        | none => return none
        | some _ => decodeFail "invalid map key: []interface \x7b\x7d"
    | .map line _ entries =>
      if textKeys then
        visit
        let dups := duplicateErrors entries
        if !dups.isEmpty then
          addErrors dups
          return none
        typeError line "!!map" "" "string"
        return none
      else
        match ← decodeAny fuel n with
        | none => return none
        | some _ => decodeFail "invalid map key: map[string]interface \x7b\x7d"

/-- Fills a map from a mapping's entries; none when its keys repeat. -/
def fillMapping : Nat → List (Node × Node) → Bool → Filling → DecodeM (Option Filling)
  | 0, _, _, _ => decodeFail "document nested too deeply"
  | fuel + 1, entries, textKeys, f => do
    let dups := duplicateErrors entries
    if !dups.isEmpty then
      addErrors dups
      return none
    let (f, guarded, mergeNode) ← fillEntries fuel entries textKeys f f.guarded none
    let f := { f with guarded := guarded }
    match mergeNode with
    | none => return some f
    | some m => return some (← mergeInto fuel entries m textKeys f)

/-- Fills the entries one by one; a merge key is set aside. While merging, keys already set are
skipped and each key set is added to them. -/
def fillEntries : Nat → List (Node × Node) → Bool → Filling → Option (List String) → Option Node →
    DecodeM (Filling × Option (List String) × Option Node)
  | 0, _, _, f, g, m => return (f, g, m)
  | _, [], _, f, g, m => return (f, g, m)
  | fuel + 1, (k, v) :: rest, textKeys, f, guarded, m => do
    if isMerge k then fillEntries fuel rest textKeys f guarded (some v)
    else
      match ← decodeKey fuel textKeys k with
      | none => fillEntries fuel rest textKeys f guarded m
      | some key =>
        let id := key.ident
        match guarded with
        | some g =>
          if g.contains id then fillEntries fuel rest textKeys f guarded m
          else
            let f ← storeEntry fuel key v f
            fillEntries fuel rest textKeys f (some (g ++ [id])) m
        | none =>
          let f ← storeEntry fuel key v f
          fillEntries fuel rest textKeys f guarded m

/-- Stores one entry: a value that cannot be stored is left out, except that a null sets a key
not set before. -/
def storeEntry : Nat → Key → Node → Filling → DecodeM Filling
  | 0, _, _, f => return f
  | fuel + 1, key, v, f => do
    let present := f.entries.any (·.1.ident == key.ident)
    let put (d : Dyn) : Filling :=
      if present then { f with entries := f.entries.map fun e => if e.1.ident == key.ident then (key, d) else e }
      else { f with entries := f.entries ++ [(key, d)] }
    match ← decodeAny fuel v with
    | some d => return put d
    | none => return (if v.shortTag == "!!null" && (f.fresh || !present) then put .null else f)

/-- Merges the mapping (or the sequence of mappings) a merge key names into a map; the keys set
already are kept, and of the merged mappings the earlier wins. -/
def mergeInto : Nat → List (Node × Node) → Node → Bool → Filling → DecodeM Filling
  | 0, _, _, _, f => return f
  | fuel + 1, parent, m, textKeys, f => do
    let outer := f.guarded
    let guarded ← match outer with
      | some g => pure g
      | none => parentKeys fuel parent []
    let f := { f with guarded := some guarded, fresh := false }
    let sources ← match m with
      | .map .. | .alias .. => pure [m]
      | .seq _ _ items => pure items
      | _ => decodeFail "map merge requires map or sequence of maps as the value"
    let f ← mergeSources fuel sources textKeys f
    return { f with guarded := if outer.isNone then none else f.guarded }

/-- Merges several mappings in order; each must be a mapping or an alias of one. -/
def mergeSources : Nat → List Node → Bool → Filling → DecodeM Filling
  | 0, _, _, f => return f
  | _, [], _, f => return f
  | fuel + 1, s :: rest, textKeys, f => do
    let merged ← match s with
      | .map _ _ es =>
        visit
        fillMapping fuel es textKeys f
      | .alias _ _ (some (.map _ _ es)) =>
        visit
        throughAlias do
          visit
          fillMapping fuel es textKeys f
      | _ => decodeFail "map merge requires map or sequence of maps as the value"
    match merged with
    | some f' => mergeSources fuel rest textKeys f'
    | none => mergeSources fuel rest textKeys f

/-- The identities of a mapping's own keys, read as arbitrary values. -/
def parentKeys : Nat → List (Node × Node) → List String → DecodeM (List String)
  | 0, _, acc => return acc
  | _, [], acc => return acc
  | fuel + 1, (k, _) :: rest, acc => do
    match ← decodeKey fuel false k with
    | some key => parentKeys fuel rest (acc ++ [key.ident])
    | none => parentKeys fuel rest acc

end

/-- Reads a YAML text into a text-keyed map, as a configuration file is read. -/
def readMap (text : String) : Except String (List (String × Dyn)) := do
  if !text.toList.all allowedChar then throw "yaml: control characters are not allowed"
  let doc ← composeDocument text
  let fuel := 8 * text.length + 64
  let target := "map[string]interface \x7b\x7d"
  let run : DecodeM (List (String × Dyn)) := do
    if doc.isSome then
      visit
      visit
    match doc with
    | none => return []
    | some (.scalar line tag value style) =>
      match ← scalarValue tag value style with
      | .null => return []
      | _ =>
        typeError line tag value target
        return []
    | some (.seq line _ _) =>
      typeError line "!!seq" "" target
      return []
    | some (.alias _ _ _) => return []
    | some (.map _ _ entries) =>
      match ← fillMapping fuel entries true {} with
      | none => return []
      | some f => return f.entries.map fun (k, v) => (k.asText, v)
  let (m, st) ← run.run {}
  if st.errors.isEmpty then pure m
  else throw ("yaml: unmarshal errors:\n  " ++ "\n  ".intercalate st.errors)

end Yaml

end Harvest
