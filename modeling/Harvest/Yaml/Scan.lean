/-!
# Harvest.Yaml.Scan

The YAML scanner: text to tokens.

The scanner walks the characters with a position (index, line and column, all from zero) and
produces tokens on demand. Block structure comes from indentation: a key or an entry at a
column deeper than the current indentation opens a block mapping or sequence (a
`blockMappingStart` or `blockSequenceStart` token), and a line starting to the left closes
blocks (`blockEnd` tokens). A plain scalar may turn out to be the key of a mapping only when a
`:` follows it on the same line within 1024 characters, so it is remembered as a possible
*simple key*; the `key` token and the block start are inserted before it once the `:` is seen.
The consumer is only handed a token when three tokens are queued and the first is no longer a
possible simple key.

Blanks between tokens are spaces; a tab is skipped only inside flow collections or where no
key may start, so a tab that indents a line is an error (`found character that cannot start
any token`). Comments run from `#` to the end of the line.

Scalars come in five styles: plain (folded over lines, ended by `: `, ` #` or, in flow
collections, by flow indicators), single-quoted (`''` for a quote), double-quoted (with
backslash escapes), literal `|` and folded `>` (with chomping and indentation indicators).

A failure carries the problem, the position where it was found, a context position, and
whether the scanner found it; the message names a line the way the reader reports it.
-/

namespace Harvest

namespace Yaml

/-- A position in the text: character index, line and column, all from zero. -/
structure Mark where
  index : Nat := 0
  line : Nat := 0
  column : Nat := 0
  deriving Inhabited, Repr, DecidableEq

/-- Why reading failed. -/
structure Failure where
  problem : String
  problemMark : Mark := {}
  contextMark : Mark := {}
  /-- Whether the scanner found the problem (its lines count from one). -/
  scanner : Bool := false
  deriving Inhabited, Repr

/-- The message of a failure: the line comes from the context position when it is not on the
first line, else from the problem position; a scanner failure counts lines from one, any other
from zero, and line zero is not named. -/
def Failure.message (f : Failure) : String :=
  let bump := if f.scanner then 1 else 0
  let line :=
    if f.contextMark.line != 0 then f.contextMark.line + bump
    else if f.problemMark.line != 0 then f.problemMark.line + bump
    else 0
  "yaml: " ++ (if line != 0 then "line " ++ toString line ++ ": " else "") ++ f.problem

/-- How a scalar was written. -/
inductive ScalarStyle where
  | plain
  | singleQuoted
  | doubleQuoted
  | literal
  | folded
  deriving DecidableEq, Repr, Inhabited

/-- The kinds of token. -/
inductive TokenKind where
  | streamStart
  | streamEnd
  | versionDirective
  | tagDirective
  | documentStart
  | documentEnd
  | blockSequenceStart
  | blockMappingStart
  | blockEnd
  | flowSequenceStart
  | flowSequenceEnd
  | flowMappingStart
  | flowMappingEnd
  | blockEntry
  | flowEntry
  | key
  | value
  | alias
  | anchor
  | tag
  | scalar
  deriving DecidableEq, Repr, Inhabited

/-- A token: its kind and extent, with the text of a scalar, the name of an anchor or alias, the
handle and suffix of a tag, or the handle and prefix of a tag directive. -/
structure Token where
  kind : TokenKind
  start : Mark := {}
  stop : Mark := {}
  value : String := ""
  suffix : String := ""
  style : ScalarStyle := .plain
  deriving Inhabited, Repr

/-- A place where a simple key may have started. -/
structure SimpleKey where
  possible : Bool := false
  required : Bool := false
  tokenNumber : Nat := 0
  mark : Mark := {}
  deriving Inhabited, Repr

/-- The scanner state. Tokens are never dropped: `head` is the number handed out so far. -/
structure Scanner where
  input : Array Char
  mark : Mark := {}
  tokens : Array Token := #[]
  head : Nat := 0
  streamStartProduced : Bool := false
  streamEndProduced : Bool := false
  indent : Int := -1
  indents : List Int := []
  simpleKeyAllowed : Bool := false
  simpleKeys : Array SimpleKey := #[]
  flowLevel : Nat := 0
  deriving Inhabited

/-- Scanning steps: they read and update the scanner, or fail. -/
abbrev ScanM := StateT Scanner (Except Failure)

/-! ## Characters -/

/-- The end of the text reads as a NUL character. -/
def Scanner.at (s : Scanner) (k : Nat) : Char := s.input.getD (s.mark.index + k) '\x00'

/-- Whether a character is a space or a tab. -/
def isBlank (c : Char) : Bool := c == ' ' || c == '\t'

/-- Whether a character breaks a line. -/
def isBreak (c : Char) : Bool :=
  c == '\r' || c == '\n' || c.toNat == 0x85 || c.toNat == 0x2028 || c.toNat == 0x2029

/-- A line break or the end of the text. -/
def isBreakZ (c : Char) : Bool := isBreak c || c == '\x00'

/-- A blank, a line break or the end of the text. -/
def isBlankZ (c : Char) : Bool := isBlank c || isBreakZ c

/-- Letters, digits, `_` and `-`. -/
def isAlpha (c : Char) : Bool :=
  ('0' ≤ c && c ≤ '9') || ('a' ≤ c && c ≤ 'z') || ('A' ≤ c && c ≤ 'Z') || c == '_' || c == '-'

/-- Hexadecimal digits. -/
def isHex (c : Char) : Bool :=
  ('0' ≤ c && c ≤ '9') || ('a' ≤ c && c ≤ 'f') || ('A' ≤ c && c ≤ 'F')

/-- The value of a hexadecimal digit. -/
def hexValue (c : Char) : Nat :=
  if '0' ≤ c && c ≤ '9' then c.toNat - 48
  else if 'a' ≤ c && c ≤ 'f' then c.toNat - 87
  else c.toNat - 55

/-- Whether the text may hold a character at all. -/
def allowedChar (c : Char) : Bool :=
  let n := c.toNat
  n == 0x09 || n == 0x0A || n == 0x0D || (0x20 ≤ n && n ≤ 0x7E) || n == 0x85 ||
    (0xA0 ≤ n && n ≤ 0xD7FF) || (0xE000 ≤ n && n ≤ 0xFFFD) || (0x10000 ≤ n && n ≤ 0x10FFFF)

/-- The current character. -/
def cur : ScanM Char := return (← get).at 0

/-- The character `k` places ahead. -/
def ahead (k : Nat) : ScanM Char := return (← get).at k

/-- Moves one character forward on the line. -/
def skip : ScanM Unit :=
  modify fun s => { s with mark := { s.mark with index := s.mark.index + 1,
                                                 column := s.mark.column + 1 } }

/-- Moves over a line break (`\r\n` counts as one). -/
def skipLine : ScanM Unit := do
  let s ← get
  if s.at 0 == '\r' && s.at 1 == '\n' then
    set { s with mark := { index := s.mark.index + 2, line := s.mark.line + 1, column := 0 } }
  else if isBreak (s.at 0) then
    set { s with mark := { index := s.mark.index + 1, line := s.mark.line + 1, column := 0 } }

/-- Takes the current character. -/
def take : ScanM Char := do
  let c ← cur
  skip
  return c

/-- Takes a line break; `\r\n`, `\r` and next-line read as `\n`, the separators as themselves. -/
def takeLine : ScanM String := do
  let c ← cur
  let text := if c.toNat == 0x2028 || c.toNat == 0x2029 then String.singleton c else "\n"
  skipLine
  return text

/-- Fails with a problem found by the scanner at the current position. -/
def scanError {α : Type} (context : Mark) (problem : String) : ScanM α := do
  let s ← get
  throw { problem := problem, problemMark := s.mark, contextMark := context, scanner := true }

/-- The fuel of the scanning loops: every turn takes a character. -/
def Scanner.fuel (s : Scanner) : Nat := s.input.size + 2

/-- Skips characters while a test holds. -/
def skipWhile (p : Char → Bool) : ScanM Unit := do
  let rec go : Nat → ScanM Unit
    | 0 => pure ()
    | n + 1 => do
      if p (← cur) then
        skip
        go n
  go (← get).fuel

/-- Takes characters while a test holds. -/
def takeWhile (p : Char → Bool) : ScanM String := do
  let rec go : Nat → String → ScanM String
    | 0, acc => pure acc
    | n + 1, acc => do
      let c ← cur
      if p c then
        skip
        go n (acc.push c)
      else pure acc
  go (← get).fuel ""

/-! ## The token queue and simple keys -/

/-- Appends a token. -/
def emit (t : Token) : ScanM Unit := modify fun s => { s with tokens := s.tokens.push t }

/-- Inserts a token at an absolute queue position. -/
def insertToken (i : Nat) (t : Token) : ScanM Unit :=
  modify fun s => { s with tokens := s.tokens.insertIdxIfInBounds i t }

/-- The top simple key. -/
def Scanner.topKey (s : Scanner) : SimpleKey := s.simpleKeys.getD (s.simpleKeys.size - 1) {}

/-- Replaces the top simple key. -/
def setTopKey (k : SimpleKey) : ScanM Unit :=
  modify fun s => { s with simpleKeys := s.simpleKeys.setIfInBounds (s.simpleKeys.size - 1) k }

/-- Whether a possible simple key is still possible: a key must stay on its line and within
1024 characters; a required key that can no longer be one is an error. -/
def keyStillPossible (k : SimpleKey) : ScanM (Bool × SimpleKey) := do
  let s ← get
  if !k.possible then return (false, k)
  if k.mark.line < s.mark.line || k.mark.index + 1024 < s.mark.index then
    if k.required then scanError k.mark "could not find expected ':'"
    return (false, { k with possible := false })
  return (true, k)

/-- Drops the possible simple key of the current flow level; a required one is an error. -/
def removeSimpleKey : ScanM Unit := do
  let k := (← get).topKey
  if k.possible then
    if k.required then scanError k.mark "could not find expected ':'"
    setTopKey { k with possible := false }

/-- Remembers that a simple key may start here. -/
def saveSimpleKey : ScanM Unit := do
  let s ← get
  let required := s.flowLevel == 0 && s.indent == (s.mark.column : Int)
  if s.simpleKeyAllowed then
    let k : SimpleKey := { possible := true, required := required, tokenNumber := s.tokens.size,
                           mark := s.mark }
    removeSimpleKey
    setTopKey k

/-- Enters a flow collection. -/
def increaseFlowLevel : ScanM Unit := do
  let s ← get
  let k : SimpleKey := { tokenNumber := s.tokens.size, mark := s.mark }
  set { s with simpleKeys := s.simpleKeys.push k, flowLevel := s.flowLevel + 1 }
  if s.flowLevel + 1 > 10000 then scanError k.mark "exceeded max depth of 10000"

/-- Leaves a flow collection. -/
def decreaseFlowLevel : ScanM Unit :=
  modify fun s =>
    if s.flowLevel > 0 then { s with flowLevel := s.flowLevel - 1, simpleKeys := s.simpleKeys.pop }
    else s

/-- Opens a block collection when `column` is deeper than the indentation; the start token goes
at queue position `number`, or at the end. -/
def rollIndent (column : Int) (number : Option Nat) (kind : TokenKind) (mark : Mark) : ScanM Unit := do
  let s ← get
  if s.flowLevel == 0 && s.indent < column then
    set { s with indents := s.indent :: s.indents, indent := column }
    if s.indents.length + 1 > 10000 then scanError s.topKey.mark "exceeded max depth of 10000"
    let t : Token := { kind := kind, start := mark, stop := mark }
    match number with
    | some n => insertToken n t
    | none => emit t

/-- Closes the block collections deeper than `column`. -/
def unrollIndent (column : Int) (scanMark : Mark) : ScanM Unit := do
  let blockMark := { scanMark with index := scanMark.index - 1 }
  let rec go : List Int → ScanM Unit
    | [] => pure ()
    | below :: rest => do
      let s ← get
      if s.indent > column then
        set { s with tokens := s.tokens.push { kind := .blockEnd, start := blockMark, stop := blockMark },
                     indent := below, indents := rest }
        go rest
  if (← get).flowLevel == 0 then go (← get).indents

/-! ## Blanks and comments -/

/-- Skips blanks, comments and line breaks up to the next token; a line break in block context
lets a key start. -/
def scanToNextToken : ScanM Unit := do
  let rec go : Nat → ScanM Unit
    | 0 => pure ()
    | n + 1 => do
      let s ← get
      skipWhile fun c => c == ' ' || ((s.flowLevel > 0 || !s.simpleKeyAllowed) && c == '\t')
      if (← cur) == '#' then skipWhile fun c => !isBreakZ c
      if isBreak (← cur) then
        skipLine
        if (← get).flowLevel == 0 then modify fun s => { s with simpleKeyAllowed := true }
        go n
  go (← get).fuel

/-! ## Simple tokens -/

/-- A token made of the next `width` characters. -/
def simpleToken (kind : TokenKind) (width : Nat) : ScanM Unit := do
  let start := (← get).mark
  for _ in [0:width] do skip
  emit { kind := kind, start := start, stop := (← get).mark }

/-- The start of the text. -/
def fetchStreamStart : ScanM Unit := do
  let s ← get
  set { s with indent := -1, simpleKeys := s.simpleKeys.push {}, simpleKeyAllowed := true,
               streamStartProduced := true }
  emit { kind := .streamStart, start := s.mark, stop := s.mark }

/-- The end of the text: the last line is closed and every block ends. -/
def fetchStreamEnd : ScanM Unit := do
  let s ← get
  if s.mark.column != 0 then
    set { s with mark := { s.mark with column := 0, line := s.mark.line + 1 } }
  unrollIndent (-1) (← get).mark
  removeSimpleKey
  modify fun s => { s with simpleKeyAllowed := false }
  let m := (← get).mark
  emit { kind := .streamEnd, start := m, stop := m }

/-- `---` or `...` at the start of a line. -/
def fetchDocumentIndicator (kind : TokenKind) : ScanM Unit := do
  unrollIndent (-1) (← get).mark
  removeSimpleKey
  modify fun s => { s with simpleKeyAllowed := false }
  simpleToken kind 3

/-- `[` or `{`. -/
def fetchFlowCollectionStart (kind : TokenKind) : ScanM Unit := do
  saveSimpleKey
  increaseFlowLevel
  modify fun s => { s with simpleKeyAllowed := true }
  simpleToken kind 1

/-- `]` or `}`. -/
def fetchFlowCollectionEnd (kind : TokenKind) : ScanM Unit := do
  removeSimpleKey
  decreaseFlowLevel
  modify fun s => { s with simpleKeyAllowed := false }
  simpleToken kind 1

/-- `,` in a flow collection. -/
def fetchFlowEntry : ScanM Unit := do
  removeSimpleKey
  modify fun s => { s with simpleKeyAllowed := true }
  simpleToken .flowEntry 1

/-- `-` before a sequence entry. -/
def fetchBlockEntry : ScanM Unit := do
  let s ← get
  if s.flowLevel == 0 then
    if !s.simpleKeyAllowed then
      scanError s.mark "block sequence entries are not allowed in this context"
    rollIndent s.mark.column none .blockSequenceStart s.mark
  removeSimpleKey
  modify fun s => { s with simpleKeyAllowed := true }
  simpleToken .blockEntry 1

/-- `?` before a key. -/
def fetchKey : ScanM Unit := do
  let s ← get
  if s.flowLevel == 0 then
    if !s.simpleKeyAllowed then
      scanError s.mark "mapping keys are not allowed in this context"
    rollIndent s.mark.column none .blockMappingStart s.mark
  removeSimpleKey
  modify fun s => { s with simpleKeyAllowed := s.flowLevel == 0 }
  simpleToken .key 1

/-- `:` before a value: turns a possible simple key into a key. -/
def fetchValue : ScanM Unit := do
  let (valid, k) ← keyStillPossible (← get).topKey
  setTopKey k
  if valid then
    insertToken k.tokenNumber { kind := .key, start := k.mark, stop := k.mark }
    rollIndent k.mark.column (some k.tokenNumber) .blockMappingStart k.mark
    setTopKey { k with possible := false }
    modify fun s => { s with simpleKeyAllowed := false }
  else
    let s ← get
    if s.flowLevel == 0 then
      if !s.simpleKeyAllowed then
        scanError s.mark "mapping values are not allowed in this context"
      rollIndent s.mark.column none .blockMappingStart s.mark
    modify fun s => { s with simpleKeyAllowed := s.flowLevel == 0 }
  simpleToken .value 1

/-! ## Anchors, aliases and tags -/

/-- `&name` or `*name`. -/
def fetchAnchor (kind : TokenKind) : ScanM Unit := do
  saveSimpleKey
  modify fun s => { s with simpleKeyAllowed := false }
  let start := (← get).mark
  skip
  let name ← takeWhile isAlpha
  let c ← cur
  if name.isEmpty || !(isBlankZ c || c == '?' || c == ':' || c == ',' || c == ']' || c == '}' ||
      c == '%' || c == '@' || c.toNat == 96) then
    scanError start "did not find expected alphabetic or numeric character"
  emit { kind := kind, start := start, stop := (← get).mark, value := name }

/-- Characters that may stand in a tag. -/
def isUriChar (c : Char) : Bool :=
  isAlpha c || ";/?:@&=+$,.!~*'()[]%".toList.contains c

/-- Takes a `%XX` escape of a tag. -/
def takeUriEscape (start : Mark) : ScanM Char := do
  let a ← ahead 1
  let b ← ahead 2
  if !(isHex a && isHex b) then
    scanError start "did not find URI escaped octet"
  skip; skip; skip
  return Char.ofNat (hexValue a * 16 + hexValue b)

/-- Takes the characters of a tag, after an optional head already read. -/
def takeTagUri (start : Mark) (head : String) : ScanM String := do
  let rec go : Nat → String → Bool → ScanM (String × Bool)
    | 0, acc, seen => pure (acc, seen)
    | n + 1, acc, seen => do
      let c ← cur
      if isUriChar c then
        if c == '%' then go n (acc.push (← takeUriEscape start)) true
        else
          skip
          go n (acc.push c) true
      else pure (acc, seen)
  let (text, seen) ← go (← get).fuel (String.ofList (head.toList.drop 1)) (head.length > 0)
  if !seen then scanError start "did not find expected tag URI"
  return text

/-- Takes a tag handle: `!`, `!!` or `!name!`, or the start of a `!suffix` tag. -/
def takeTagHandle (start : Mark) : ScanM String := do
  if (← cur) != '!' then scanError start "did not find expected '!'"
  skip
  let name ← takeWhile isAlpha
  if (← cur) == '!' then
    skip
    return "!" ++ name ++ "!"
  return "!" ++ name

/-- `!suffix`, `!!suffix`, `!handle!suffix` or `!<uri>`. -/
def fetchTag : ScanM Unit := do
  saveSimpleKey
  modify fun s => { s with simpleKeyAllowed := false }
  let start := (← get).mark
  let (handle, suffix) ← do
    if (← ahead 1) == '<' then
      skip; skip
      let uri ← takeTagUri start ""
      if (← cur) != '>' then scanError start "did not find the expected '>'"
      skip
      pure ("", uri)
    else
      let h ← takeTagHandle start
      if h.length > 1 && h.back == '!' then
        pure (h, ← takeTagUri start "")
      else
        let rest ← takeTagUri start h
        if rest.isEmpty then pure ("", "!") else pure ("!", rest)
  let s ← get
  let c := s.at 0
  if !isBlankZ c && (s.flowLevel == 0 || c != ',') then
    scanError start "did not find expected whitespace or line break"
  emit { kind := .tag, start := start, stop := s.mark, value := handle, suffix := suffix }

/-! ## Directives -/

/-- Skips blanks and a comment, then expects the end of the line. -/
def finishDirectiveLine (start : Mark) : ScanM Unit := do
  skipWhile isBlank
  if (← cur) == '#' then skipWhile fun c => !isBreakZ c
  if !isBreakZ (← cur) then scanError start "did not find expected comment or line break"
  skipLine

/-- Takes the digits of a version number. -/
def takeVersionNumber (start : Mark) : ScanM Nat := do
  let digits ← takeWhile fun c => '0' ≤ c && c ≤ '9'
  if digits.length > 9 then scanError start "found extremely long version number"
  if digits.isEmpty then scanError start "did not find expected version number"
  return digits.toList.foldl (fun n c => n * 10 + (c.toNat - 48)) 0

/-- `%YAML major.minor` or `%TAG handle prefix`. -/
def fetchDirective : ScanM Unit := do
  unrollIndent (-1) (← get).mark
  removeSimpleKey
  modify fun s => { s with simpleKeyAllowed := false }
  let start := (← get).mark
  skip
  let name ← takeWhile isAlpha
  if name.isEmpty then scanError start "could not find expected directive name"
  if !isBlankZ (← cur) then scanError start "found unexpected non-alphabetical character"
  if name == "YAML" then
    skipWhile isBlank
    let major ← takeVersionNumber start
    if (← cur) != '.' then scanError start "did not find expected digit or '.' character"
    skip
    let minor ← takeVersionNumber start
    let stop := (← get).mark
    finishDirectiveLine start
    emit { kind := .versionDirective, start := start, stop := stop,
           value := toString major, suffix := toString minor }
  else if name == "TAG" then
    skipWhile isBlank
    let handle ← takeTagHandle start
    if !isBlank (← cur) then scanError start "did not find expected whitespace"
    skipWhile isBlank
    let pfx ← takeTagUri start ""
    if !isBlankZ (← cur) then scanError start "did not find expected whitespace or line break"
    let stop := (← get).mark
    finishDirectiveLine start
    emit { kind := .tagDirective, start := start, stop := stop, value := handle, suffix := pfx }
  else scanError start "found unknown directive name"

/-! ## Scalars -/

/-- Whether a document marker `---` or `...` starts here. -/
def Scanner.atDocumentMarker (s : Scanner) : Bool :=
  s.mark.column == 0 &&
    ((s.at 0 == '-' && s.at 1 == '-' && s.at 2 == '-') ||
     (s.at 0 == '.' && s.at 1 == '.' && s.at 2 == '.')) && isBlankZ (s.at 3)

/-- Folds the line breaks met between two parts of a flow or plain scalar: a single break
becomes a space, more breaks stay as the later ones. -/
def foldBreaks (leading trailing : String) : String :=
  if leading == "\n" then (if trailing.isEmpty then " " else trailing) else leading ++ trailing

/-- The escape of a double-quoted scalar after the backslash: the text it stands for, or the
number of hex digits of a code escape. -/
def escapeOf (c : Char) : Option (Sum String Nat) :=
  match c with
  | '0' => some (.inl "\x00")
  | 'a' => some (.inl "\x07")
  | 'b' => some (.inl "\x08")
  | 't' | '\t' => some (.inl "\t")
  | 'n' => some (.inl "\n")
  | 'v' => some (.inl "\x0b")
  | 'f' => some (.inl "\x0c")
  | 'r' => some (.inl "\r")
  | 'e' => some (.inl "\x1b")
  | ' ' => some (.inl " ")
  | '"' => some (.inl "\"")
  | '\'' => some (.inl "'")
  | '\\' => some (.inl "\\")
  | 'N' => some (.inl (String.singleton (Char.ofNat 0x85)))
  | '_' => some (.inl (String.singleton (Char.ofNat 0xA0)))
  | 'L' => some (.inl (String.singleton (Char.ofNat 0x2028)))
  | 'P' => some (.inl (String.singleton (Char.ofNat 0x2029)))
  | 'x' => some (.inr 2)
  | 'u' => some (.inr 4)
  | 'U' => some (.inr 8)
  | _ => none

/-- The non-blank run of a quoted scalar: answers the text and whether an escaped line break
ended it. -/
def quotedRun (single : Bool) (start : Mark) : ScanM (String × Bool) := do
  let rec go : Nat → String → ScanM (String × Bool)
    | 0, acc => pure (acc, false)
    | n + 1, acc => do
      let s ← get
      let c := s.at 0
      if isBlankZ c then return (acc, false)
      if single && c == '\'' && s.at 1 == '\'' then
        skip; skip
        go n (acc.push '\'')
      else if single && c == '\'' then return (acc, false)
      else if !single && c == '"' then return (acc, false)
      else if !single && c == '\\' && isBreak (s.at 1) then
        skip
        skipLine
        return (acc, true)
      else if !single && c == '\\' then
        match escapeOf (s.at 1) with
        | none => scanError start "found unknown escape character"
        | some (.inl text) =>
          skip; skip
          go n (acc ++ text)
        | some (.inr width) =>
          skip; skip
          let s ← get
          let digits := (List.range width).map fun k => s.at k
          if !digits.all isHex then scanError start "did not find expected hexdecimal number"
          let code := digits.foldl (fun v d => v * 16 + hexValue d) 0
          if (0xD800 ≤ code && code ≤ 0xDFFF) || code > 0x10FFFF then
            scanError start "found invalid Unicode character escape code"
          for _ in [0:width] do skip
          go n (acc.push (Char.ofNat code))
      else
        skip
        go n (acc.push c)
  go (← get).fuel ""

/-- The blanks and breaks after a run: answers the blanks kept, the first break, the later
breaks and whether a break was met. -/
def quotedGap (leading : Bool) : ScanM (String × String × String × Bool) := do
  let rec go : Nat → String → String → String → Bool → ScanM (String × String × String × Bool)
    | 0, w, l, t, b => pure (w, l, t, b)
    | n + 1, w, l, t, b => do
      let c ← cur
      if isBlank c then
        if !b then
          skip
          go n (w.push c) l t b
        else
          skip
          go n w l t b
      else if isBreak c then
        if !b then
          let br ← takeLine
          go n "" br t true
        else
          let br ← takeLine
          go n w l (t ++ br) b
      else pure (w, l, t, b)
  go (← get).fuel "" "" "" leading

/-- A single- or double-quoted scalar. -/
def scanFlowScalar (single : Bool) : ScanM Token := do
  let start := (← get).mark
  skip
  let rec go : Nat → String → ScanM String
    | 0, acc => pure acc
    | n + 1, acc => do
      let s ← get
      if s.atDocumentMarker then scanError start "found unexpected document indicator"
      if s.mark.index ≥ s.input.size then scanError start "found unexpected end of stream"
      let (run, escapedBreak) ← quotedRun single start
      let acc := acc ++ run
      let c ← cur
      if (single && c == '\'') || (!single && c == '"') then return acc
      let (spaces, leadingBreak, trailing, broke) ← quotedGap escapedBreak
      if broke then go n (acc ++ foldBreaks leadingBreak trailing)
      else go n (acc ++ spaces)
  let text ← go (← get).fuel ""
  skip
  return { kind := .scalar, start := start, stop := (← get).mark, value := text,
           style := if single then .singleQuoted else .doubleQuoted }

/-- Whether a character ends a plain scalar here. -/
def Scanner.endsPlain (s : Scanner) : Bool :=
  let c := s.at 0
  (c == ':' && isBlankZ (s.at 1)) ||
    (s.flowLevel > 0 && (c == ',' || c == '[' || c == ']' || c == '{' || c == '}'))

/-- A plain scalar, possibly over several lines. -/
def scanPlainScalar : ScanM Token := do
  let s0 ← get
  let start := s0.mark
  let indent : Int := s0.indent + 1
  -- One turn: the document-marker and comment checks, a run of non-blank characters, then the
  -- blanks and breaks that follow it.
  let rec go : Nat → String → Mark → String → String → String → Bool →
      ScanM (String × Mark × Bool)
    | 0, acc, stop, _, _, _, lb => pure (acc, stop, lb)
    | n + 1, acc, stop, spaces, leadingBreak, trailing, lb => do
      let s ← get
      if s.atDocumentMarker || s.at 0 == '#' then return (acc, stop, lb)
      -- The non-blank run.
      let rec run : Nat → String → Mark → String → String → String → Bool →
          ScanM (String × Mark × String × String × String × Bool)
        | 0, acc, stop, w, l, t, lb => pure (acc, stop, w, l, t, lb)
        | m + 1, acc, stop, w, l, t, lb => do
          let s ← get
          if isBlankZ (s.at 0) || s.endsPlain then return (acc, stop, w, l, t, lb)
          let acc := if lb then acc ++ foldBreaks l t else acc ++ w
          let c ← take
          run m (acc.push c) (← get).mark "" "" "" false
      let (acc, stop, spaces, leadingBreak, trailing, lb) ←
        run (← get).fuel acc stop spaces leadingBreak trailing lb
      let c ← cur
      if !(isBlank c || isBreak c) then return (acc, stop, lb)
      -- The blanks and breaks.
      let rec gap : Nat → String → String → String → Bool → ScanM (String × String × String × Bool)
        | 0, w, l, t, lb => pure (w, l, t, lb)
        | m + 1, w, l, t, lb => do
          let s ← get
          let c := s.at 0
          if isBlank c then
            if lb && (s.mark.column : Int) < indent && c == '\t' then
              scanError start "found a tab character that violates indentation"
            skip
            if !lb then gap m (w.push c) l t lb else gap m w l t lb
          else if isBreak c then
            let br ← takeLine
            if !lb then gap m "" br t true else gap m w l (t ++ br) lb
          else pure (w, l, t, lb)
      let (spaces, leadingBreak, trailing, lb) ← gap (← get).fuel spaces leadingBreak trailing lb
      let s ← get
      if s.flowLevel == 0 && (s.mark.column : Int) < indent then return (acc, stop, lb)
      go n acc stop spaces leadingBreak trailing lb
  let (text, stop, lb) ← go s0.fuel "" start "" "" "" false
  if lb then modify fun s => { s with simpleKeyAllowed := true }
  return { kind := .scalar, start := start, stop := stop, value := text, style := .plain }

/-- The indentation and empty lines before the content of a block scalar, or between its
lines; settles the indentation when it is not yet known. -/
def blockScalarBreaks (start : Mark) (indent : Nat) : ScanM (Nat × String × Mark) := do
  let rec go : Nat → Nat → String → Mark → ScanM (Nat × String × Mark)
    | 0, maxIndent, breaks, stop => pure (maxIndent, breaks, stop)
    | n + 1, maxIndent, breaks, stop => do
      let rec spaces : Nat → ScanM Unit
        | 0 => pure ()
        | k + 1 => do
          let s ← get
          if (indent == 0 || s.mark.column < indent) && s.at 0 == ' ' then
            skip
            spaces k
      spaces (← get).fuel
      let s ← get
      let maxIndent := max maxIndent s.mark.column
      if (indent == 0 || s.mark.column < indent) && s.at 0 == '\t' then
        scanError start "found a tab character where an indentation space is expected"
      if !isBreak (s.at 0) then return (maxIndent, breaks, stop)
      let br ← takeLine
      go n maxIndent (breaks ++ br) (← get).mark
  let (maxIndent, breaks, stop) ← go (← get).fuel 0 "" (← get).mark
  let s ← get
  let indent :=
    if indent != 0 then indent
    else
      let i : Int := max (max (maxIndent : Int) (s.indent + 1)) 1
      i.toNat
  return (indent, breaks, stop)

/-- A literal `|` or folded `>` block scalar. -/
def scanBlockScalar (literal : Bool) : ScanM Token := do
  let start := (← get).mark
  skip
  -- Chomping and indentation indicators, in either order.
  let readChomp : ScanM Int := do
    let c ← cur
    if c == '+' then skip; return 1
    else if c == '-' then skip; return -1
    else return 0
  let readIncrement : ScanM Nat := do
    let c ← cur
    if '0' ≤ c && c ≤ '9' then
      if c == '0' then scanError start "found an indentation indicator equal to 0"
      skip
      return c.toNat - 48
    else return 0
  let c ← cur
  let (chomping, increment) ←
    if c == '+' || c == '-' then do
      let ch ← readChomp
      let inc ← readIncrement
      pure (ch, inc)
    else if '0' ≤ c && c ≤ '9' then do
      let inc ← readIncrement
      let ch ← readChomp
      pure (ch, inc)
    else pure (0, 0)
  skipWhile isBlank
  if (← cur) == '#' then skipWhile fun c => !isBreakZ c
  if !isBreakZ (← cur) then scanError start "did not find expected comment or line break"
  if isBreak (← cur) then skipLine
  let s ← get
  let indent : Nat :=
    if increment > 0 then (if s.indent ≥ 0 then (s.indent + increment).toNat else increment) else 0
  let (indent, trailing, stop) ← blockScalarBreaks start indent
  -- The content lines.
  let rec lines : Nat → String → String → String → Bool → Mark → ScanM (String × String × String × Mark)
    | 0, acc, l, t, _, stop => pure (acc, l, t, stop)
    | n + 1, acc, leadingBreak, trailing, leadingBlank, stop => do
      let s ← get
      if s.mark.column != indent || s.mark.index ≥ s.input.size then
        return (acc, leadingBreak, trailing, stop)
      let trailingBlank := isBlank (s.at 0)
      let acc :=
        if !literal && !leadingBlank && !trailingBlank && leadingBreak == "\n" then
          (if trailing.isEmpty then acc.push ' ' else acc)
        else acc ++ leadingBreak
      let acc := acc ++ trailing
      let leadingBlank := isBlank (s.at 0)
      let line ← takeWhile fun c => !isBreakZ c
      let br ← takeLine
      let (_, trailing, stop) ← blockScalarBreaks start indent
      lines n (acc ++ line) br trailing leadingBlank stop
  let (text, leadingBreak, trailing, stop) ← lines (← get).fuel "" "" trailing false stop
  let text := if chomping != -1 then text ++ leadingBreak else text
  let text := if chomping == 1 then text ++ trailing else text
  return { kind := .scalar, start := start, stop := stop, value := text,
           style := if literal then .literal else .folded }

/-! ## The next token -/

/-- Whether a character may start a plain scalar here. -/
def Scanner.startsPlain (s : Scanner) : Bool :=
  let c := s.at 0
  !(isBlankZ c || "-?:,[]\x7b\x7d#&*!|>'\"%@".toList.contains c || c.toNat == 96) ||
    (c == '-' && !isBlank (s.at 1)) ||
    (s.flowLevel == 0 && (c == '?' || c == ':') && !isBlankZ (s.at 1))

/-- Scans the next token into the queue. -/
def fetchNextToken : ScanM Unit := do
  if !(← get).streamStartProduced then
    fetchStreamStart
    return
  let scanMark := (← get).mark
  scanToNextToken
  unrollIndent (← get).mark.column scanMark
  let s ← get
  let c := s.at 0
  if s.mark.index ≥ s.input.size then fetchStreamEnd
  else if s.mark.column == 0 && c == '%' then fetchDirective
  else if s.mark.column == 0 && c == '-' && s.at 1 == '-' && s.at 2 == '-' && isBlankZ (s.at 3) then
    fetchDocumentIndicator .documentStart
  else if s.mark.column == 0 && c == '.' && s.at 1 == '.' && s.at 2 == '.' && isBlankZ (s.at 3) then
    fetchDocumentIndicator .documentEnd
  else if c == '[' then fetchFlowCollectionStart .flowSequenceStart
  else if c == '{' then fetchFlowCollectionStart .flowMappingStart
  else if c == ']' then fetchFlowCollectionEnd .flowSequenceEnd
  else if c == '}' then fetchFlowCollectionEnd .flowMappingEnd
  else if c == ',' then fetchFlowEntry
  else if c == '-' && isBlankZ (s.at 1) then fetchBlockEntry
  else if c == '?' && (s.flowLevel > 0 || isBlankZ (s.at 1)) then fetchKey
  else if c == ':' && (s.flowLevel > 0 || isBlankZ (s.at 1)) then fetchValue
  else if c == '*' then fetchAnchor .alias
  else if c == '&' then fetchAnchor .anchor
  else if c == '!' then fetchTag
  else if c == '|' && s.flowLevel == 0 then do
    removeSimpleKey
    modify fun s => { s with simpleKeyAllowed := true }
    emit (← scanBlockScalar true)
  else if c == '>' && s.flowLevel == 0 then do
    removeSimpleKey
    modify fun s => { s with simpleKeyAllowed := true }
    emit (← scanBlockScalar false)
  else if c == '\'' || c == '"' then do
    saveSimpleKey
    modify fun s => { s with simpleKeyAllowed := false }
    emit (← scanFlowScalar (c == '\''))
  else if s.startsPlain then do
    saveSimpleKey
    modify fun s => { s with simpleKeyAllowed := false }
    emit (← scanPlainScalar)
  else scanError s.mark "found character that cannot start any token"

/-- Scans until the queue holds three tokens past the head and the head token can no longer
turn out to be a key. -/
def fetchMoreTokens : ScanM Unit := do
  let rec go : Nat → ScanM Unit
    | 0 => pure ()
    | n + 1 => do
      let s ← get
      if s.head + 2 < s.tokens.size then
        match s.simpleKeys.findIdx? (fun k => k.possible && k.tokenNumber == s.head) with
        | none => return
        | some i =>
          let (valid, k) ← keyStillPossible (s.simpleKeys.getD i {})
          modify fun s => { s with simpleKeys := s.simpleKeys.setIfInBounds i k }
          if !valid then return
      fetchNextToken
      go n
  go (2 * (← get).input.size + 16)

/-- The head token, scanning as needed. -/
def peekToken : ScanM Token := do
  fetchMoreTokens
  let s ← get
  return s.tokens.getD s.head { kind := .streamEnd, start := s.mark, stop := s.mark }

/-- Hands out the head token. -/
def skipToken : ScanM Unit := do
  let s ← get
  set { s with head := s.head + 1,
               streamEndProduced := (s.tokens.getD s.head { kind := TokenKind.streamEnd }).kind == TokenKind.streamEnd }

/-- A scanner over a text; a leading byte-order mark is dropped. -/
def Scanner.ofString (text : String) : Scanner :=
  let cs := text.toList
  let cs := match cs with
    | c :: rest => if c.toNat == 0xFEFF then rest else cs
    | [] => []
  { input := cs.toArray }

end Yaml

end Harvest
