import Harvest.Config.Dynamic
import Harvest.Text.Number
import Harvest.Text.Quoted
import Harvest.Time
/-!
# Harvest.Config.Toml

Reading TOML documents into text-keyed maps.

A document is a sequence of lines: blank lines and `#` comments, `key = value` pairs, `[table]`
headers and `[[array]]` headers. Keys are bare (letters, digits, `_`, `-`) or quoted, and may be
dotted to reach into nested tables. Values are strings (basic with escapes, literal, and their
multi-line forms), integers (decimal, `0x`, `0o`, `0b`, with `_` between digits) read as 64-bit
integers, floats (with `inf` and `nan`), booleans, dates and times, arrays and inline tables.
A date or time is an instant when it has a date, a time of day and a zone, else a local date,
time, or date and time; its fields are checked when its value is read.

Each expression is read with the blanks and comment after it first; then its keys are checked
against those defined so far, then its numbers and dates are read, and only then is the line
break after it looked at. A comment may not hold control characters. A key may be defined once. A table header may name
a table only once, and not one that dotted keys of an earlier section made; a dotted key may not
reach into a table a header made. An array-of-tables header starts a fresh element, whose keys
may repeat those of the element before. Inline tables are closed: their keys are checked among
themselves. Failures read `toml: <problem>`.
-/

namespace Harvest

namespace Toml

/-- Reading steps over the remaining characters. -/
abbrev ReadM := StateT (List Char) (Except String)

/-- Fails with a problem. -/
def fail {α : Type} (msg : String) : ReadM α := throw ("toml: " ++ msg)

/-- Skips spaces and tabs. -/
def skipBlanks : ReadM Unit := modify fun cs => cs.dropWhile fun c => c == ' ' || c == '\t'

/-- Lifts a checked step into reading. -/
def liftCheck {α : Type} : Except String α → ReadM α
  | .ok a => pure a
  | .error e => throw e

/-- The code point of a character's first UTF-8 byte: the character itself when it is ASCII.
Problems name the byte where reading stopped. -/
def leadByte (c : Char) : Nat :=
  let n := c.toNat
  if n < 0x80 then n
  else if n < 0x800 then 0xC0 + n / 0x40
  else if n < 0x10000 then 0xE0 + n / 0x1000
  else 0xF0 + n / 0x40000

/-- The byte where reading stopped as `U+0078 'x'`; the quoted form is left out for bytes that
do not print. -/
def codePoint (c : Char) : String :=
  let hex := "0123456789ABCDEF".toList
  let n := leadByte c
  let digits := (List.range 4).reverse.map fun i => hex.getD (n / Nat.pow 16 i % 16) '0'
  let code := "U+" ++ String.ofList digits
  if n < 0x20 || n == 0x7F then code else code ++ " '" ++ String.singleton (Char.ofNat n) ++ "'"

/-- Whether a character may not stand unescaped in a string: a control character other than tab,
line feed and carriage return, or delete. -/
def isControl (c : Char) : Bool :=
  let n := c.toNat
  n ≤ 8 || n == 0x0B || n == 0x0C || (0x0E ≤ n && n ≤ 0x1F) || n == 0x7F

/-- Skips a comment after its `#`, up to its line break. A comment may not hold control
characters other than tab, nor a carriage return that no line feed follows. -/
def skipComment : List Char → Except String (List Char)
  | [] => .ok []
  | '\n' :: rest => .ok ('\n' :: rest)
  | '\r' :: '\n' :: rest => .ok ('\n' :: rest)
  | '\r' :: _ => .error "toml: invalid character in comment"
  | c :: rest => if isControl c then .error "toml: invalid character in comment" else skipComment rest

/-- Skips the blanks and the optional comment after an expression. -/
def trailing : ReadM Unit := do
  skipBlanks
  if let '#' :: rest := ← get then set (← liftCheck (skipComment rest))

/-- Takes a line break: a line feed, or a carriage return and a line feed. -/
def lineBreak : ReadM Unit := do
  match ← get with
  | '\n' :: rest => set rest
  | ['\r'] => fail "windows new line expected"
  | '\r' :: '\n' :: rest => set rest
  | '\r' :: _ => fail "windows new line should be \\r\\n"
  | c :: _ => fail ("expected newline but got " ++ codePoint c)
  | [] => pure ()

/-- Skips blanks, comments and line breaks. -/
def skipBlankLines : ReadM Unit := do
  let rec go : Nat → ReadM Unit
    | 0 => pure ()
    | n + 1 => do
      trailing
      match ← get with
      | '\n' :: _ | '\r' :: _ => lineBreak; go n
      | _ => pure ()
  go ((← get).length + 1)

/-- Whether a character may stand in a bare key. -/
def isBareChar (c : Char) : Bool :=
  ('a' ≤ c && c ≤ 'z') || ('A' ≤ c && c ≤ 'Z') || ('0' ≤ c && c ≤ '9') || c == '_' || c == '-'

/-- The escape sequences of basic strings. -/
def escapeChar (c : Char) : Option Char :=
  match c with
  | 'b' => some (Char.ofNat 8)
  | 't' => some '\t'
  | 'n' => some '\n'
  | 'f' => some (Char.ofNat 12)
  | 'r' => some '\r'
  | 'e' => some (Char.ofNat 27)
  | '"' => some '"'
  | '\\' => some '\\'
  | _ => none

/-- The value of hex digits. -/
def hexDigits (cs : List Char) : Option Nat :=
  cs.foldl (fun acc c => acc.bind fun n =>
    if '0' ≤ c && c ≤ '9' then some (n * 16 + (c.toNat - 48))
    else if 'a' ≤ c && c ≤ 'f' then some (n * 16 + (c.toNat - 87))
    else if 'A' ≤ c && c ≤ 'F' then some (n * 16 + (c.toNat - 55))
    else none) (some 0)

/-- The number of UTF-8 bytes of a text. -/
def byteLength (cs : List Char) : Nat := cs.foldl (fun n c => n + c.utf8Size) 0

/-- Reads the code point of a `\u` or `\U` escape from the text after its letter: `len` hex
digits naming a Unicode scalar value. -/
def hexRune (cs : List Char) (len : Nat) : Except String Char :=
  let n := byteLength cs
  if n < len then
    .error ("toml: unicode point needs " ++ toString len ++ " character, not " ++ toString n)
  else
    match hexDigits (cs.take len) with
    | none => .error "toml: non-hex character"
    | some v =>
      if (cs.take len).length < len then .error "toml: non-hex character"
      else if v > 0x10FFFF || (0xD800 ≤ v && v < 0xE000) then
        .error "toml: escape sequence is invalid Unicode code point"
      else .ok (Char.ofNat v)

/-- Finds the end of a basic string after its opening quote: its body, whether the body has
escapes, and the text after the closing quote. A backslash takes the character after it along. -/
def scanBasic : List Char → List Char → Bool → Except String (List Char × Bool × List Char)
  | [], _, _ => .error "toml: basic string not terminated by \""
  | '"' :: rest, acc, esc => .ok (acc.reverse, esc, rest)
  | '\n' :: _, _, _ | '\r' :: _, _, _ => .error "toml: basic strings cannot have new lines"
  | ['\\'], _, _ => .error "toml: need a character after \\"
  | '\\' :: c :: rest, acc, _ => scanBasic rest (c :: '\\' :: acc) true
  | c :: rest, acc, esc => scanBasic rest (c :: acc) esc

/-- Finds the end of a multi-line basic string after its opening quotes. Up to two quotes right
before the closing ones belong to the body; a third is an error. A carriage return must be
followed by a line feed. -/
def scanMultiBasic : List Char → List Char → Bool → Except String (List Char × Bool × List Char)
  | [], _, _ => .error "toml: multiline basic string not terminated by \"\"\""
  | '"' :: '"' :: '"' :: rest, acc, esc =>
    match rest with
    | '"' :: '"' :: '"' :: _ => .error "toml: \"\"\" not allowed in multiline basic string"
    | '"' :: '"' :: rest => .ok (acc.reverse ++ ['"', '"'], esc, rest)
    | '"' :: rest => .ok (acc.reverse ++ ['"'], esc, rest)
    | _ => .ok (acc.reverse, esc, rest)
  | ['\\'], _, _ => .error "toml: need a character after \\"
  | '\\' :: c :: rest, acc, _ => scanMultiBasic rest (c :: '\\' :: acc) true
  | '\r' :: '\n' :: rest, acc, esc => scanMultiBasic rest ('\n' :: '\r' :: acc) esc
  | '\r' :: _, _, _ => .error "toml: need a \\n after \\r"
  | c :: rest, acc, esc => scanMultiBasic rest (c :: acc) esc

/-- Whether a backslash ends its line: only blanks stand between it and the line break. -/
def endsLine : List Char → Bool
  | ' ' :: rest | '\t' :: rest => endsLine rest
  | '\r' :: '\n' :: _ | '\n' :: _ => true
  | _ => false

/-- Whether a character is a blank or a line break. -/
def isBlankOrBreak (c : Char) : Bool := c == ' ' || c == '\t' || c == '\n' || c == '\r'

/-- Replaces the escapes of a string body. `close` is what follows the body in the document, seen
by a `\u` or `\U` escape that runs short; in a multi-line body a backslash that ends its line
drops the line break and the blanks and breaks after it. -/
def unescapeBody (multi : Bool) (close : List Char) : Nat → List Char → List Char →
    Except String (List Char)
  | 0, _, acc => .ok acc.reverse
  | _, [], acc => .ok acc.reverse
  | fuel + 1, '\\' :: rest, acc =>
    if multi && endsLine rest then unescapeBody multi close fuel (rest.dropWhile isBlankOrBreak) acc
    else
      match rest with
      | 'u' :: more => do
        let r ← hexRune (more ++ close) 4
        unescapeBody multi close fuel (more.drop 4) (r :: acc)
      | 'U' :: more => do
        let r ← hexRune (more ++ close) 8
        unescapeBody multi close fuel (more.drop 8) (r :: acc)
      | c :: more =>
        match escapeChar c with
        | some e => unescapeBody multi close fuel more (e :: acc)
        | none => .error ("toml: invalid escaped character " ++ codePoint c)
      | [] => .ok acc.reverse
  | fuel + 1, c :: rest, acc =>
    if isControl c then .error ("toml: invalid character " ++ codePoint c)
    else unescapeBody multi close fuel rest (c :: acc)

/-- The text of a basic string body: checked as it is when it has no escapes, else with its
escapes replaced. -/
def basicBody (multi : Bool) (close body : List Char) (escaped : Bool) : Except String String :=
  if !escaped then
    if body.any isControl then .error "toml: invalid UTF-8" else .ok (String.ofList body)
  else (unescapeBody multi close (body.length + 1) body []).map String.ofList

/-- Drops the line break right after the opening quotes of a multi-line string. -/
def dropFirstBreak : List Char → List Char
  | '\n' :: rest => rest
  | '\r' :: '\n' :: rest => rest
  | cs => cs

/-- Reads a basic string after its opening quote; `multi` for the triple-quoted form. -/
def basicString (multi : Bool) : ReadM String := do
  let cs ← get
  if multi then
    let (body, escaped, rest) ← liftScan (scanMultiBasic cs [] false)
    set rest
    liftScan (basicBody true ['"', '"', '"'] (dropFirstBreak body) escaped)
  else
    let (body, escaped, rest) ← liftScan (scanBasic cs [] false)
    set rest
    liftScan (basicBody false [] body escaped)
where
  liftScan {α : Type} : Except String α → ReadM α
    | .ok a => pure a
    | .error e => throw e

/-- Finds the end of a literal string after its opening quote: its body and the text after the
closing quote. -/
def scanLiteral : List Char → List Char → Except String (List Char × List Char)
  | [], _ => .error "toml: unterminated literal string"
  | '\'' :: rest, acc => .ok (acc.reverse, rest)
  | '\n' :: _, _ | '\r' :: _, _ => .error "toml: literal strings cannot have new lines"
  | c :: rest, acc => if isControl c then .error "toml: invalid character" else scanLiteral rest (c :: acc)

/-- Finds the end of a multi-line literal string after its opening quotes, as `scanMultiBasic`
does for basic strings. -/
def scanMultiLiteral : List Char → List Char → Except String (List Char × List Char)
  | [], _ => .error "toml: multiline literal string not terminated by '''"
  | '\'' :: '\'' :: '\'' :: rest, acc =>
    match rest with
    | '\'' :: '\'' :: '\'' :: _ => .error "toml: ''' not allowed in multiline literal string"
    | '\'' :: '\'' :: rest => .ok (acc.reverse ++ ['\'', '\''], rest)
    | '\'' :: rest => .ok (acc.reverse ++ ['\''], rest)
    | _ => .ok (acc.reverse, rest)
  | '\r' :: '\n' :: rest, acc => scanMultiLiteral rest ('\n' :: '\r' :: acc)
  | '\r' :: _, _ => .error "toml: need a \\n after \\r"
  | c :: rest, acc =>
    if isControl c then .error "toml: invalid character" else scanMultiLiteral rest (c :: acc)

/-- Reads a literal string after its opening quote; `multi` for the triple-quoted form. -/
def literalString (multi : Bool) : ReadM String := do
  let cs ← get
  let scanned := if multi then scanMultiLiteral cs [] else scanLiteral cs []
  match scanned with
  | .ok (body, rest) =>
    set rest
    return String.ofList (if multi then dropFirstBreak body else body)
  | .error e => throw e

/-- Reads one key part. -/
def keyPart : ReadM String := do
  match ← get with
  | '"' :: rest => set rest; basicString false
  | '\'' :: rest => set rest; literalString false
  | cs =>
    let bare := cs.takeWhile isBareChar
    if bare.isEmpty then
      match cs with
      | c :: _ => fail ("invalid character at start of key: " ++ String.singleton c)
      | [] => fail "expected key but found none"
    set (cs.drop bare.length)
    return String.ofList bare

/-- Reads a possibly dotted key. -/
def dottedKey : ReadM (List String) := do
  let rec go : Nat → List String → ReadM (List String)
    | 0, acc => pure acc.reverse
    | n + 1, acc => do
      skipBlanks
      let p ← keyPart
      skipBlanks
      match ← get with
      | '.' :: rest => set rest; go n (p :: acc)
      | _ => pure (p :: acc).reverse
  go ((← get).length + 1) []

/-! ## Scalars -/

/-- Whether a character is an ASCII digit. -/
def isDigit (c : Char) : Bool := '0' ≤ c && c ≤ '9'

/-- Whether a value is a date or time: among its first five characters, after digits only, a
`:` stands third or a `-` fifth. Shorter values are numbers. -/
def isDateStart (cs : List Char) : Bool :=
  let rec go : List Char → Nat → Bool
    | [], _ => false
    | c :: rest, i => if isDigit c then go rest (i + 1) else (i == 2 && c == ':') || (i == 4 && c == '-')
  match cs with
  | _ :: _ :: _ :: _ => go (cs.take 5) 0
  | _ => false

/-- What the characters of a date or time show: a date (a `-`), a time of day (`T`, `t`, `:`,
`.` or an inner space) and a zone (`Z`, `z`, `+`, or a `-` from the ninth character on). -/
structure DateMarks where
  date : Bool := false
  time : Bool := false
  zone : Bool := false

/-- The type of value the marks of a date or time call for. -/
def DateMarks.type (m : DateMarks) : TimeType :=
  if m.time then (if m.date then (if m.zone then .instant else .localDateTime) else .localTime)
  else .localDate

/-- The text of a date or time at the start of the input, with its marks; `i` is the position
and `acc` the text so far, reversed. The text runs over digits, `-`, `:`, `.`, `T`, `t`, `+`,
`Z` and `z`. One space may stand inside when a digit follows it; the space, the digit and the
character after them are then taken together. -/
def dateRun : Nat → List Char → Bool → DateMarks → List Char → List Char × DateMarks
  | _, [], _, m, acc => (acc.reverse, m)
  | i, c :: rest, spaced, m, acc =>
    if isDigit c then dateRun (i + 1) rest spaced m (c :: acc)
    else if c == '-' then
      dateRun (i + 1) rest spaced { m with date := true, zone := m.zone || i ≥ 8 } (c :: acc)
    else if c == 'T' || c == 't' || c == ':' || c == '.' then
      dateRun (i + 1) rest spaced { m with time := true } (c :: acc)
    else if c == '+' || c == 'Z' || c == 'z' then
      dateRun (i + 1) rest spaced { m with zone := true } (c :: acc)
    else if c == ' ' && !spaced then
      match rest with
      | d :: more =>
        if isDigit d then
          match more with
          | e :: more => dateRun (i + 3) more true { m with time := true } (e :: d :: c :: acc)
          | [] => ((d :: c :: acc).reverse, { m with time := true })
        else (acc.reverse, m)
      | [] => (acc.reverse, m)
    else (acc.reverse, m)

/-- The end of a number's text: empty text is no number. -/
def runEnd (acc : List Char) (isFloat : Bool) : Except String (List Char × Bool) :=
  if acc.isEmpty then .error "toml: incomplete number" else .ok (acc.reverse, isFloat)

/-- The text of a number at the start of the input, and whether it is a float: digits, signs and
`_`, with `.`, `e` and `E` making it a float; `inf` or `nan` ends it as a float. -/
def plainRun : List Char → List Char → Bool → Except String (List Char × Bool)
  | [], acc, f => runEnd acc f
  | c :: rest, acc, f =>
    if isDigit c || c == '+' || c == '-' || c == '_' then plainRun rest (c :: acc) f
    else if c == '.' || c == 'e' || c == 'E' then plainRun rest (c :: acc) true
    else if c == 'i' then
      match rest with
      | 'n' :: 'f' :: _ => .ok (acc.reverse ++ ['i', 'n', 'f'], true)
      | _ => .error "toml: unexpected character 'i' while scanning for a number"
    else if c == 'n' then
      match rest with
      | 'a' :: 'n' :: _ => .ok (acc.reverse ++ ['n', 'a', 'n'], true)
      | _ => .error "toml: unexpected character 'n' while scanning for a number"
    else runEnd acc f

/-- Whether a character may follow a base prefix (`x`, `o` or `b`): a digit of that base or `_`. -/
def prefixDigit (p c : Char) : Bool :=
  c == '_' ||
    if p == 'x' then isDigit c || ('a' ≤ c && c ≤ 'f') || ('A' ≤ c && c ≤ 'F')
    else if p == 'o' then '0' ≤ c && c ≤ '7'
    else c == '0' || c == '1'

/-- The text of a number at the start of the input, and whether it is a float. A `0` with at least
two characters after it, the first not `.`, `e` or `E`, is a base prefix with its digits, or else
the integer `0` alone (what follows it then ends the line too early). -/
def numberRun (cs : List Char) : Except String (List Char × Bool) :=
  match cs with
  | '0' :: p :: rest@(_ :: _) =>
    if p == '.' || p == 'e' || p == 'E' then plainRun cs [] false
    else if p == 'x' || p == 'o' || p == 'b' then .ok ('0' :: p :: rest.takeWhile (prefixDigit p), false)
    else .ok (['0'], false)
  | _ => plainRun cs [] false

/-- The problem a number reading reports for a text. -/
def numberProblem (fn : String) (text : List Char) (e : Number.NumError) : String :=
  e.message (fn ++ ": parsing " ++ quoted (String.ofList text))

/-- Removes the underscores of a number, each of which must follow a character that is not one. -/
def dropUnderscores : List Char → Bool → Except String (List Char)
  | [], _ => .ok []
  | '_' :: rest, before =>
    if before then dropUnderscores rest false
    else .error "toml: number must have at least one digit between underscores"
  | c :: rest, _ => (dropUnderscores rest true).map (c :: ·)

/-- An integer's digits without underscores: the digits may neither start nor end with one. -/
def integerDigits (cs : List Char) : Except String (List Char) :=
  let body := match cs with
    | '+' :: r | '-' :: r => r
    | r => r
  match body with
  | [] => .ok cs
  | '_' :: _ => .error "toml: number cannot start with underscore"
  | _ =>
    if cs.getLast? == some '_' then .error "toml: number cannot end with underscore"
    else dropUnderscores cs false

/-- Reads an integer's text: a `0` and a base letter followed by digits, or else a decimal with an
optional sign, which may not start with a `0` unless it is one. -/
def integerValue (text : String) : Except String Int :=
  match text.toList with
  | '0' :: p :: digits@(_ :: _) =>
    let (base, name) :=
      if p == 'x' then (16, "hexadecimal") else if p == 'o' then (8, "octal") else (2, "binary")
    match integerDigits digits with
    | .error e => .error e
    | .ok cleaned =>
      match Number.parseInt (String.ofList cleaned) base 64 with
      | .ok n => .ok n
      | .error e =>
        .error ("toml: couldn't parse " ++ name ++ " number: " ++ numberProblem "strconv.ParseInt" cleaned e)
  | cs =>
    match integerDigits cs with
    | .error e => .error e
    | .ok cleaned =>
      let start := match cleaned with
        | '+' :: _ | '-' :: _ => 1
        | _ => 0
      if cleaned.length > start + 1 && cleaned.getD start ' ' == '0' then
        .error "toml: leading zero not allowed on decimal number"
      else
        match Number.parseInt (String.ofList cleaned) 10 64 with
        | .ok n => .ok n
        | .error e =>
          .error ("toml: couldn't parse decimal number: " ++ numberProblem "strconv.ParseInt" cleaned e)

/-- Removes the underscores of a float: each must follow a character that is not one, and none
may touch an exponent mark or the decimal point. `before` when the last character kept can carry
an underscore, `after` when the last character read was one. -/
def floatDigits : List Char → Bool → Bool → Except String (List Char)
  | [], _, _ => .ok []
  | '_' :: rest, before, _ =>
    if !before then .error "toml: number must have at least one digit between underscores"
    else
      match rest with
      | 'e' :: _ | 'E' :: _ => .error "toml: cannot have underscore before exponent"
      | _ => floatDigits rest false true
  | c :: rest, before, after =>
    if c == '+' || c == '-' then (floatDigits rest false false).map (c :: ·)
    else if c == 'e' || c == 'E' then
      match rest with
      | '_' :: _ => .error "toml: cannot have underscore after exponent"
      | _ => (floatDigits rest before false).map (c :: ·)
    else if c == '.' then
      match rest with
      | '_' :: _ => .error "toml: cannot have underscore after decimal point"
      | _ =>
        if after then .error "toml: cannot have underscore before decimal point"
        else (floatDigits rest before false).map (c :: ·)
    else (floatDigits rest true false).map (c :: ·)

/-- Checks the decimal points of a float: at most one, with a digit on each side. -/
def checkPoints : List Char → Option Char → Bool → Except String Unit
  | [], _, _ => .ok ()
  | '.' :: rest, prev, seen =>
    if seen then .error "toml: float can have at most one decimal point"
    else if !(prev.map isDigit).getD false then
      .error "toml: float decimal point must be preceded by a digit"
    else if !((rest.head?).map isDigit).getD false then
      .error "toml: float decimal point must be followed by a digit"
    else checkPoints rest (some '.') true
  | c :: rest, _, seen => checkPoints rest (some c) seen

/-- Reads a float's text. -/
def floatValue (text : String) : Except String Float := do
  let b := text.toList
  match b with
  | ['+', 'n', 'a', 'n'] | ['-', 'n', 'a', 'n'] => return (0.0 / 0.0)
  | '_' :: _ => throw "toml: number cannot start with underscore"
  | _ => pure ()
  if b.getLast? == some '_' then throw "toml: number cannot end with underscore"
  let cleaned ← floatDigits b false false
  if cleaned.head? == some '.' then throw "toml: float cannot start with a dot"
  if cleaned.getLast? == some '.' then throw "toml: float cannot end with a dot"
  checkPoints cleaned none false
  let digits := match cleaned with
    | '+' :: r | '-' :: r => r
    | r => r
  match digits with
  | '0' :: d :: _ => if isDigit d then throw "toml: float integer part cannot have leading zeroes"
  | _ => pure ()
  match Number.parseFloat (String.ofList cleaned) with
  | .ok x => return x
  | .error e => throw ("toml: unable to parse float: " ++ numberProblem "strconv.ParseFloat" cleaned e)

/-! ## Dates and times -/

/-- Reads decimal digits. -/
def decimalDigits (cs : List Char) : Except String Nat :=
  cs.foldlM (fun n c =>
    if isDigit c then .ok (n * 10 + (c.toNat - 48)) else .error "toml: expected digit (0-9)") 0

/-- Reads a date `YYYY-MM-DD` that exists in the calendar: year, month and day. -/
def localDate (cs : List Char) : Except String (Nat × Nat × Nat) := do
  if cs.length != 10 || cs.getD 4 ' ' != '-' || cs.getD 7 ' ' != '-' then
    throw "toml: dates are expected to have the format YYYY-MM-DD"
  let y ← decimalDigits (cs.take 4)
  let m ← decimalDigits ((cs.drop 5).take 2)
  let d ← decimalDigits ((cs.drop 8).take 2)
  if !(m > 0 && m < 13 && d > 0 && d ≤ Instant.daysIn y m) then throw "toml: impossible date"
  return (y, m, d)

/-- A time of day as read: hours, minutes, seconds, nanoseconds, and the fraction digits kept. -/
structure Clock where
  hour : Nat
  minute : Nat
  second : Nat
  nanos : Nat := 0
  fraction : List Char := []

/-- Reads a time of day `HH:MM:SS` with an optional fraction at the start of a text; gives the
rest. A fraction keeps its first nine digits and drops the others. A second may be 60. -/
def localTime (cs : List Char) : Except String (Clock × List Char) := do
  if cs.length < 8 then throw "toml: times are expected to have the format HH:MM:SS[.NNNNNN]"
  let h ← decimalDigits (cs.take 2)
  if h > 23 then throw "toml: hour cannot be greater 23"
  if cs.getD 2 ' ' != ':' then throw "toml: expecting colon between hours and minutes"
  let m ← decimalDigits ((cs.drop 3).take 2)
  if m > 59 then throw "toml: minutes cannot be greater 59"
  if cs.getD 5 ' ' != ':' then throw "toml: expecting colon between minutes and seconds"
  let s ← decimalDigits ((cs.drop 6).take 2)
  if s > 60 then throw "toml: seconds cannot be greater 60"
  let clock : Clock := { hour := h, minute := m, second := s }
  match cs.drop 8 with
  | '.' :: more =>
    let digits := more.takeWhile isDigit
    if digits.isEmpty then
      if more.isEmpty then throw "toml: nanoseconds need at least one digit"
      else throw "toml: need at least one digit after fraction point"
    let kept := digits.take 9
    let frac := kept.foldl (fun n c => n * 10 + (c.toNat - 48)) 0
    return ({ clock with nanos := frac * Nat.pow 10 (9 - kept.length), fraction := kept },
      more.drop digits.length)
  | rest => return (clock, rest)

/-- Reads a date and a time of day, apart by `T`, `t` or a space, at the start of a text; gives
the rest. -/
def localDateTime (cs : List Char) : Except String ((Nat × Nat × Nat) × Clock × List Char) := do
  if cs.length < 11 then
    throw "toml: local datetimes are expected to have the format YYYY-MM-DDTHH:MM:SS[.NNNNNNNNN]"
  let date ← localDate (cs.take 10)
  let sep := cs.getD 10 ' '
  if sep != 'T' && sep != ' ' && sep != 't' then
    throw "toml: datetime separator is expected to be T or a space"
  let (clock, rest) ← localTime (cs.drop 11)
  return (date, clock, rest)

/-- Reads the zone of a date-time: `Z`, `z`, or a sign and `hh:mm` with at most 23 hours and 59
minutes. Gives the offset east of UTC in seconds. -/
def zoneOffset (cs : List Char) : Except String Int := do
  match cs with
  | 'Z' :: rest | 'z' :: rest =>
    if !rest.isEmpty then throw "toml: extra bytes at the end of the timezone"
    return 0
  | _ =>
    if cs.length != 6 then throw "toml: invalid date-time timezone"
    let dir : Int ← match cs.head? with
      | some '-' => pure (-1)
      | some '+' => pure 1
      | _ => throw "toml: invalid timezone offset character"
    if cs.getD 3 ' ' != ':' then throw "toml: expected a : separator"
    let h ← decimalDigits ((cs.drop 1).take 2)
    if h > 23 then throw "toml: invalid timezone offset hours"
    let m ← decimalDigits ((cs.drop 4).take 2)
    if m > 59 then throw "toml: invalid timezone offset minutes"
    return dir * ((h * 3600 + m * 60 : Nat) : Int)

/-- The text of a date: `YYYY-MM-DD`. -/
def dateText (date : Nat × Nat × Nat) : String :=
  let (y, m, d) := date
  CivilTime.padded 4 y ++ "-" ++ CivilTime.padded 2 m ++ "-" ++ CivilTime.padded 2 d

/-- The text of a time of day: `HH:MM:SS` and the fraction digits kept. -/
def clockText (c : Clock) : String :=
  CivilTime.padded 2 c.hour ++ ":" ++ CivilTime.padded 2 c.minute ++ ":" ++
    CivilTime.padded 2 c.second ++ (if c.fraction.isEmpty then "" else "." ++ String.ofList c.fraction)

/-- Reads a date or time of a type; gives the text the value prints as. An instant prints in its
own zone, a leap second carried into the next minute. -/
def dateValue (t : TimeType) (s : String) : Except String String := do
  let cs := s.toList
  match t with
  | .localDate => return dateText (← localDate cs)
  | .localTime =>
    let (clock, rest) ← localTime cs
    if !rest.isEmpty then throw "toml: extra characters at the end of a local time"
    return clockText clock
  | .localDateTime =>
    let (date, clock, rest) ← localDateTime cs
    if !rest.isEmpty then throw "toml: extra characters at the end of a local date time"
    return dateText date ++ "T" ++ clockText clock
  | .instant =>
    let ((y, m, d), clock, rest) ← localDateTime cs
    let offset ← zoneOffset rest
    let wall : Instant :=
      ⟨Instant.daysFromCivil y m d * 86400 + clock.hour * 3600 + clock.minute * 60 + clock.second,
        clock.nanos⟩
    let (y, m, d, hh, mm, ss) := wall.fields
    let shown : CivilTime :=
      { year := y, month := m, day := d, hour := hh, minute := mm, second := ss,
        nanos := clock.nanos, offset := if offset == 0 then none else some offset }
    return shown.text

/-! ## Values as read -/

/-- A value as read, before its numbers are checked: numbers and dates keep their text, inline
tables their members with the keys as written. -/
inductive Raw where
  | text (s : String)
  | flag (b : Bool)
  | integer (s : String)
  | float (s : String)
  | date (type : TimeType) (s : String)
  | arr (items : List Raw)
  | table (members : List (List String × Raw))
  deriving Repr, Inhabited

/-- Sets a value under a dotted path, creating tables; a key set before is an error. -/
def setPath : List (String × Dyn) → List String → Dyn → Except String (List (String × Dyn))
  | m, [], _ => .ok m
  | m, [k], v =>
    if (Dyn.lookup m k).isSome then .error ("toml: key " ++ k ++ " is already defined")
    else .ok (Dyn.insert m k v)
  | m, k :: rest, v =>
    match Dyn.lookup m k with
    | none => (setPath [] rest v).map fun sub => Dyn.insert m k (.map sub)
    | some (.map sub) => (setPath sub rest v).map fun sub => Dyn.insert m k (.map sub)
    | some _ => .error ("toml: key " ++ k ++ " is already defined")

mutual

/-- The value a read value stands for; its numbers are checked in document order. -/
def Raw.decode : Raw → Except String Dyn
  | .text s => .ok (.str s)
  | .flag b => .ok (.bool b)
  | .integer s => (integerValue s).map fun n => .int n .int64
  | .float s => (floatValue s).map .float
  | .date t s => (dateValue t s).map (.time t)
  | .arr items => (Raw.decodeItems items).map .list
  | .table members => (Raw.decodeMembers members []).map .map

/-- The values of array items. -/
def Raw.decodeItems : List Raw → Except String (List Dyn)
  | [] => .ok []
  | r :: rs => do
    let d ← r.decode
    let ds ← Raw.decodeItems rs
    pure (d :: ds)

/-- The table of inline table members. -/
def Raw.decodeMembers : List (List String × Raw) → List (String × Dyn) →
    Except String (List (String × Dyn))
  | [], acc => .ok acc
  | (path, v) :: rest, acc => do
    let d ← v.decode
    let acc ← setPath acc path d
    Raw.decodeMembers rest acc

end

/-! ## Definitions -/

/-- What a key was defined as, for the rules against defining it again. -/
inductive KeyKind where
  | value
  | table
  | arrayTable
  deriving DecidableEq, Repr

/-- The name of a key kind in problems. -/
def KeyKind.name : KeyKind → String
  | .value => "value"
  | .table => "table"
  | .arrayTable => "array table"

/-- What is known of a defined key: its kind, whether it is defined explicitly (by a header, or by
a dotted key in a section that has ended), and whether a dotted key of the current section made
it. -/
structure SeenKey where
  kind : KeyKind
  explicit : Bool
  dotted : Bool
  deriving Repr

/-- The keys defined so far, by full path, and the path of the table that keys go into. -/
structure Seen where
  keys : List (List String × SeenKey) := []
  current : List String := []
  deriving Repr

namespace Seen

/-- What is known of a path. -/
def find (s : Seen) (p : List String) : Option SeenKey := s.keys.lookup p

/-- Records a new path. -/
def create (s : Seen) (p : List String) (k : SeenKey) : Seen := { s with keys := (p, k) :: s.keys }

/-- Whether a path lies strictly below another. -/
def below (p q : List String) : Bool := p.isPrefixOf q && p.length < q.length

/-- Ends the current section: the tables its dotted keys made count as explicitly defined. -/
def endSection (s : Seen) : Seen :=
  { s with keys := s.keys.map fun (q, k) =>
      if below s.current q && k.dotted then (q, { k with explicit := true, dotted := false })
      else (q, k) }

/-- Defines a possibly dotted key under a table: the parts before the last must be tables that no
header defined, and the last must be new. -/
def defineKey (s : Seen) (parent : List String) : List String → Except String Seen
  | [] => .ok s
  | [k] =>
    let p := parent ++ [k]
    match s.find p with
    | some _ => .error ("toml: key " ++ k ++ " is already defined")
    | none => .ok (s.create p ⟨.value, false, true⟩)
  | k :: rest =>
    let p := parent ++ [k]
    match s.find p with
    | none => (s.create p ⟨.table, false, true⟩).defineKey p rest
    | some e =>
      if e.kind != .table then .error ("toml: expected " ++ k ++ " to be a table, not a " ++ e.kind.name)
      else if e.explicit then
        .error ("toml: cannot redefine table " ++ k ++ " that has already been explicitly defined")
      else s.defineKey p rest

/-- Walks the leading parts of a header, creating the tables that do not exist; none may be a
value. -/
def walk (s : Seen) (parent : List String) : List String → Except String Seen
  | [] => .ok s
  | k :: rest =>
    let p := parent ++ [k]
    match s.find p with
    | none => (s.create p ⟨.table, false, false⟩).walk p rest
    | some e =>
      if e.kind == .value then .error ("toml: expected " ++ k ++ " to be a table, not a value")
      else s.walk p rest

/-- Opens a `[table]` header: the table must not have been defined explicitly, nor as anything but
a table. -/
def openTable (s : Seen) (path : List String) : Except String Seen := do
  let s ← s.endSection.walk [] path.dropLast
  let k := path.getLastD ""
  match s.find path with
  | some e =>
    if e.kind != .table then throw ("toml: key " ++ k ++ " should be a table, not a " ++ e.kind.name)
    if e.explicit then throw ("toml: table " ++ k ++ " already exists")
    pure { keys := s.keys.map fun (q, x) => if q == path then (q, { x with explicit := true }) else (q, x),
           current := path }
  | none => pure { s.create path ⟨.table, true, false⟩ with current := path }

/-- Opens a `[[table]]` header: the path must be new or an array of tables, whose keys the new
element starts over. The problem for a path of another kind names the kind where the key belongs
and the key where the kind belongs. -/
def openArrayTable (s : Seen) (path : List String) : Except String Seen := do
  let s ← s.endSection.walk [] path.dropLast
  let k := path.getLastD ""
  match s.find path with
  | some e =>
    if e.kind != .arrayTable then
      throw ("toml: key " ++ e.kind.name ++ " already exists as a " ++ k ++ ",  but should be an array table")
    pure { keys := s.keys.filter fun (q, _) => !below path q, current := path }
  | none => pure { s.create path ⟨.arrayTable, true, false⟩ with current := path }

end Seen

mutual

/-- Checks the keys inside a value: each inline table defines its keys afresh. -/
def Raw.check : Raw → Except String Unit
  | .arr items => Raw.checkItems items
  | .table members => Raw.checkMembers {} members
  | _ => .ok ()

/-- Checks the keys inside array items. -/
def Raw.checkItems : List Raw → Except String Unit
  | [] => .ok ()
  | r :: rs => do
    r.check
    Raw.checkItems rs

/-- Checks the members of an inline table. -/
def Raw.checkMembers (s : Seen) : List (List String × Raw) → Except String Unit
  | [] => .ok ()
  | (path, v) :: rest => do
    let s ← s.defineKey [] path
    v.check
    Raw.checkMembers s rest

end

/-! ## Reading -/

/-- Takes one expected character. -/
def expect (x : Char) : ReadM Unit := do
  match ← get with
  | c :: rest => if c == x then set rest else fail ("expected character " ++ String.singleton x)
  | [] => fail ("expected character " ++ String.singleton x ++ " but the document ended here")

/-- The `=` after a key, with the blanks around it. -/
def keySeparator : ReadM Unit := do
  skipBlanks
  if (← get).isEmpty then fail "expected = after a key, but the document ends there"
  expect '='
  skipBlanks

mutual

/-- Reads a value. -/
def value : Nat → ReadM Raw
  | 0 => fail "document nested too deeply"
  | fuel + 1 => do
    match ← get with
    | '"' :: '"' :: '"' :: rest => set rest; return .text (← basicString true)
    | '"' :: rest => set rest; return .text (← basicString false)
    | '\'' :: '\'' :: '\'' :: rest => set rest; return .text (← literalString true)
    | '\'' :: rest => set rest; return .text (← literalString false)
    | '[' :: rest =>
      set rest
      if rest.isEmpty then fail "expected character ] but the document ended here"
      return .arr (← arrayItems fuel [] true)
    | '{' :: rest => set rest; return .table (← inlineTable fuel [] true)
    | [] => fail "expected value, not eof"
    | 't' :: 'r' :: 'u' :: 'e' :: rest => set rest; return .flag true
    | 't' :: _ => fail "expected 'true'"
    | 'f' :: 'a' :: 'l' :: 's' :: 'e' :: rest => set rest; return .flag false
    | 'f' :: _ => fail "expected 'false'"
    | 'i' :: 'n' :: 'f' :: rest => set rest; return .float "inf"
    | 'i' :: _ => fail "expected 'inf'"
    | 'n' :: 'a' :: 'n' :: rest => set rest; return .float "nan"
    | 'n' :: _ => fail "expected 'nan'"
    | cs@(c :: _) =>
      if c != '+' && c != '-' && isDateStart cs then
        let (run, marks) := dateRun 0 cs false {} []
        set (cs.drop run.length)
        return .date marks.type (String.ofList run)
      match numberRun cs with
      | .ok (run, isFloat) =>
        set (cs.drop run.length)
        return if isFloat then .float (String.ofList run) else .integer (String.ofList run)
      | .error e => throw e

/-- Reads array items after the opening bracket; `first` until an item was read. -/
def arrayItems : Nat → List Raw → Bool → ReadM (List Raw)
  | 0, _, _ => fail "document nested too deeply"
  | fuel + 1, acc, first => do
    skipBlankLines
    match ← get with
    | [] => fail "array is incomplete"
    | ']' :: rest => set rest; return acc.reverse
    | c :: rest =>
      if c == ',' then
        if first then fail "array cannot start with comma"
        set rest
        skipBlankLines
        if let ']' :: rest := ← get then
          set rest
          return acc.reverse
      else if !first then fail "array elements must be separated by commas"
      let v ← value fuel
      skipBlankLines
      if (← get).isEmpty then fail "expected character ] but the document ended here"
      arrayItems fuel (v :: acc) false

/-- Reads inline table members after the opening brace; `first` until a member was read. -/
def inlineTable : Nat → List (List String × Raw) → Bool → ReadM (List (List String × Raw))
  | 0, _, _ => fail "document nested too deeply"
  | fuel + 1, acc, first => do
    if (← get).isEmpty then fail "expected character \x7d but the document ended here"
    skipBlanks
    match ← get with
    | [] => fail "inline table is incomplete"
    | '}' :: rest => set rest; return acc.reverse
    | _ =>
      if !first then
        expect ','
        skipBlanks
      let path ← dottedKey
      keySeparator
      let v ← value fuel
      inlineTable fuel ((path, v) :: acc) false

end

/-- The table a path names, for a header: tables are created on the way, and an array of
tables is entered at its last element. -/
def enterTable : List (String × Dyn) → List String → (List (String × Dyn) → Except String (List (String × Dyn))) →
    Except String (List (String × Dyn))
  | m, [], f => f m
  | m, k :: rest, f =>
    match Dyn.lookup m k with
    | none => (enterTable [] rest f).map fun sub => Dyn.insert m k (.map sub)
    | some (.map sub) => (enterTable sub rest f).map fun sub => Dyn.insert m k (.map sub)
    | some (.list items) =>
      match items.getLast? with
      | some (.map sub) =>
        (enterTable sub rest f).map fun sub =>
          Dyn.insert m k (.list (items.dropLast ++ [.map sub]))
      | _ => .error ("toml: key " ++ k ++ " is already defined")
    | some _ => .error ("toml: key " ++ k ++ " is already defined")

/-- Appends a new table to the array of tables a path names. -/
def appendTable : List (String × Dyn) → List String → Except String (List (String × Dyn))
  | m, [] => .ok m
  | m, [k] =>
    match Dyn.lookup m k with
    | none => .ok (Dyn.insert m k (.list [.map []]))
    | some (.list items) => .ok (Dyn.insert m k (.list (items ++ [.map []])))
    | some _ => .error ("toml: key " ++ k ++ " is already defined")
  | m, k :: rest => enterTable m [k] fun sub => appendTable sub rest

/-- The reading state: the document so far and the keys defined. -/
structure Doc where
  root : List (String × Dyn) := []
  seen : Seen := {}

/-- Reads the expressions of a document, one a line; `first` until the first line is read. An
expression's keys are checked and its value read before the line break after it is looked at, so
a problem with what follows an expression on its line shows only when the expression is sound. -/
def lines : Nat → Bool → Doc → ReadM Doc
  | 0, _, d => pure d
  | fuel + 1, first, d => do
    if (← get).isEmpty then return d
    if !first then lineBreak
    trailing
    match ← get with
    | [] | '\n' :: _ | '\r' :: _ => lines fuel false d
    | '[' :: '[' :: rest =>
      set rest
      skipBlanks
      let path ← dottedKey
      expect ']'
      expect ']'
      trailing
      let seen ← liftCheck (d.seen.openArrayTable path)
      let root ← liftCheck (appendTable d.root path)
      lines fuel false { root, seen }
    | '[' :: rest =>
      set rest
      skipBlanks
      let path ← dottedKey
      expect ']'
      trailing
      let seen ← liftCheck (d.seen.openTable path)
      let root ← liftCheck (enterTable d.root path pure)
      lines fuel false { root, seen }
    | _ =>
      let path ← dottedKey
      keySeparator
      let raw ← value fuel
      trailing
      let seen ← liftCheck (d.seen.defineKey d.seen.current path)
      liftCheck raw.check
      let v ← liftCheck raw.decode
      let root ← liftCheck (enterTable d.root d.seen.current fun t => setPath t path v)
      lines fuel false { root, seen }

/-- Reads a TOML text into a map. -/
def readMap (text : String) : Except String (List (String × Dyn)) :=
  let cs := text.toList
  match (lines (cs.length + 2) true {}).run' cs with
  | .ok d => .ok d.root
  | .error e => .error e

end Toml

end Harvest
