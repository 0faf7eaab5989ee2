import Harvest.Json.Value
import Harvest.Text.Number
import Harvest.Text.Quoted
/-!
# Harvest.Json.Parse

Reading JSON text.

Reading happens in two passes. A scanner first walks the bytes one at a time with a stack of
open containers, the way a byte-level recogniser does, and names the first byte that cannot
continue the text by the character that starts there: `invalid character 'x' looking for
beginning of value`, `... after object key`, `... after array element`, `... in string`,
`... in numeric literal` and so on; a malformed escape is shown whole (`invalid escape sequence
... in string`). A text that stops inside a literal, a string or a number that still needs
digits gives `unexpected end of JSON input`; elsewhere the end of the input counts as one blank.
Once the text is known to be well formed, a plain recursive reader builds the tree.

Two ways of taking a document are offered: the whole input must be one value with only
blanks around it (`checkDocument`), or the first value is taken and whatever follows it is
left unread (`parseFirst`), as a stream reader does.

Numbers keep their text in the tree; `Tree.floats` turns them into binary64 floats, failing on a
number beyond the float range and naming where it stands.
-/

namespace Harvest

namespace Json

/-- A parsed JSON document, numbers kept as written. -/
inductive Tree where
  | null
  | bool (b : Bool)
  | num (text : String)
  | str (s : String)
  | arr (items : List Tree)
  | obj (members : List (String × Tree))
  deriving Inhabited, Repr

namespace Scan

/-- An open container and what it waits for. -/
inductive Frame where
  | objectKey
  | objectValue
  | arrayValue
  deriving DecidableEq, Repr

/-- What the scanner expects at the next byte. -/
inductive Phase where
  | beginValueOrEmpty
  | beginValue
  | beginStringOrEmpty
  | beginString
  | endValue
  | endTop
  | inString
  | inStringEsc
  /-- Inside a `\u` escape, with the hex digits seen so far. -/
  | inStringEscU (seen : List UInt8)
  | neg
  | one
  | zero
  | dot
  | dot0
  | exp
  | expSign
  | exp0
  /-- Inside `true`, `false` or `null`, with the letters still to come. -/
  | literal (word : String) (rest : List Char)
  | failed
  deriving DecidableEq, Repr

/-- What one byte did. -/
inductive Signal where
  | more
  /-- A container closed. -/
  | closed
  /-- The top-level value ended before this byte. -/
  | finished
  | error
  deriving DecidableEq, Repr

/-- Why the scanner stopped. The message names what stands at the failing byte, so it is
written once the bytes from there on are known. -/
inductive Failure where
  /-- The character at the failing byte cannot stand here; the text says where it stands. -/
  | character (context : String)
  /-- A malformed escape in a string: the bytes of it before the failing byte, and how many bytes
  the whole escape takes. -/
  | escape (before : List UInt8) (width : Nat)
  deriving DecidableEq, Repr

/-- The scanner: the phase, the open containers (innermost first), whether a top-level value is
complete, and the first failure. -/
structure Scanner where
  phase : Phase := .beginValue
  stack : List Frame := []
  endTop : Bool := false
  err : Option Failure := none
  deriving Repr

/-- The blank bytes between tokens. -/
def isSpace (b : UInt8) : Bool := b == 0x20 || b == 0x09 || b == 0x0D || b == 0x0A

/-- A character as the error messages show it: between single quotes, escaped as a quoted
rune. -/
def quoteChar (c : Char) : String :=
  if c == '\'' then "'\\''"
  else if c == '"' then "'\"'"
  else String.ofList ('\'' :: Quoted.glyph (.scalar c) ++ ['\''])

/-- A byte as the error messages show it. -/
def quoteByte (b : UInt8) : String := quoteChar (Char.ofNat b.toNat)

/-- The character the bytes start with, as the error messages show it; a byte that starts no
character shows as `\x` and its hex digits. -/
def quoteAhead (ahead : List UInt8) : String :=
  match (Utf8.glyphs (ahead.take 4)).head? with
  | some (.scalar c) => quoteChar c
  | some g => String.ofList ('\'' :: Quoted.glyph g ++ ['\''])
  | none => "''"

/-- An escape sequence as the error messages show it: between backquotes, unless it holds a
backquote, a blank, a character that does not print or a byte that starts no character, when
it is written as a quoted string. -/
def showEscape (seq : List UInt8) : String :=
  let plain (g : Utf8.Glyph) : Bool :=
    match g with
    | .scalar c => c != '\x60' && c != ' ' && c.toNat != 0xFFFD && Quoted.printable c
    | .stray _ => false
  if (Utf8.glyphs seq).all plain then "\x60" ++ Utf8.toText seq ++ "\x60"
  else Bytes.quoted seq

/-- The message of a failure, given the bytes from the failing one on. -/
def Failure.message (ahead : List UInt8) : Failure → String
  | .character context => "invalid character " ++ quoteAhead ahead ++ " " ++ context
  | .escape before width =>
    "invalid escape sequence " ++ showEscape (before ++ ahead.take (width - before.length)) ++
      " in string"

/-- Stops the scanner on a byte that cannot continue the text. -/
def Scanner.fail (s : Scanner) (context : String) : Scanner × Signal :=
  ({ s with phase := .failed, err := some (.character context) }, .error)

/-- Whether a byte is a decimal digit. -/
def isDigit (b : UInt8) : Bool := 0x30 ≤ b && b ≤ 0x39

/-- Whether a byte is a hexadecimal digit. -/
def isHex (b : UInt8) : Bool :=
  isDigit b || (0x61 ≤ b && b ≤ 0x66) || (0x41 ≤ b && b ≤ 0x46)

/-- After a complete top-level value only blanks may follow. -/
def endTop (s : Scanner) (b : UInt8) : Scanner × Signal :=
  let s := { s with phase := .endTop, endTop := true }
  if isSpace b then (s, .finished)
  else ({ s with phase := .failed, err := some (.character "after top-level value") }, .finished)

/-- After a value: a separator or the end of the container that holds it. -/
def endValue (s : Scanner) (b : UInt8) : Scanner × Signal :=
  match s.stack with
  | [] => endTop s b
  | top :: below =>
    if isSpace b then ({ s with phase := .endValue }, .more)
    else match top with
      | .objectKey =>
        if b == 0x3A then ({ s with phase := .beginValue, stack := .objectValue :: below }, .more)
        else s.fail "after object key"
      | .objectValue =>
        if b == 0x2C then ({ s with phase := .beginString, stack := .objectKey :: below }, .more)
        else if b == 0x7D then
          ({ s with phase := if below.isEmpty then .endTop else .endValue, stack := below,
                    endTop := below.isEmpty }, .closed)
        else s.fail "after object key:value pair"
      | .arrayValue =>
        if b == 0x2C then ({ s with phase := .beginValue }, .more)
        else if b == 0x5D then
          ({ s with phase := if below.isEmpty then .endTop else .endValue, stack := below,
                    endTop := below.isEmpty }, .closed)
        else s.fail "after array element"

/-- The deepest nesting accepted. -/
def maxDepth : Nat := 10000

/-- Opens a container. -/
def push (s : Scanner) (f : Frame) (next : Phase) : Scanner × Signal :=
  let s := { s with phase := next, stack := f :: s.stack }
  if s.stack.length ≤ maxDepth then (s, .more) else s.fail "exceeded max nesting depth"

/-- The first byte of a value. -/
def beginValue (s : Scanner) (b : UInt8) : Scanner × Signal :=
  if isSpace b then ({ s with phase := .beginValue }, .more)
  else if b == 0x7B then push s .objectKey .beginStringOrEmpty
  else if b == 0x5B then push s .arrayValue .beginValueOrEmpty
  else if b == 0x22 then ({ s with phase := .inString }, .more)
  else if b == 0x2D then ({ s with phase := .neg }, .more)
  else if b == 0x30 then ({ s with phase := .zero }, .more)
  else if b == 0x74 then ({ s with phase := .literal "true" ['r', 'u', 'e'] }, .more)
  else if b == 0x66 then ({ s with phase := .literal "false" ['a', 'l', 's', 'e'] }, .more)
  else if b == 0x6E then ({ s with phase := .literal "null" ['u', 'l', 'l'] }, .more)
  else if 0x31 ≤ b && b ≤ 0x39 then ({ s with phase := .one }, .more)
  else s.fail "looking for beginning of value"

/-- The opening quote of an object key. -/
def beginString (s : Scanner) (b : UInt8) : Scanner × Signal :=
  if isSpace b then ({ s with phase := .beginString }, .more)
  else if b == 0x22 then ({ s with phase := .inString }, .more)
  else s.fail "looking for beginning of object key string"

/-- After the integer digits of a number. -/
def afterInteger (s : Scanner) (b : UInt8) : Scanner × Signal :=
  if b == 0x2E then ({ s with phase := .dot }, .more)
  else if b == 0x65 || b == 0x45 then ({ s with phase := .exp }, .more)
  else endValue s b

/-- After the sign of an exponent, or where it could have been. -/
def expSign (s : Scanner) (b : UInt8) : Scanner × Signal :=
  if isDigit b then ({ s with phase := .exp0 }, .more)
  else s.fail "in numeric literal"

/-- Feeds one byte. -/
def step (s : Scanner) (b : UInt8) : Scanner × Signal :=
  match s.phase with
  | .failed => (s, .error)
  | .beginValueOrEmpty =>
    if isSpace b then (s, .more) else if b == 0x5D then endValue s b else beginValue s b
  | .beginValue => beginValue s b
  | .beginStringOrEmpty =>
    if isSpace b then (s, .more)
    else if b == 0x7D then
      endValue { s with stack := .objectValue :: s.stack.drop 1 } b
    else beginString s b
  | .beginString => beginString s b
  | .endValue => endValue s b
  | .endTop => endTop s b
  | .inString =>
    if b == 0x22 then ({ s with phase := .endValue }, .more)
    else if b == 0x5C then ({ s with phase := .inStringEsc }, .more)
    else if b < 0x20 then s.fail "in string"
    else (s, .more)
  | .inStringEsc =>
    if b == 0x62 || b == 0x66 || b == 0x6E || b == 0x72 || b == 0x74 || b == 0x5C ||
        b == 0x2F || b == 0x22 then ({ s with phase := .inString }, .more)
    else if b == 0x75 then ({ s with phase := .inStringEscU [] }, .more)
    else ({ s with phase := .failed, err := some (.escape [0x5C] 2) }, .error)
  | .inStringEscU seen =>
    if isHex b then
      ({ s with phase := if seen.length ≥ 3 then .inString else .inStringEscU (seen ++ [b]) }, .more)
    else ({ s with phase := .failed, err := some (.escape ([0x5C, 0x75] ++ seen) 6) }, .error)
  | .neg =>
    if b == 0x30 then ({ s with phase := .zero }, .more)
    else if 0x31 ≤ b && b ≤ 0x39 then ({ s with phase := .one }, .more)
    else s.fail "in numeric literal"
  | .one => if isDigit b then (s, .more) else afterInteger s b
  | .zero => afterInteger s b
  | .dot =>
    if isDigit b then ({ s with phase := .dot0 }, .more)
    else s.fail "in numeric literal"
  | .dot0 =>
    if isDigit b then (s, .more)
    else if b == 0x65 || b == 0x45 then ({ s with phase := .exp }, .more)
    else endValue s b
  | .exp =>
    if b == 0x2B || b == 0x2D then ({ s with phase := .expSign }, .more) else expSign s b
  | .expSign => expSign s b
  | .exp0 => if isDigit b then (s, .more) else endValue s b
  | .literal word rest =>
    match rest with
    | [] => endValue s b
    | c :: more =>
      if b.toNat == c.toNat then
        ({ s with phase := if more.isEmpty then .endValue else .literal word more }, .more)
      else s.fail ("in literal " ++ word ++ " (expecting " ++ quoteByte c.toNat.toUInt8 ++ ")")

/-- Feeds bytes until one fails; answers the scanner and the bytes from the failing one on. -/
def run (s : Scanner) : List UInt8 → Scanner × List UInt8
  | [] => (s, [])
  | b :: bs =>
    let (s', _) := step s b
    if s'.phase == .failed then (s', b :: bs) else run s' bs

/-- Whether the input may end in this phase once a blank is fed: everywhere but inside a
literal, a string, or a number that still needs digits. -/
def Phase.mayEnd : Phase → Bool
  | .neg | .dot | .exp | .expSign | .literal .. => false
  | .inString | .inStringEsc | .inStringEscU _ => false
  | _ => true

/-- The end of the input: the value must be complete, a number or literal that still needs
characters meaning the input ended too early. -/
def finish (s : Scanner) (ahead : List UInt8) : Option String :=
  match s.err with
  | some e => some (e.message ahead)
  | none =>
    if s.endTop then none
    else if !s.phase.mayEnd then some "unexpected end of JSON input"
    else
      let (s, _) := step s 0x20
      if s.endTop && s.err.isNone then none
      else some ((s.err.map (·.message [0x20])).getD "unexpected end of JSON input")

/-- The first syntax error of a whole document, if any. -/
def checkDocument (bs : List UInt8) : Option String :=
  let (s, ahead) := run {} bs
  finish s ahead

/-- Looks for the end of the first value: answers how many bytes it takes, or the failure:
`some msg` for a syntax error and `none` when the input ends first. -/
def firstValueLength (s : Scanner) (n : Nat) : List UInt8 → Except (Option String) Nat
  | [] =>
    match s.err with
    | some e => .error (some (e.message []))
    | none =>
      let (s', sig) := step s 0x20
      if sig == .finished && s'.endTop then .ok n else .error none
  | b :: bs =>
    match step s b with
    | (s, .error) => .error (s.err.map (·.message (b :: bs)))
    | (_, .finished) => .ok n
    | (s, .closed) => if s.stack.isEmpty then .ok (n + 1) else firstValueLength s (n + 1) bs
    | (s, .more) => firstValueLength s (n + 1) bs

end Scan

/-! ## Building the tree -/

/-- The value of a hexadecimal digit byte. -/
def hexValue (b : UInt8) : Nat :=
  if 0x30 ≤ b && b ≤ 0x39 then b.toNat - 0x30
  else if 0x61 ≤ b && b ≤ 0x66 then b.toNat - 0x61 + 10
  else if 0x41 ≤ b && b ≤ 0x46 then b.toNat - 0x41 + 10
  else 0

/-- The code unit of a `\uXXXX` escape at the start of the bytes, if there is one. -/
def escapeUnit : List UInt8 → Option (Nat × List UInt8)
  | 0x5C :: 0x75 :: a :: b :: c :: d :: rest =>
    if Scan.isHex a && Scan.isHex b && Scan.isHex c && Scan.isHex d then
      some (((hexValue a * 16 + hexValue b) * 16 + hexValue c) * 16 + hexValue d, rest)
    else none
  | _ => none

/-- The replacement character, for what cannot be decoded. -/
def replacement : Char := Char.ofNat 0xFFFD

/-- The body of a string up to its closing quote: raw bytes are decoded as UTF-8 (a stray byte
reads as the replacement character), escapes are applied, and a surrogate pair escape makes
one character while a lone surrogate reads as the replacement character. Answers the characters
and what follows the closing quote. -/
def readString (fuel : Nat) (raw : List UInt8) (acc : List Char) (bs : List UInt8) :
    Option (String × List UInt8) :=
  let flush := acc ++ Utf8.decode raw.reverse
  match fuel, bs with
  | 0, _ => none
  | _, [] => none
  | _ + 1, 0x22 :: rest => some (String.ofList flush, rest)
  | fuel + 1, 0x5C :: e :: rest =>
    let simple (c : Char) := readString fuel [] (flush ++ [c]) rest
    if e == 0x75 then
      match escapeUnit bs with
      | none => none
      | some (u, rest) =>
        if 0xD800 ≤ u && u < 0xDC00 then
          match escapeUnit rest with
          | some (v, rest') =>
            if 0xDC00 ≤ v && v < 0xE000 then
              readString fuel [] (flush ++ [Char.ofNat (0x10000 + (u - 0xD800) * 0x400 + (v - 0xDC00))]) rest'
            else readString fuel [] (flush ++ [replacement]) rest
          | none => readString fuel [] (flush ++ [replacement]) rest
        else if 0xDC00 ≤ u && u < 0xE000 then readString fuel [] (flush ++ [replacement]) rest
        else readString fuel [] (flush ++ [Char.ofNat u]) rest
    else if e == 0x62 then simple (Char.ofNat 8)
    else if e == 0x66 then simple (Char.ofNat 12)
    else if e == 0x6E then simple '\n'
    else if e == 0x72 then simple '\r'
    else if e == 0x74 then simple '\t'
    else simple (Char.ofNat e.toNat)
  | fuel + 1, b :: rest => readString fuel (b :: raw) acc rest

/-- Skips blanks. -/
def skipSpace (bs : List UInt8) : List UInt8 := bs.dropWhile Scan.isSpace

/-- Whether a byte can stand inside a number. -/
def isNumberByte (b : UInt8) : Bool :=
  Scan.isDigit b || b == 0x2D || b == 0x2B || b == 0x2E || b == 0x65 || b == 0x45

mutual

/-- Reads one value of a well-formed text; answers it and what follows. -/
def readTree : Nat → List UInt8 → Option (Tree × List UInt8)
  | 0, _ => none
  | fuel + 1, bs =>
    match skipSpace bs with
    | 0x7B :: rest => readMembers fuel [] rest
    | 0x5B :: rest => readItems fuel [] rest
    | 0x22 :: rest => (readString (rest.length + 1) [] [] rest).map fun (s, r) => (.str s, r)
    | 0x74 :: rest => some (.bool true, rest.drop 3)
    | 0x66 :: rest => some (.bool false, rest.drop 4)
    | 0x6E :: rest => some (.null, rest.drop 3)
    | bs =>
      let digits := bs.takeWhile isNumberByte
      if digits.isEmpty then none
      else some (.num (String.ofList (digits.map fun b => Char.ofNat b.toNat)), bs.drop digits.length)

/-- Reads the items of an array after its opening bracket. -/
def readItems : Nat → List Tree → List UInt8 → Option (Tree × List UInt8)
  | 0, _, _ => none
  | fuel + 1, acc, bs =>
    match skipSpace bs with
    | 0x5D :: rest => some (.arr acc.reverse, rest)
    | 0x2C :: rest => readItems fuel acc rest
    | bs =>
      match readTree fuel bs with
      | some (v, rest) => readItems fuel (v :: acc) rest
      | none => none

/-- Reads the members of an object after its opening brace. -/
def readMembers : Nat → List (String × Tree) → List UInt8 → Option (Tree × List UInt8)
  | 0, _, _ => none
  | fuel + 1, acc, bs =>
    match skipSpace bs with
    | 0x7D :: rest => some (.obj acc.reverse, rest)
    | 0x2C :: rest => readMembers fuel acc rest
    | 0x22 :: rest =>
      match readString (rest.length + 1) [] [] rest with
      | some (name, rest) =>
        match skipSpace rest with
        | 0x3A :: rest =>
          match readTree fuel rest with
          | some (v, rest) => readMembers fuel ((name, v) :: acc) rest
          | none => none
        | _ => none
      | none => none
    | _ => none

end

/-- Reads a whole document: the syntax error, or the tree. -/
def parseDocument (bs : List UInt8) : Except String Tree :=
  match Scan.checkDocument bs with
  | some e => .error e
  | none =>
    match readTree (2 * bs.length + 2) bs with
    | some (t, _) => .ok t
    | none => .error "unexpected end of JSON input"

/-- How reading the first value of a stream failed. -/
inductive StreamFailure where
  /-- The input held nothing but blanks. -/
  | empty
  /-- The input ended inside the value. -/
  | truncated
  | invalid (msg : String)
  deriving DecidableEq, Repr

/-- Reads the first value of a stream, leaving what follows it unread. -/
def parseFirst (bs : List UInt8) : Except StreamFailure Tree :=
  match Scan.firstValueLength {} 0 bs with
  | .error (some e) => .error (.invalid e)
  | .error none => .error (if (skipSpace bs).isEmpty then .empty else .truncated)
  | .ok n =>
    let value := bs.take n
    match readTree (2 * value.length + 2) value with
    | some (t, _) => .ok t
    | none => .error .truncated

/-- A step from a JSON value into one it holds: an object member by name, or an array item by
position. -/
inductive PathStep where
  | name (key : String)
  | index (i : Nat)
  deriving DecidableEq, Repr

/-- Where a number that cannot be stored stands, as the error names it: the steps from the root,
each after a dot, called a struct field's path while it runs through members only, and given
bare once it passes an array item. -/
def numberTarget (path : List PathStep) : String :=
  let text := String.join (path.map fun
    | .name k => "." ++ k
    | .index i => "." ++ toString i)
  if path.isEmpty then "Go value"
  else if path.any (fun p => match p with | .index _ => true | .name _ => false) then text
  else "Go struct field " ++ text

mutual

/-- The tree at `path` with its numbers read as floats; fails on the first number beyond the float
range. -/
def Tree.floatsAt (path : List PathStep) : Tree → Except String Value
  | .null => .ok .null
  | .bool b => .ok (.bool b)
  | .str s => .ok (.str s)
  | .num t =>
    match Number.parseFloat t with
    | .ok x => .ok (.float x)
    | .error _ =>
      .error ("json: cannot unmarshal number " ++ t ++ " into " ++ numberTarget path ++ " of type float64")
  | .arr items => (Tree.floatsItems path 0 items).map .arr
  | .obj members => (Tree.floatsMembers path members).map .obj

/-- The items of an array converted in order, the first at position `i`. -/
def Tree.floatsItems (path : List PathStep) (i : Nat) : List Tree → Except String (List Value)
  | [] => .ok []
  | t :: ts => do
    let v ← t.floatsAt (path ++ [.index i])
    let vs ← Tree.floatsItems path (i + 1) ts
    pure (v :: vs)

/-- The members of an object converted in order. -/
def Tree.floatsMembers (path : List PathStep) : List (String × Tree) → Except String (List (String × Value))
  | [] => .ok []
  | (k, t) :: ms => do
    let v ← t.floatsAt (path ++ [.name k])
    let vs ← Tree.floatsMembers path ms
    pure ((k, v) :: vs)

end

/-- The tree with its numbers read as floats; fails on the first number beyond the float
range. -/
def Tree.floats (t : Tree) : Except String Value := t.floatsAt []

end Json

end Harvest
