import Harvest.Config.Dynamic
import Harvest.Text.Blank
/-!
# Harvest.Config.Dotenv

Reading `.env` files into text-keyed maps of strings.

A file is cut into lines at every line feed, carriage return, or carriage return and line feed.
Each line is trimmed of blanks; empty lines and lines starting with `#` are skipped. A line reads
`[export ]KEY=value` or `KEY: value`, where the key is letters, digits, `_` and `.`; what follows
the value may only be blanks and a `#` comment.

A value may be single-quoted (kept as written), double-quoted, or bare up to a `#`. A value whose
quote is not closed on its line runs on over the next lines, joined with line feeds, up to a line
holding an unescaped quote; a file that ends first is an error. The value is trimmed and loses
its enclosing quotes. In a double-quoted value `\n` and `\r` stand for line breaks and a
backslash keeps the character after it, unless that is a `$`. Outside single quotes, `$NAME`,
`${NAME}` and `${NAME` are replaced by the environment's value of `NAME`, else the value of a key
read before, else nothing; `\$` keeps the dollar sign. Names are capitals, digits and `_`; a
dollar sign with no name stays as written.

A line that fits none of this is an error naming it; `export NAME` of a key not yet read reports
the unset variable instead.
-/

namespace Harvest

namespace Dotenv

/-- The blank characters of the line format: tab, line feed, form feed, carriage return and
space. -/
def isSpace (c : Char) : Bool := c == ' ' || c == '\t' || c == '\n' || c == '\r' || c.toNat == 12

/-- Key characters. -/
def isKeyChar (c : Char) : Bool :=
  ('a' ≤ c && c ≤ 'z') || ('A' ≤ c && c ≤ 'Z') || ('0' ≤ c && c ≤ '9') || c == '_' || c == '.'

/-- Characters of a variable name. -/
def isNameChar (c : Char) : Bool := ('A' ≤ c && c ≤ 'Z') || ('0' ≤ c && c ≤ '9') || c == '_'

/-- Trims blanks (of the Unicode kind) at both ends. -/
def trim (cs : List Char) : List Char := ((cs.dropWhile isBlank).reverse.dropWhile isBlank).reverse

/-! ## Lines -/

/-- Cuts a text into lines at line feeds, carriage returns, and carriage return and line feed
pairs; a text ending in a break has no empty last line. -/
def splitLines : List Char → List Char → List (List Char)
  | [], cur => if cur.isEmpty then [] else [cur.reverse]
  | '\r' :: '\n' :: rest, cur => cur.reverse :: splitLines rest []
  | '\r' :: rest, cur => cur.reverse :: splitLines rest []
  | '\n' :: rest, cur => cur.reverse :: splitLines rest []
  | c :: rest, cur => splitLines rest (c :: cur)

/-- The position of the last occurrence of a byte. -/
def lastIndexOf (b : UInt8) (bs : Bytes) : Option Nat :=
  (List.range bs.length).reverse.find? fun i => bs.getD i 0 == b

/-- The quote a line leaves open, if any. The value after the first `=` (else `:`) opens a quote
when it starts with one; the quote counts as closed on the line when the trimmed rest of the value
holds it again and the value's byte at the position of that last quote within the trimmed rest is
not a backslash. -/
def openQuote? (line : List Char) : Option Char :=
  let sep := match line.findIdx? (· == '=') with
    | some i => some i
    | none => line.findIdx? (· == ':')
  match sep with
  | some i =>
    if i > 0 && i + 1 < line.length then
      let val := trim (line.drop (i + 1))
      match val with
      | q :: rest =>
        if q == '"' || q == '\'' then
          let inner := Bytes.ofString (String.ofList (trim rest))
          match lastIndexOf q.toNat.toUInt8 inner with
          | some j =>
            if (Bytes.ofString (String.ofList val)).getD j 0 != 0x5C then none else some q
          | none => some q
        else none
      | [] => none
    else none
  | none => none

/-- Whether a continuation line closes the open quote: its last occurrence of the quote is not
right after a backslash. -/
def closesQuote (q : Char) (l : List Char) : Option Bool :=
  match (List.range l.length).reverse.find? fun j => l.getD j ' ' == q with
  | some j => some !(j > 0 && l.getD (j - 1) ' ' == '\\')
  | none => none

/-- Adds continuation lines to a line with an open quote until one closes it; none when the lines
run out first. Answers the joined line and the lines after it. -/
def continueQuoted (q : Char) : List Char → List (List Char) → Option (List Char × List (List Char))
  | _, [] => none
  | acc, l :: ls =>
    let acc := acc ++ ['\n'] ++ l
    if closesQuote q l == some true then some (acc, ls) else continueQuoted q acc ls

/-! ## The line format -/

/-- Whether what follows a value is blanks and an optional comment that runs to the end of its
line. -/
def tailOk (cs : List Char) : Bool :=
  match cs.dropWhile isSpace with
  | [] => true
  | '#' :: rest => !rest.contains '\n'
  | _ => false

/-- Where the key may start, in order of preference: after `export` and blanks, or at the start. -/
def keyStarts (s : List Char) : List (List Char) :=
  match s with
  | 'e' :: 'x' :: 'p' :: 'o' :: 'r' :: 't' :: rest =>
    let n := (rest.takeWhile isSpace).length
    if n > 0 then [rest.drop n, s] else [s]
  | _ => [s]

/-- Where the value may start after the key, in order of preference: after `=` with the blanks
around it (fewer blanks after it next), or after `:` and one or more blanks (fewer first). -/
def valueStarts (r : List Char) : List (List Char) :=
  let ws := (r.takeWhile isSpace).length
  let byEquals := match r.drop ws with
    | '=' :: u =>
      let n := (u.takeWhile isSpace).length
      (List.range (n + 1)).reverse.map fun k => u.drop k
    | _ => []
  let byColon := match r with
    | ':' :: u =>
      let n := (u.takeWhile isSpace).length
      (List.range n).map fun k => u.drop (k + 1)
    | _ => []
  byEquals ++ byColon

/-- The ways a value may be taken at the start of the text, in order of preference, each with what
is left: quoted in single quotes (longest first), in double quotes (longest first), bare up to a
`#` or line feed (longest first), or empty. -/
def valueChoices (v : List Char) : List (List Char × List Char) :=
  let quoted (q : Char) : List (List Char × List Char) :=
    match v with
    | c :: rest =>
      if c == q then
        ((List.range rest.length).reverse.filter fun j => rest.getD j ' ' == q).map fun j =>
          (v.take (j + 2), v.drop (j + 2))
      else []
    | [] => []
  let bareLen := (v.takeWhile fun c => c != '#' && c != '\n').length
  let bare := (List.range bareLen).reverse.map fun k => (v.take (k + 1), v.drop (k + 1))
  quoted '\'' ++ quoted '"' ++ bare ++ [([], v)]

/-- The key and the raw value of a line, by the first way of reading it that accounts for the
whole line; none when there is no such way. -/
def matchLine (s : List Char) : Option (List Char × List Char) :=
  (keyStarts (s.dropWhile isSpace)).findSome? fun t =>
    let key := t.takeWhile isKeyChar
    if key.isEmpty then none
    else
      (valueStarts (t.drop key.length)).findSome? fun v =>
        (valueChoices v).findSome? fun (g, rest) => if tailOk rest then some (key, g) else none

/-! ## Values -/

/-- Replaces each backslash followed by `e` with `r`, left to right. -/
def replaceEscape (e r : Char) : List Char → List Char
  | '\\' :: tl@(c :: rest) => if c == e then r :: replaceEscape e r rest else '\\' :: replaceEscape e r tl
  | c :: rest => c :: replaceEscape e r rest
  | [] => []

/-- Drops each backslash that stands before a character other than `$`, left to right. -/
def dropEscapes : List Char → List Char
  | '\\' :: tl@(c :: rest) => if c == '$' then '\\' :: dropEscapes tl else c :: dropEscapes rest
  | c :: rest => c :: dropEscapes rest
  | [] => []

/-- The unescaped text of a double-quoted value. -/
def unescape (cs : List Char) : List Char :=
  dropEscapes (replaceEscape 'r' '\r' (replaceEscape 'n' '\n' cs))

/-- The length of a reference after its dollar sign: an optional `{`, name characters, an
optional `}`. -/
def refLength (cs : List Char) : Nat :=
  let open_ := match cs with
    | '{' :: _ => 1
    | _ => 0
  let name := ((cs.drop open_).takeWhile isNameChar).length
  let close := match cs.drop (open_ + name) with
    | '}' :: _ => 1
    | _ => 0
  open_ + name + close

/-- The name a reference (after its dollar sign) gives, possibly empty. -/
def refName (cs : List Char) : List Char :=
  match cs with
  | '{' :: rest => rest.takeWhile isNameChar
  | _ => cs.takeWhile isNameChar

/-- Expands the references of a value: a reference with a name is replaced by the name's value,
a backslash before the dollar sign is dropped and the reference kept, and a reference without a
name is kept as written. -/
def expand (lookup : String → String) (cs : List Char) : List Char :=
  match cs with
  | [] => []
  | '\\' :: '$' :: rest =>
    let n := refLength rest
    '$' :: rest.take n ++ expand lookup (rest.drop n)
  | '$' :: rest =>
    let n := refLength rest
    let name := refName (rest.take n)
    (if name.isEmpty then '$' :: rest.take n else (lookup (String.ofList name)).toList) ++
      expand lookup (rest.drop n)
  | c :: rest => c :: expand lookup rest
termination_by cs.length
decreasing_by all_goals (simp only [List.length_cons, List.length_drop]; omega)

/-- The value of a line's raw value: trimmed, unquoted, unescaped and expanded. -/
def lineValue (lookup : String → String) (raw : List Char) : List Char :=
  let v := trim raw
  let n := v.length
  let dq := n ≥ 2 && v.head? == some '"' && v.getLast? == some '"'
  let sq := n ≥ 2 && v.head? == some '\'' && v.getLast? == some '\''
  let v := if dq || sq then (v.drop 1).take (n - 2) else v
  let v := if dq then unescape v else v
  if sq then v else expand lookup v

/-- The problem of a line that does not fit the format. -/
def lineProblem (line : List Char) (acc : List (String × Dyn)) : String :=
  let st := String.ofList (trim line)
  let unset := st.startsWith "export" &&
    match st.splitOn " " with
    | _ :: rest@(_ :: _) => (Dyn.lookup acc (" ".intercalate rest)).isNone
    | _ => false
  if unset then "line `" ++ st ++ "` has an unset variable"
  else "line `" ++ String.ofList line ++ "` doesn't match format"

/-- Reads the lines of a file into key-value pairs; `env` is the environment. -/
def readLines (env : List (String × String)) : Nat → List (List Char) → List (String × Dyn) →
    Except String (List (String × Dyn))
  | 0, _, acc => .ok acc
  | _, [], acc => .ok acc
  | fuel + 1, l :: ls, acc =>
    let line := trim l
    if line.isEmpty || line.head? == some '#' then readLines env fuel ls acc
    else
      let joined := match openQuote? line with
        | none => some (line, ls)
        | some q => continueQuoted q line ls
      match joined with
      | none => .error "missing quotes"
      | some (full, rest) =>
        match matchLine full with
        | none => .error (lineProblem full acc)
        | some (key, raw) =>
          let lookup (name : String) : String :=
            match env.find? (·.1 == name) with
            | some (_, x) => x
            | none =>
              match Dyn.lookup acc name with
              | some (.str x) => x
              | _ => ""
          let v := lineValue lookup raw
          readLines env fuel rest (Dyn.insert acc (String.ofList (trim key)) (.str (String.ofList v)))

/-- Reads a `.env` text; `env` is the environment references are looked up in first. -/
def readMap (env : List (String × String)) (text : String) : Except String (List (String × Dyn)) :=
  let cs := match text.toList with
    | c :: rest => if c.toNat == 0xFEFF then rest else c :: rest
    | [] => []
  let lines := splitLines cs []
  readLines env (lines.length + 1) lines []

end Dotenv

end Harvest
