import Harvest.Json.Value
import Harvest.Text.Number
/-!
# Harvest.Json.Render

Writing JSON values as compact text.

Members and items are separated by a bare comma and names from values by a bare colon; object
members keep their order. Integers are written in decimal and floats in their shortest form
(`Number.formatJson`). Strings are quoted with these escapes: `\"` and `\\`; `\b`, `\f`, `\n`,
`\r` and `\t`; `\u00XX` (small hex digits) for every other control character and for `<`, `>`
and `&`, so that the text is safe inside markup; and `\u2028`, `\u2029` for the two
line-breaking separators.
-/

namespace Harvest

namespace Json

/-- A small hexadecimal digit. -/
def hexDigit (n : Nat) : Char := "0123456789abcdef".toList.getD n '0'

/-- The escaped form of one character inside a quoted string. -/
def escapeChar (c : Char) : String :=
  if c == '"' then "\\\""
  else if c == '\\' then "\\\\"
  else if c == '\n' then "\\n"
  else if c == '\r' then "\\r"
  else if c == '\t' then "\\t"
  else if c.toNat == 8 then "\\b"
  else if c.toNat == 12 then "\\f"
  else if c.toNat < 0x20 || c == '<' || c == '>' || c == '&' then
    String.ofList ['\\', 'u', '0', '0', hexDigit (c.toNat / 16), hexDigit (c.toNat % 16)]
  else if c.toNat == 0x2028 then "\\u2028"
  else if c.toNat == 0x2029 then "\\u2029"
  else String.singleton c

/-- A string quoted and escaped. -/
def quote (s : String) : String :=
  "\"" ++ String.join (s.toList.map escapeChar) ++ "\""

mutual

/-- The compact text of a value. -/
def Value.render : Value → String
  | .null => "null"
  | .bool b => if b then "true" else "false"
  | .int n => toString n
  | .float x => Number.formatJson x
  | .str s => quote s
  | .arr items => "[" ++ renderItems items ++ "]"
  | .obj members => "\x7b" ++ renderMembers members ++ "\x7d"

/-- The items of an array, comma separated. -/
def renderItems : List Value → String
  | [] => ""
  | [v] => v.render
  | v :: rest => v.render ++ "," ++ renderItems rest

/-- The members of an object, comma separated. -/
def renderMembers : List (String × Value) → String
  | [] => ""
  | [(k, v)] => quote k ++ ":" ++ v.render
  | (k, v) :: rest => quote k ++ ":" ++ v.render ++ "," ++ renderMembers rest

end

mutual

/-- The first float JSON has no text for (NaN or infinite), in the form the encoder reports it
(`NaN`, `+Inf`, `-Inf`); none when the whole value can be written. -/
def Value.unsupported? : Value → Option String
  | .float x => if x.isNaN || x.isInf then some (Number.formatPlain x) else none
  | .arr items => itemsUnsupported? items
  | .obj members => membersUnsupported? members
  | _ => none

/-- The first unsupported float among array items. -/
def itemsUnsupported? : List Value → Option String
  | [] => none
  | v :: rest => v.unsupported?.orElse fun _ => itemsUnsupported? rest

/-- The first unsupported float among object members. -/
def membersUnsupported? : List (String × Value) → Option String
  | [] => none
  | (_, v) :: rest => v.unsupported?.orElse fun _ => membersUnsupported? rest

end

/-- The indentation of a nesting level: two spaces a level. -/
def indentation (level : Nat) : String := String.ofList (List.replicate (2 * level) ' ')

mutual

/-- The indented text of a value at a nesting level: every array item and object member on a line
of its own, two spaces deeper than its container; empty arrays and objects stay `[]` and `{}`. -/
def Value.renderAt (level : Nat) : Value → String
  | .arr [] => "[]"
  | .obj [] => "\x7b\x7d"
  | .arr items => "[\n" ++ renderItemsAt (level + 1) items ++ "\n" ++ indentation level ++ "]"
  | .obj members =>
    "\x7b\n" ++ renderMembersAt (level + 1) members ++ "\n" ++ indentation level ++ "\x7d"
  | v => v.render

/-- Array items at a nesting level, one a line. -/
def renderItemsAt (level : Nat) : List Value → String
  | [] => ""
  | [v] => indentation level ++ v.renderAt level
  | v :: rest => indentation level ++ v.renderAt level ++ ",\n" ++ renderItemsAt level rest

/-- Object members at a nesting level, one a line. -/
def renderMembersAt (level : Nat) : List (String × Value) → String
  | [] => ""
  | [(k, v)] => indentation level ++ quote k ++ ": " ++ v.renderAt level
  | (k, v) :: rest =>
    indentation level ++ quote k ++ ": " ++ v.renderAt level ++ ",\n" ++ renderMembersAt level rest

end

/-- The indented text of a value. -/
def Value.renderIndented (v : Value) : String := v.renderAt 0

end Json

end Harvest
