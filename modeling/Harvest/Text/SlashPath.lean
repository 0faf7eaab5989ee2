import Harvest.Text.Utf8
/-!
# Harvest.Text.SlashPath

Slash-separated paths and their lexical cleaning.

Cleaning gives the shortest path naming the same file by lexical processing alone: runs of
slashes become one slash, `.` elements go, a `..` element removes the element before it (and at
the root is dropped, while in a relative path with nothing left to remove it is kept), a
trailing slash goes unless the path is the root, and an empty result is `.`.

The directory of a path is the path up to its last slash, cleaned. The base of a path is its
last element after trailing slashes are removed: `.` for the empty path and `/` for a path of
slashes only. Joining skips empty elements, puts slashes between the others and cleans the
result.
-/

namespace Harvest

namespace SlashPath

/-- The non-empty elements of a path. -/
def elements (p : List Char) : List (List Char) := (p.splitOn '/').filter (!·.isEmpty)

/-- Applies `.` and `..` to the elements of a path; `rooted` says whether it starts at `/`. -/
def resolve (rooted : Bool) : List (List Char) → List (List Char) → List (List Char)
  | [], acc => acc.reverse
  | e :: rest, acc =>
    if e == ['.'] then resolve rooted rest acc
    else if e == ['.', '.'] then
      match acc with
      | top :: below =>
        if top == ['.', '.'] then resolve rooted rest (e :: acc) else resolve rooted rest below
      | [] => if rooted then resolve rooted rest [] else resolve rooted rest [e]
    else resolve rooted rest (e :: acc)

/-- The cleaned form of a path. -/
def clean (s : String) : String :=
  let cs := s.toList
  let rooted := cs.head? == some '/'
  let parts := resolve rooted (elements cs) []
  let body := "/".intercalate (parts.map String.ofList)
  if rooted then "/" ++ body
  else if body.isEmpty then "."
  else body

/-- The last element of a path. -/
def base (s : String) : String :=
  if s.isEmpty then "."
  else
    let trimmed := (s.toList.reverse.dropWhile (· == '/')).reverse
    let last := (trimmed.reverse.takeWhile (· != '/')).reverse
    if trimmed.isEmpty then "/" else String.ofList last

/-- Everything but the last element: the path up to its last slash, cleaned (`.` when there is
no slash). -/
def dir (s : String) : String :=
  clean (String.ofList (s.toList.reverse.dropWhile (· != '/')).reverse)

/-- Joins elements with slashes, skipping empty ones, and cleans the result. -/
def join (parts : List String) : String :=
  let kept := parts.filter (!·.isEmpty)
  if kept.isEmpty then "" else clean ("/".intercalate kept)

end SlashPath

end Harvest
