import Harvest.Text.SlashPath
import Harvest.Text.Utf8
/-!
# Harvest.Fetch.Disk

The files a local fetch can read, and how a path is walked to one of them.

The working tree is a table from relative paths to contents; a path names a directory of the
tree when it is a proper prefix, up to a `/`, of a path in the table. Above the working directory
lie directories where no name is known. An absolute path starts at the system root, which holds
the directories `dev` and `tmp` and the empty device `/dev/null`.

A path is walked one element at a time, runs of slashes counting as one: `.` stays, `..` goes to
the parent (the root is its own parent), and a name is looked up in the directory reached so far.
Every element but the last must lead to a directory, or the walk stops with "not a directory"; a
name of more than 255 bytes is "file name too long", and a name that is not there "no such file or
directory". A path that ends in a slash must name a directory. A path holding a NUL byte is an
invalid argument, an empty one does not exist, and one of 4096 bytes or more is too long.
-/

namespace Harvest

/-- Local files by clean relative path. -/
structure Disk where
  files : List (String × Bytes) := []
  deriving DecidableEq, Repr

/-- Why a path cannot be opened. -/
inductive OpenError where
  | invalidArgument
  | missing
  | notDirectory
  | nameTooLong
  deriving DecidableEq, Repr

/-- The text of an open failure. -/
def OpenError.message : OpenError → String
  | .invalidArgument => "invalid argument"
  | .missing => "no such file or directory"
  | .notDirectory => "not a directory"
  | .nameTooLong => "file name too long"

/-- A directory a walk stands in: one of the working tree (its elements from the working
directory), one above the working directory, or one of the system tree (its elements from the
root). -/
inductive Place where
  | work (dir : List String)
  | above
  | system (dir : List String)
  deriving DecidableEq, Repr

/-- What a path opens: a file and its contents, or a directory. -/
inductive DiskEntry where
  | file (data : Bytes)
  | directory (place : Place)
  deriving DecidableEq, Repr

/-- What reading an opened entry at `path` gives: a file's content, ending cleanly; a directory,
nothing, the read failing at once. -/
def DiskEntry.contents (path : String) : DiskEntry → Bytes × Option String
  | .file data => (data, none)
  | .directory _ => ([], some ("read " ++ path ++ ": is a directory"))

/-- Reading an entry ends cleanly only for a file, and then gives the file's content. -/
theorem DiskEntry.eq_file_of_contents {path : String} {entry : DiskEntry}
    (h : (entry.contents path).2 = none) : entry = .file (entry.contents path).1 := by
  cases entry with
  | file data => rfl
  | directory place => simp [DiskEntry.contents] at h

/-- Reading an entry gives bytes only for a file, and then gives the file's content. -/
theorem DiskEntry.eq_file_of_length_pos {path : String} {entry : DiskEntry}
    (h : 0 < (entry.contents path).1.length) : entry = .file (entry.contents path).1 := by
  cases entry with
  | file data => rfl
  | directory place => simp [DiskEntry.contents] at h

namespace Disk

/-- The parent of a directory. -/
def parent : Place → Place
  | .work [] => .above
  | .work dir => .work dir.dropLast
  | .above => .above
  | .system dir => .system dir.dropLast

/-- The entry a name stands for in a directory, if it is there. -/
def child (d : Disk) : Place → String → Option DiskEntry
  | .work dir, name =>
    let path := dir ++ [name]
    match d.files.find? (·.1 == "/".intercalate path) with
    | some (_, data) => some (.file data)
    | none =>
      if d.files.any (fun (f, _) => path.isPrefixOf (f.splitOn "/") && (f.splitOn "/").length > path.length)
      then some (.directory (.work path))
      else none
  | .above, _ => none
  | .system [], name => if name == "dev" || name == "tmp" then some (.directory (.system [name])) else none
  | .system ["dev"], "null" => some (.file [])
  | .system _, _ => none

/-- One step of a walk from a directory. -/
def step (d : Disk) (place : Place) (elem : String) : Except OpenError DiskEntry :=
  if elem == "." then .ok (.directory place)
  else if elem == ".." then .ok (.directory (parent place))
  else if elem.utf8ByteSize > 255 then .error .nameTooLong
  else
    match d.child place elem with
    | some e => .ok e
    | none => .error .missing

/-- Walks the elements of a path from a directory; `trailing` when the path ends in a slash. -/
def walk (d : Disk) (trailing : Bool) : Place → List String → Except OpenError DiskEntry
  | place, [] => .ok (.directory place)
  | place, [elem] => do
    match ← d.step place elem with
    | .file data => if trailing then throw .notDirectory else pure (.file data)
    | e => pure e
  | place, elem :: rest => do
    match ← d.step place elem with
    | .directory next => d.walk trailing next rest
    | .file _ => throw .notDirectory

/-- Opens a path. -/
def lookup (d : Disk) (path : String) : Except OpenError DiskEntry :=
  if path.toList.contains (Char.ofNat 0) then .error .invalidArgument
  else if path.isEmpty then .error .missing
  else if path.utf8ByteSize ≥ 4096 then .error .nameTooLong
  else
    let start := if path.startsWith "/" then Place.system [] else Place.work []
    let elems := (path.splitOn "/").filter (· != "")
    d.walk (path.endsWith "/") start elems

end Disk

end Harvest
