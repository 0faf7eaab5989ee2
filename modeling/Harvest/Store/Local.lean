import Harvest.Text.Blank
import Harvest.Text.Quoted
import Harvest.Text.SlashPath
/-!
# Harvest.Store.Local

A blob store over a directory tree.

The tree holds directories and files by relative path in clean form. Making a directory with its
parents creates the missing ones and fails, naming it, at the first existing prefix that is a
file. A store is opened on a base directory: the name must not be blank, its clean form is the
base, which is created when missing and must not be a file. Putting data at a path refuses a
blank path and a path whose join with the base does not lie strictly inside the base; it then
makes the parent directories, writes the data under a temporary name beside the target and moves
it into place, which fails when the target is a directory (the temporary file is removed). The
answer is the URI `file://` followed by the joined path.

`LocalStore.putObject` takes the same steps one call at a time, as they meet a disk: after the
same checks and the parents, it creates a temporary file `.partial-<random>` beside the target
(drawing names until one is free, at most 10000 times), copies the source into it, closes it and
renames it onto the target. Reading the source, writing, creating and closing the file can also
fail for reasons the tree does not show (a denied permission, a full disk); the host says which.
A failure once the temporary file exists removes it. It answers the tree in every case.
-/

namespace Harvest

/-- A directory tree. -/
structure FileTree where
  dirs : List String := []
  files : List (String × Bytes) := []
  deriving DecidableEq, Repr

/-- What a path is in a tree. -/
inductive PathKind where
  | directory
  | file (data : Bytes)
  /-- A prefix of the path is a file. -/
  | underFile
  | missing
  deriving DecidableEq, Repr

namespace FileTree

/-- The proper prefixes of a clean relative path, shortest first. -/
def prefixes (p : String) : List String :=
  let parts := p.splitOn "/"
  (List.range parts.length).filterMap fun i =>
    if i == 0 then none else some ("/".intercalate (parts.take i))

/-- The file at a path, if any. -/
def file? (t : FileTree) (p : String) : Option Bytes := (t.files.find? (·.1 == p)).map (·.2)

/-- What a clean path is. -/
def kind (t : FileTree) (p : String) : PathKind :=
  if p == "." || p == ".." || p == "/" || t.dirs.contains p then .directory
  else match t.file? p with
    | some d => .file d
    | none => if (prefixes p).any (fun q => (t.file? q).isSome) then .underFile else .missing

/-- Makes a directory and its missing parents; fails at the first prefix that is a file. -/
def mkdirAll (t : FileTree) (p : String) : Except String FileTree :=
  let chain := prefixes p ++ [p]
  match chain.find? (fun q => (t.file? q).isSome) with
  | some q => .error ("mkdir " ++ q ++ ": not a directory")
  | none =>
    .ok { t with dirs := chain.foldl (fun ds q =>
      if q == "." || q == ".." || q == "/" || ds.contains q then ds else ds ++ [q]) t.dirs }

/-- Writes a file, replacing one at the same path. -/
def write (t : FileTree) (p : String) (data : Bytes) : FileTree :=
  { t with files := t.files.filter (·.1 != p) ++ [(p, data)] }

/-- Removes a file. -/
def remove (t : FileTree) (p : String) : FileTree := { t with files := t.files.filter (·.1 != p) }

/-- Moves a file onto a path: refused when the path is a directory or lies under a file; a file
there is replaced. -/
def rename (t : FileTree) (src dst : String) : Except String FileTree :=
  match t.kind dst with
  | .directory => .error ("rename " ++ src ++ " " ++ dst ++ ": file exists")
  | .underFile => .error ("rename " ++ src ++ " " ++ dst ++ ": not a directory")
  | _ => .ok ((t.remove src).write dst ((t.file? src).getD []))

/-- Creates an empty file `dir/.partial-<n>` for the first drawn number `n` that names nothing in
the tree, trying at most `tries` numbers from the `i`-th draw on. -/
def createTemp (t : FileTree) (dir : String) (draw : Nat → UInt32) :
    Nat → Nat → Except String (String × FileTree)
  | 0, _ => .error ("createtemp " ++ dir ++ "/.partial-*: file already exists")
  | tries + 1, i =>
    let name := dir ++ "/.partial-" ++ toString (draw i).toNat
    match t.kind name with
    | .missing => .ok (name, t.write name [])
    | .underFile => .error ("open " ++ name ++ ": not a directory")
    | _ => createTemp t dir draw tries (i + 1)

/-- Every path of the tree in byte order, directories with a trailing slash. -/
def listing (t : FileTree) : List String :=
  let all := t.dirs.map (· ++ "/") ++ t.files.map (·.1)
  (all.filter fun p => !p.startsWith "/" && !p.startsWith "../").mergeSort (· ≤ ·)

end FileTree

/-- A source of data: the bytes it yields, then its end or the failure it ends with. -/
structure Source where
  data : Bytes
  failure : Option String := none
  deriving DecidableEq, Repr

/-- What the host decides during a put besides the tree: the random numbers drawn for temporary
names, and the failures of calls that fail for reasons the tree does not show. -/
structure Host where
  /-- The `n`-th number drawn for a temporary name. -/
  draw : Nat → UInt32
  /-- Why creating the temporary file fails, if it does. -/
  createFailure : Option String := none
  /-- Why writing to the temporary file fails, if it does. -/
  writeFailure : Option String := none
  /-- Why closing the temporary file fails, if it does. -/
  closeFailure : Option String := none

/-- The failure of copying a source into the file `tmp`: a write fails at the first bytes
yielded, before the source is read further; a source that yields nothing fails as it ends. -/
def copyFailure (host : Host) (tmp : String) (src : Source) : Option String :=
  if src.data.isEmpty then src.failure
  else match host.writeFailure with
    | some e => some ("write " ++ tmp ++ ": " ++ e)
    | none => src.failure

/-- A blob store rooted at a base directory. -/
structure LocalStore where
  base : String
  deriving DecidableEq, Repr

namespace LocalStore

/-- Opens a store on a base directory, creating it when missing. -/
def openAt (t : FileTree) (baseDir : String) : Except String (LocalStore × FileTree) :=
  if (trimBlank baseDir).isEmpty then .error "base directory is required"
  else
    let base := SlashPath.clean baseDir
    match t.kind base with
    | .directory => .ok (⟨base⟩, t)
    | .file _ => .error ("base directory " ++ base ++ " is not a directory")
    | .underFile => .error ("stat base directory: stat " ++ base ++ ": not a directory")
    | .missing =>
      match t.mkdirAll base with
      | .ok t => .ok (⟨base⟩, t)
      | .error e => .error ("create base directory: " ++ e)

/-- The joined path of a relative path, when it lies strictly inside the base. -/
def target? (s : LocalStore) (path : String) : Option String :=
  let full := SlashPath.join [s.base, path]
  if full.startsWith (s.base ++ "/") then some full else none

/-- Puts data at a path; answers the tree and the URI. -/
def put (s : LocalStore) (t : FileTree) (path : String) (data : Bytes) :
    Except String (FileTree × String) :=
  if (trimBlank path).isEmpty then .error "path is required"
  else
    match s.target? path with
    | none => .error ("path " ++ quoted path ++ " escapes base directory")
    | some full =>
      let dir := SlashPath.dir full
      match t.mkdirAll dir with
      | .error e => .error ("create parent directories: " ++ e)
      | .ok t =>
        match t.kind full with
        | .directory =>
          .error ("rename object: rename " ++ dir ++ "/.partial-* " ++ full ++ ": file exists")
        | _ => .ok (t.write full data, "file://" ++ full)

/-- Creates the temporary file of a put in `dir`: fails at once when the host refuses, else draws
names as `FileTree.createTemp` does. -/
def createTemp (host : Host) (t : FileTree) (dir : String) : Except String (String × FileTree) :=
  match host.createFailure with
  | some e => .error ("open " ++ dir ++ "/.partial-" ++ toString (host.draw 0).toNat ++ ": " ++ e)
  | none => t.createTemp dir host.draw 10000 0

/-- Puts data from a source at a path one call at a time; answers the tree, and the URI or the
failure. -/
def putObject (s : LocalStore) (host : Host) (t : FileTree) (path : String) (src : Source) :
    FileTree × Except String String :=
  if (trimBlank path).isEmpty then (t, .error "path is required")
  else
    match s.target? path with
    | none => (t, .error ("path " ++ quoted path ++ " escapes base directory"))
    | some full =>
      let dir := SlashPath.dir full
      match t.mkdirAll dir with
      | .error e => (t, .error ("create parent directories: " ++ e))
      | .ok t =>
        match createTemp host t dir with
        | .error e => (t, .error ("create temp file: " ++ e))
        | .ok (tmp, t) =>
          match copyFailure host tmp src with
          | some e => (t.remove tmp, .error ("write object: " ++ e))
          | none =>
            let t := t.write tmp src.data
            match host.closeFailure with
            | some e => (t.remove tmp, .error ("close temp file: close " ++ tmp ++ ": " ++ e))
            | none =>
              match t.rename tmp full with
              | .error e => (t.remove tmp, .error ("rename object: " ++ e))
              | .ok t => (t, .ok ("file://" ++ full))

end LocalStore

end Harvest
