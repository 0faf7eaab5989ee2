import Harvest.Config.Dynamic
import Harvest.Text.Case
/-!
# Harvest.Config.Layers

Layered settings: values from the environment over values from a configuration file over
defaults, addressed by dotted lower-case keys such as `fetch.max_retries`.

A key is looked up in three places in turn:

* the environment variable named by the prefix, an underscore and the key in capitals with
  dots turned into underscores (`DOCFETCH_FETCH_MAX_RETRIES`); an empty variable counts as unset,
  and a key below one the environment sets (`DOCFETCH_FETCH`) has no value at all;
* the file's map, where a dotted key may also be stored whole at any level
  (`fetch.max_retries` found as `"fetch.max_retries"`, or as `fetch` then `max_retries`); a
  null counts as absent, and a key below a value that is not a map is absent everywhere;
* the defaults.

The known keys are the leaves of the file's map and of the defaults, where a leaf of the file
hides the defaults below it (a file with `server:` left empty hides `server.port`). Only known
keys are taken from the environment. Collecting every known key that has a value, placed back
into nested maps, gives the settings to decode.
-/

namespace Harvest

/-- The sources of layered settings. -/
structure Layers where
  /-- The prefix of environment variables. -/
  envPrefix : String
  defaults : List (String × Dyn)
  /-- The file's map, keys in lower case. -/
  file : List (String × Dyn) := []
  env : List (String × String) := []

namespace Layers

mutual

/-- A value with the keys of its maps in lower case, also inside lists. -/
def lowerKeys : Dyn → Dyn
  | .list items => .list (lowerItems items)
  | .map entries => .map (lowerEntries entries)
  | d => d

/-- The items of a list with their keys in lower case. -/
def lowerItems : List Dyn → List Dyn
  | [] => []
  | d :: ds => lowerKeys d :: lowerItems ds

/-- The entries of a map with their keys (and those inside) in lower case; of two keys that
agree in lower case the later wins. -/
def lowerEntries : List (String × Dyn) → List (String × Dyn)
  | [] => []
  | (k, v) :: rest =>
    let tail := lowerEntries rest
    let k := lowerText k
    if tail.any (·.1 == k) then tail else (k, lowerKeys v) :: tail

end

/-- The value at a path of nested maps; a null counts as absent. -/
def searchMap : List (String × Dyn) → List String → Option Dyn
  | m, [] => some (.map m)
  | m, [k] =>
    match Dyn.lookup m k with
    | some .null | none => none
    | some v => some v
  | m, k :: rest =>
    match Dyn.lookup m k with
    | some (.map sub) => searchMap sub rest
    | _ => none

/-- Whether a value on the way to a path is not a map, hiding the path. -/
def shadowed (m : List (String × Dyn)) (path : List String) : Bool :=
  (List.range path.length).any fun i =>
    i ≥ 1 &&
      (List.range i).all (fun j => j == 0 || (match searchMap m (path.take j) with
        | some (.map _) => true
        | _ => false)) &&
      (match searchMap m (path.take i) with
        | some (.map _) => false
        | some _ => true
        | none => false)

/-- Reads a list index the way an integer text is read: optional sign, decimal digits. -/
def indexOf (s : String) : Option Nat :=
  let cs := match s.toList with
    | '+' :: r => r
    | r => r
  if cs.isEmpty || !cs.all (fun c => '0' ≤ c && c ≤ '9') then none
  else some (cs.foldl (fun n c => n * 10 + (c.toNat - 48)) 0)

/-- The value at a path, where any run of path elements may also be stored as one dotted key,
the longest run first, and lists may be indexed. -/
def searchPrefixes : Nat → Dyn → List String → Option Dyn
  | 0, _, _ => none
  | _, source, [] => some source
  | fuel + 1, source, path =>
    let tryLen (i : Nat) : Option Dyn :=
      let key := ".".intercalate (path.take i)
      let next : Option Dyn := match source with
        | .map m => Dyn.lookup m key
        | .list items => (indexOf key).bind fun n => items[n]?
        | _ => none
      match next with
      | none => none
      | some .null => none
      | some v =>
        if i == path.length then some v
        else match v with
          | .map _ | .list _ => searchPrefixes fuel v (path.drop i)
          | _ => none
    ((List.range path.length).reverse.map (· + 1)).findSome? tryLen

/-- The name of the environment variable for a key. -/
def envName (l : Layers) (key : String) : String :=
  String.ofList ((upperText (l.envPrefix ++ "_" ++ key)).toList.map fun c => if c == '.' then '_' else c)

/-- The value of a path from the file, else from the defaults. -/
def fromFile (l : Layers) (path : List String) (nested : Bool) : Option Dyn :=
  match searchPrefixes (path.length + 1) (.map l.file) path with
  | some v => some v
  | none =>
    if nested && shadowed l.file path then none
    else searchMap l.defaults path

/-- The environment's value for a key; an empty variable counts as unset. -/
def envValue (l : Layers) (key : String) : Option String :=
  match l.env.find? (·.1 == l.envName key) with
  | some (_, v) => if v.isEmpty then none else some v
  | none => none

/-- The value of a key, from the environment, the file or the defaults. A key below one the
environment sets is hidden. -/
def find (l : Layers) (key : String) : Option Dyn :=
  let path := key.splitOn "."
  let nested := path.length > 1
  match l.envValue key with
  | some v => some (.str v)
  | none =>
    let parentSet := (List.range path.length).any fun i =>
      i ≥ 1 && (l.envValue (".".intercalate (path.take i))).isSome
    if nested && parentSet then none else l.fromFile path nested

/-- The leaf keys of a map under a prefix, skipping prefixes already known. -/
def leafKeys (fuel : Nat) (known : List String) (m : List (String × Dyn)) (pfx : String) : List String :=
  match fuel with
  | 0 => known
  | fuel + 1 =>
    if pfx != "" && known.contains pfx then known
    else
      let lead := if pfx == "" then "" else pfx ++ "."
      m.foldl (fun acc (k, v) =>
        let full := lead ++ k
        match v with
        | .map sub => leafKeys fuel acc sub full
        | _ => if acc.contains (lowerText full) then acc else acc ++ [lowerText full]) known

mutual

/-- The depth of a value, bounding walks over it. -/
def depth : Dyn → Nat
  | .map entries => 1 + depthEntries entries
  | .list items => 1 + depthItems items
  | _ => 1

/-- The greatest depth among list items. -/
def depthItems : List Dyn → Nat
  | [] => 0
  | d :: ds => max (depth d) (depthItems ds)

/-- The greatest depth among map values. -/
def depthEntries : List (String × Dyn) → Nat
  | [] => 0
  | (_, d) :: rest => max (depth d) (depthEntries rest)

end

/-- Every known key. -/
def allKeys (l : Layers) : List String :=
  let fileKeys := leafKeys (depth (.map l.file) + 1) [] l.file ""
  leafKeys (depth (.map l.defaults) + 1) fileKeys l.defaults ""

/-- Sets a value at a path of nested maps, replacing values in the way by maps. -/
def setDeep : List (String × Dyn) → List String → Dyn → List (String × Dyn)
  | m, [], _ => m
  | m, [k], v => Dyn.insert m k v
  | m, k :: rest, v =>
    let sub := match Dyn.lookup m k with
      | some (.map s) => s
      | _ => []
    Dyn.insert m k (.map (setDeep sub rest v))

/-- The settings: every known key with a value, in nested maps. -/
def settings (l : Layers) : List (String × Dyn) :=
  l.allKeys.foldl (fun m k =>
    match l.find k with
    | some v => setDeep m (k.splitOn ".") v
    | none => m) []

end Layers

end Harvest
