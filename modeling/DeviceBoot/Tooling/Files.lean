import DeviceBoot.Tooling.PathText
import DeviceBoot.Word.LittleEndian
/-!
# The workspace's files

The build tool works inside one workspace directory, its root. The files it can reach are a tree
of named entries below that root, each a file with its bytes or a directory, and the directories
on the way from `/` down to the root. Nothing else exists for it.

A path is looked up the way the host looks one up: from `/` for an absolute path, component by
component, each step from a directory. Stepping from a file fails with "not a directory",
stepping from nothing with "no such file"; `..` steps to the parent, and stays at `/` there. A
path ending in a slash must name a directory. Relative paths are resolved by the caller against
its working directory first; on their own they name nothing.

The operations are the few the tool uses: reading, writing, appending, copying, creating a
directory with its parents, removing a directory with everything under it, and testing that a
path names something. Each failure carries the host's message for it.

Main definitions: `FileTree`, `FileTree.locate`, `FileTree.read`, `FileTree.write`,
`FileTree.createDirAll`, `FileTree.removeAll`.
-/

namespace DeviceBoot

/-- Why a file operation failed. -/
inductive IoError where
  | notFound
  | isDirectory
  | notDirectory
  | fileExists
  /-- A path holding a NUL character. -/
  | nulInName
  /-- A copy whose source is not a file. -/
  | notAFile
  /-- A program name, argument or environment value holding a NUL character. -/
  | nulInCommand
  deriving DecidableEq, Repr

/-- The host's message for a failure. -/
def IoError.message : IoError → String
  | .notFound => "No such file or directory (os error 2)"
  | .isDirectory => "Is a directory (os error 21)"
  | .notDirectory => "Not a directory (os error 20)"
  | .fileExists => "File exists (os error 17)"
  | .nulInName => "file name contained an unexpected NUL byte"
  | .notAFile => "the source path is neither a regular file nor a symlink to a regular file"
  | .nulInCommand => "nul byte found in provided data"

/-- An entry of the tree. -/
inductive Node where
  | file (data : Bytes)
  | dir
  deriving DecidableEq, Repr

/-- The workspace's entries below its root, each under its components from the root. The root
itself is a directory and has no entry. -/
structure FileTree where
  /-- The root's components from `/`. -/
  root : List String
  entries : List (List String × Node) := []
  deriving Repr

/-- Where a lookup has got to: a place given by its components from `/`, or nowhere. -/
inductive Spot where
  | at (parts : List String)
  | absent
  deriving DecidableEq, Repr

namespace FileTree

open PathText

/-- The place of a path below the root, when it is there. -/
def below (t : FileTree) (parts : List String) : Option (List String) :=
  if t.root.isPrefixOf parts then some (parts.drop t.root.length) else none

/-- The entry at a place below the root. -/
def find? (t : FileTree) (rel : List String) : Option Node :=
  if rel.isEmpty then some .dir else (t.entries.find? (·.1 == rel)).map Prod.snd

/-- What a spot holds: the root's ancestors are directories. -/
def nodeAt (t : FileTree) : Spot → Option Node
  | .at parts =>
    match t.below parts with
    | some rel => t.find? rel
    | none => if parts.isPrefixOf t.root then some .dir else none
  | .absent => none

/-- One step of a lookup, from a spot that must be a directory. -/
def step (t : FileTree) (spot : Spot) (c : Component) : Except IoError Spot :=
  match t.nodeAt spot with
  | none => .error .notFound
  | some (.file _) => .error .notDirectory
  | some .dir =>
    match c, spot with
    | .root, _ => .ok (.at [])
    | .current, s => .ok s
    | .parent, .at parts => .ok (.at parts.dropLast)
    | .normal n, .at parts => .ok (.at (parts ++ [n]))
    | _, .absent => .ok .absent

/-- Where a path leads and what is there. -/
def locate (t : FileTree) (path : String) : Except IoError (Spot × Option Node) := do
  if path.contains '\x00' then throw .nulInName
  let start := if isAbsolute path then Spot.at [] else Spot.absent
  let spot ← (steps path).foldlM t.step start
  let node := t.nodeAt spot
  if path.endsWith "/" then
    if let some (.file _) := node then throw .notDirectory
  return (spot, node)

/-- The place below the root a spot names, when it is strictly below it. -/
def placeOf (t : FileTree) : Spot → Option (List String)
  | .at parts =>
    match t.below parts with
    | some rel => if rel.isEmpty then none else some rel
    | none => none
  | .absent => none

/-- Whether a path names something. -/
def exists? (t : FileTree) (path : String) : Bool :=
  match t.locate path with
  | .ok (_, some _) => true
  | _ => false

/-- Whether a path names a directory. -/
def isDir (t : FileTree) (path : String) : Bool :=
  match t.locate path with
  | .ok (_, some .dir) => true
  | _ => false

/-- The bytes of a file. -/
def read (t : FileTree) (path : String) : Except IoError Bytes := do
  match (← t.locate path).2 with
  | some (.file data) => return data
  | some .dir => throw .isDirectory
  | none => throw .notFound

/-- The tree with the entry at a place below the root set. -/
def put (t : FileTree) (rel : List String) (n : Node) : FileTree :=
  if t.entries.any (·.1 == rel) then
    { t with entries := t.entries.map fun e => if e.1 == rel then (rel, n) else e }
  else { t with entries := t.entries ++ [(rel, n)] }

/-- The tree with a file written: created, or replaced when it exists. Its directory must exist. -/
def write (t : FileTree) (path : String) (data : Bytes) : Except IoError FileTree := do
  let (spot, node) ← t.locate path
  match node, t.placeOf spot with
  | some .dir, _ => throw .isDirectory
  | _, some rel => return t.put rel (.file data)
  | _, none => throw .notFound

/-- The tree with bytes added at the end of a file, which is created when missing. -/
def append (t : FileTree) (path : String) (data : Bytes) : Except IoError FileTree := do
  let (spot, node) ← t.locate path
  match node, t.placeOf spot with
  | some .dir, _ => throw .isDirectory
  | some (.file old), some rel => return t.put rel (.file (old ++ data))
  | _, some rel => return t.put rel (.file data)
  | _, none => throw .notFound

/-- The tree with a file copied over another, and the number of bytes copied. -/
def copy (t : FileTree) (src dst : String) : Except IoError (FileTree × Nat) := do
  match (← t.locate src).2 with
  | some (.file data) => return (← t.write dst data, data.length)
  | some .dir => throw .notAFile
  | none => throw .notFound

/-- One step of creating a directory with its parents. -/
def makeStep (t : FileTree) (spot : Spot) (c : Component) : Except IoError (FileTree × Spot) := do
  let next ← t.step spot c
  match t.nodeAt next, t.placeOf next with
  | some .dir, _ => return (t, next)
  | some (.file _), _ => throw .fileExists
  | none, some rel => return (t.put rel .dir, next)
  | none, none => throw .notFound

/-- The tree with a directory and all its missing parents created. -/
def createDirAll (t : FileTree) (path : String) : Except IoError FileTree := do
  if path.contains '\x00' then throw .nulInName
  if !isAbsolute path then throw .notFound
  let (t', _) ← (components path).foldlM (fun (acc : FileTree × Spot) c => acc.1.makeStep acc.2 c)
    (t, Spot.at [])
  return t'

/-- The tree without the entry at a place and everything under it. -/
def prune (t : FileTree) (parts : List String) : FileTree :=
  { t with entries := t.entries.filter fun e => !(parts.isPrefixOf e.1) }

/-- The tree with a directory and everything under it removed. -/
def removeAll (t : FileTree) (path : String) : Except IoError FileTree := do
  let (spot, node) ← t.locate path
  match node, t.placeOf spot with
  | some .dir, some rel => return t.prune rel
  | some (.file _), _ => throw .notDirectory
  | _, _ => throw .notFound

/-- The tree with a file written, its missing directories created first. -/
def place (t : FileTree) (path : String) (data : Bytes) : Except IoError FileTree := do
  let parent := "/".intercalate (path.splitOn "/").dropLast
  (← t.createDirAll parent).write path data

/-- The entries directly in a directory, files and directories, sorted by name. -/
def entriesIn (t : FileTree) (path : String) : List (String × Node) :=
  match t.locate path with
  | .ok (spot, some .dir) =>
    match spot with
    | .at parts =>
      match t.below parts with
      | some rel =>
        let found := t.entries.filterMap fun e =>
          match e.1.splitAt rel.length with
          | (pre, [name]) => if pre == rel then some (name, e.2) else none
          | _ => none
        found.mergeSort fun a b => decide (a.1 ≤ b.1)
      | none => []
    | .absent => []
  | _ => []

end FileTree

end DeviceBoot
