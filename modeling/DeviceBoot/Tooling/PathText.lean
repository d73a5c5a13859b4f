/-!
# Paths as text

The build tool keeps paths as strings, slash-separated. Three operations are needed:

* `PathText.join`: appending a path to a base. An absolute path replaces the base; otherwise a
  slash is put between them unless the base is empty or already ends with one. No other
  normalisation happens, so what is shown is exactly what was joined.
* `PathText.components`: how a path is read: a leading slash is the root, a leading `.` is the
  current directory, later empty and `.` parts are dropped, and `..` is the parent;
  `PathText.steps` is how the file system follows it, every `.` kept as a step.
* `PathText.fileName` and `PathText.fileStem`: the last component when it is a name, and that
  name without its extension. The extension starts at the last dot, unless that dot is the first
  character (a hidden file such as `.profile` has no extension).

Main definitions: `PathText.join`, `PathText.components`, `PathText.fileStem`.
-/

namespace DeviceBoot

namespace PathText

/-- Whether a path starts at the root. -/
def isAbsolute (p : String) : Bool := p.startsWith "/"

/-- A path appended to a base. -/
def join (base child : String) : String :=
  if isAbsolute child then child
  else if base.isEmpty || base.endsWith "/" then base ++ child
  else base ++ "/" ++ child

/-- A path with several parts appended in turn. -/
def joinAll (base : String) (parts : List String) : String := parts.foldl join base

/-- One component of a path. -/
inductive Component where
  /-- The leading slash. -/
  | root
  /-- A leading `.`. -/
  | current
  /-- `..`. -/
  | parent
  /-- Any other name. -/
  | normal (name : String)
  deriving DecidableEq, Repr

/-- A part after the first, read as a component; empty parts and `.` are none. -/
def Component.ofPart (s : String) : Option Component :=
  if s.isEmpty || s == "." then none
  else if s == ".." then some .parent
  else some (.normal s)

/-- The components of a path. -/
def components (p : String) : List Component :=
  match p.splitOn "/" with
  | [] => []
  | first :: rest =>
    if isAbsolute p then .root :: rest.filterMap Component.ofPart
    else if first == "." then .current :: rest.filterMap Component.ofPart
    else (first :: rest).filterMap Component.ofPart

/-- A part of a path as the file system walks it: empty parts are none, and every `.` is a step
that stays where it is. -/
def Component.ofStep (s : String) : Option Component :=
  if s.isEmpty then none
  else if s == "." then some .current
  else if s == ".." then some .parent
  else some (.normal s)

/-- The steps the file system takes to follow a path: the root for a leading slash, then every
non-empty part. Unlike `components`, a `.` after the first part is kept, because the file
system still requires what comes before it to be a directory. -/
def steps (p : String) : List Component :=
  let parts := (p.splitOn "/").filterMap Component.ofStep
  if isAbsolute p then .root :: parts else parts

/-- The last component of a path when it is a name. -/
def fileName (p : String) : Option String :=
  match (components p).getLast? with
  | some (.normal name) => some name
  | _ => none

/-- A name without its extension: everything before the last dot, unless that dot starts the
name or there is none. -/
def stemOf (name : String) : String :=
  let cs := name.toList
  match (cs.reverse.dropWhile (· ≠ '.')) with
  | [] => name
  | _ :: before => if before.isEmpty then name else String.ofList before.reverse

/-- The file name of a path without its extension. -/
def fileStem (p : String) : Option String := (fileName p).map stemOf

end PathText

end DeviceBoot
