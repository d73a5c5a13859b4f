import DeviceBoot.Tooling.Process
import DeviceBoot.Tooling.Settings
import DeviceBoot.Tooling.Sha256
import DeviceBoot.Tooling.JsonText
import DeviceBoot.Bundle.Pack
/-!
# The build tool

The workspace's automation: formatting, linting and testing through the package manager, a
check of the host's tools, the firmware build, bundling compiled modules, packaging everything
with checksums and a manifest, and cleaning. It reports progress on standard error, one tagged
line a step (`[RUN]`, `[VER]`, `[WARN]`, `[OK]`, `[ARTIFACT]`, `[BUNDLE]`, `[CHECKSUM]`,
`[CLEAN]`), and a failure ends the run with `Error: <message>` and exit code 1.

A run is a `Session`: the host, the workspace's files, the workspace root and the directory the
tool was started in, and the text written to each stream. Programs it runs through `run` write to
the tool's own streams; `capture` keeps their output instead.

Build artifacts go to `build/dist` below the root: the firmware image `mpboot.elf`, its raw copy
`mpboot.bin` when an object copier is installed, the bundle `bytecode.bin`, the checksum list
`SHA256SUMS` and `MANIFEST.json`.

Main definitions: `Session`, `TaskM`, `BuildTool.dispatch`, `BuildTool.execute`.
-/

namespace DeviceBoot

/-- One run of the build tool. -/
structure Session where
  host : Host
  files : FileTree
  /-- The workspace root. -/
  root : String
  /-- The directory the tool was started in. -/
  cwd : String
  /-- What the tool wrote to standard output. -/
  out : String := ""
  /-- What the tool wrote to standard error. -/
  err : String := ""

/-- A step of the build tool; a failure carries the message the run ends with. -/
abbrev TaskM := ExceptT String (StateM Session)

namespace BuildTool

/-- The target the firmware is built for unless the settings name another. -/
def deviceTarget : String := "armv7a-none-eabi"

/-- The version the build tool reports in the manifest. -/
def toolVersion : String := "0.1.0"

/-- The environment variable naming the runtime archive. -/
def archiveVariable : String := "MPBOOT_LIBMICROPYTHON"

/-- The object copiers the tool looks for, in order. -/
def objcopyNames : List String := ["rust-objcopy", "llvm-objcopy", "arm-none-eabi-objcopy"]

/-- Write a line to standard error. -/
def note (line : String) : TaskM Unit := modify fun s => { s with err := s.err ++ line ++ "\n" }

/-- The result of a file operation, its failure ending the run with the host's message. -/
def io {α : Type} : Except IoError α → TaskM α
  | .ok a => pure a
  | .error e => throw e.message

/-- A path as given, resolved against the working directory. The empty path stays empty and
names nothing. -/
def resolve (p : String) : TaskM String := do
  let cwd := (← get).cwd
  return if p.isEmpty then p else PathText.join cwd p

/-- A path below the root. -/
def underRoot (parts : List String) : TaskM String := do
  return PathText.joinAll (← get).root parts

/-- Whether a path names something. -/
def pathExists (p : String) : TaskM Bool := do return (← get).files.exists? p

/-- The bytes of a file. -/
def readFile (p : String) : TaskM Bytes := do io ((← get).files.read p)

/-- Replace the workspace's files. -/
def setFiles (files : FileTree) : TaskM Unit := modify fun s => { s with files }

/-- Write a file. -/
def writeFile (p : String) (data : Bytes) : TaskM Unit := do
  setFiles (← io ((← get).files.write p data))

/-- Start a command: how it ended, with the files it changed, or none when it cannot start. -/
def start (c : Command) : TaskM (Except IoError Finished) := do
  let s ← get
  match s.host.launch s.files s.cwd c with
  | .ok (fin, files) => setFiles files; return .ok fin
  | .error e => return .error e

/-- Run a command after showing it; its output goes to the tool's streams. It must start and
exit with code 0. -/
def run (c : Command) : TaskM Unit := do
  note s!"[RUN] {c.render}"
  let fin ← io (← start c)
  modify fun s => { s with out := s.out ++ fin.out, err := s.err ++ fin.err }
  unless fin.code == 0 do throw s!"command failed: {c.debug}"

/-- Run a command keeping its output; none when it cannot start. -/
def capture (c : Command) : TaskM (Option Finished) := do
  match ← start c with
  | .ok fin => return some fin
  | .error _ => return none

/-- The lines of a program's output: split at line feeds, a carriage return before one dropped,
and no empty last line. -/
def outputLines (text : String) : List String :=
  let parts := text.splitOn "\n"
  let parts := if text.endsWith "\n" then parts.dropLast else parts
  parts.map fun p => if p.endsWith "\r" then String.ofList p.toList.dropLast else p

/-- A white-space character, in the Unicode sense. -/
def isWhite (c : Char) : Bool :=
  (0x09 ≤ c.toNat ∧ c.toNat ≤ 0x0d) ∨ c.toNat = 0x20 ∨ c.toNat = 0x85 ∨ c.toNat = 0xa0 ∨
    c.toNat = 0x1680 ∨ (0x2000 ≤ c.toNat ∧ c.toNat ≤ 0x200a) ∨ c.toNat = 0x2028 ∨
    c.toNat = 0x2029 ∨ c.toNat = 0x202f ∨ c.toNat = 0x205f ∨ c.toNat = 0x3000

/-- A text without white space at either end. -/
def trimWhite (s : String) : String :=
  String.ofList ((s.toList.dropWhile isWhite).reverse.dropWhile isWhite).reverse

/-- The first line a tool answers `--version` with, on standard output or else standard error;
none when it cannot start or says nothing. -/
def versionOf (name : String) : TaskM (Option String) := do
  match ← capture { program := name, args := ["--version"] } with
  | none => return none
  | some fin =>
    let first := fun text => (outputLines text).headD ""
    let line := if (first fin.out).isEmpty then first fin.err else first fin.out
    return if line.isEmpty then none else some line

/-- The first object copier installed. -/
def findObjcopy : TaskM (Option String) := do
  let host := (← get).host
  return objcopyNames.find? host.has

/-- The package manager, given by the environment or looked up by name. -/
def cargo (args : List String) : TaskM Command := do
  return { program := (← get).host.cargoVar.getD "cargo", args }

/-- Run the package manager. -/
def cargoRun (args : List String) : TaskM Unit := do run (← cargo args)

/-- The build settings: the defaults when the root holds no settings file. -/
def readSettings : TaskM BuildSettings := do
  let path ← underRoot ["mpboot.toml"]
  unless ← pathExists path do return {}
  let bytes ← readFile path
  match String.fromUTF8? ⟨bytes.toArray⟩ with
  | none => throw "stream did not contain valid UTF-8"
  | some text =>
    match BuildSettings.read text with
    | .ok settings => return settings
    | .error e => throw s!"invalid {path}: {e}"

/-- The distribution directory, created when missing. -/
def ensureDist : TaskM String := do
  let dist ← underRoot ["build/dist"]
  setFiles (← io ((← get).files.createDirAll dist))
  return dist

/-- Format the sources. -/
def fmt : TaskM Unit := cargoRun ["fmt", "--all"]

/-- Check the sources' formatting. -/
def fmtCheck : TaskM Unit := cargoRun ["fmt", "--all", "--", "--check"]

/-- Lint everything, warnings as errors. -/
def clippy : TaskM Unit := cargoRun ["clippy", "--workspace", "--all-targets", "--", "-D", "warnings"]

/-- Run the device library's tests. -/
def test : TaskM Unit := cargoRun ["test", "-p", packageName]

/-- Formatting, lints and tests, stopping at the first failure. -/
def check : TaskM Unit := do
  fmtCheck
  clippy
  test

/-- Report the host's tools and the runtime archive; fails when a tool is missing. -/
def envCheck : TaskM Unit := do
  let mut missing : List String := []
  for tool in ["cargo", "rustup"] do
    match ← versionOf tool with
    | some v => note s!"[VER] {tool}: {v}"
    | none => missing := missing ++ [tool]
  match ← findObjcopy with
  | some objcopy => note s!"[VER] objcopy: {objcopy}"
  | none => note "[WARN] no objcopy found; install with: cargo install cargo-binutils"
  let listed ← capture { program := "rustup", args := ["target", "list", "--installed"] }
  let installed := outputLines ((listed.map Finished.out).getD "")
  unless installed.any (fun t => trimWhite t == deviceTarget) do
    note s!"[WARN] {deviceTarget} not installed; run: rustup target add {deviceTarget}"
  let settings ← readSettings
  match settings.archive <|> (← get).host.archiveVar with
  | some archive =>
    if ← pathExists (← resolve archive) then note s!"[OK] runtime archive: {archive}"
    else note s!"[WARN] runtime archive missing: {archive}"
  | none => note "[WARN] MPBOOT_LIBMICROPYTHON not set"
  unless missing.isEmpty do
    let names := ", ".intercalate missing
    throw s!"missing tools: {names}"

/-- Build the firmware and copy it to the distribution directory, with a raw copy when an object
copier is installed; the path of the last artifact. -/
def firmware : TaskM String := do
  let settings ← readSettings
  let target := settings.target.getD deviceTarget
  let release := settings.release.getD true
  let profile := if release then "release" else "debug"
  let features := ",".intercalate ("firmware" :: settings.features)
  let root := (← get).root
  let base ← cargo (["build", "--bin", packageName, "--target", target, "--features", features] ++
    if release then ["--release"] else [])
  run { base with
    cwd := some root
    env := match settings.archive with
      | some archive => [(archiveVariable, archive)]
      | none => [] }
  let elf := PathText.joinAll root ["target", target, profile, packageName]
  unless ← pathExists elf do throw s!"expected build output at {elf}"
  let dist ← ensureDist
  let elfOut := PathText.join dist (packageName ++ ".elf")
  let (files, _) ← io ((← get).files.copy elf elfOut)
  setFiles files
  note s!"[ARTIFACT] {elfOut}"
  match ← findObjcopy with
  | none =>
    note "[WARN] no objcopy found; skipping raw binary"
    return elfOut
  | some objcopy =>
    let binOut := PathText.join dist (packageName ++ ".bin")
    run { program := objcopy, args := ["-O", "binary", elfOut, binOut] }
    note s!"[ARTIFACT] {binOut}"
    return binOut

/-- The module name of a compiled file: its file name without the extension. -/
def moduleName (path : String) : Except String String :=
  match PathText.fileStem path with
  | some stem => if stem.isEmpty then .error s!"cannot derive a module name from {path}" else .ok stem
  | none => .error s!"cannot derive a module name from {path}"

/-- A result of a pure step, its failure ending the run. -/
def liftResult {α : Type} : Except String α → TaskM α
  | .ok a => pure a
  | .error e => throw e

/-- Pack compiled modules into the bundle; the first is the entry. The path of the bundle. -/
def bundle (args : List String) : TaskM String := do
  let entryPath ← match args with
    | [] => throw "usage: bundle <main.mpy> [module.mpy ...]"
    | p :: _ => pure p
  let entry ← liftResult (moduleName entryPath)
  let mut modules : List (String × Bytes) := []
  for path in args do
    let name ← liftResult (moduleName path)
    if modules.any (·.1 == name) then throw s!"two modules are named '{name}'"
    let bytes ← match (← get).files.read (← resolve path) with
      | .ok bytes => pure bytes
      | .error e => throw s!"{path}: {e.message}"
    note s!"[BUNDLE] {path} as '{name}' ({bytes.length} bytes)"
    modules := modules ++ [(name, bytes)]
  let out := PathText.join (← ensureDist) "bytecode.bin"
  writeFile out (← liftResult (Bundle.pack modules entry))
  note s!"[ARTIFACT] {out} (entry '{entry}')"
  return out

/-- The SHA-256 digest of a file, in hex. -/
def digestOf (path : String) : TaskM String := do return Sha256.hexDigest (← readFile path)

/-- Add a file's digest to the checksum list. -/
def appendChecksum (path : String) : TaskM Unit := do
  let dist ← ensureDist
  let name := (PathText.fileName path).getD ""
  let sum ← digestOf path
  let line := s!"{sum}  {name}\n"
  setFiles (← io ((← get).files.append (PathText.join dist "SHA256SUMS") line.toUTF8.toList))
  note s!"[CHECKSUM] {sum}  {name}"

/-- The manifest's record of an artifact in the distribution directory, when it exists. -/
def artifact (dist name : String) : TaskM (Option JsonValue) := do
  let path := PathText.join dist name
  unless ← pathExists path do return none
  let read := (← get).files.read path
  let size := match read with
    | .ok bytes => bytes.length
    | .error _ => 0
  let sum := match read with
    | .ok bytes => some (Sha256.hexDigest bytes)
    | .error _ => none
  return some (.obj [("bytes", .num size), ("name", .str name), ("path", .str path),
    ("sha256", JsonValue.ofOption sum)])

/-- Write the manifest: the tools' versions, the target, the artifacts and when. -/
def writeManifest : TaskM Unit := do
  let dist ← ensureDist
  let names := [packageName ++ ".elf", packageName ++ ".bin", "bytecode.bin"]
  let artifacts ← names.filterMapM (artifact dist)
  let rustc ← versionOf "rustc"
  let cargoVersion ← versionOf "cargo"
  let objcopy ← findObjcopy
  let clock := (← get).host.clock
  let manifest : JsonValue := .obj [
    ("artifacts", .arr artifacts),
    ("meta", .obj [("mpboot_version", .str packageVersion), ("timestamp", .num clock),
      ("xtask_version", .str toolVersion)]),
    ("target", .str deviceTarget),
    ("versions", .obj [("cargo", JsonValue.ofOption cargoVersion),
      ("objcopy", JsonValue.ofOption objcopy), ("rustc", JsonValue.ofOption rustc)])]
  let out := PathText.join dist "MANIFEST.json"
  writeFile out manifest.render.toUTF8.toList
  note s!"[ARTIFACT] {out}"

/-- Firmware, then the bundle when modules are given, each with its checksum, then the manifest. -/
def package (args : List String) : TaskM Unit := do
  let binary ← firmware
  appendChecksum binary
  unless args.isEmpty do
    let packed ← bundle args
    appendChecksum packed
  writeManifest

/-- Clean the package manager's outputs and remove the build directory. -/
def clean : TaskM Unit := do
  note "[CLEAN] Cleaning build artifacts..."
  cargoRun ["clean"]
  let build ← underRoot ["build"]
  if ← pathExists build then
    setFiles (← io ((← get).files.removeAll build))
    note s!"[CLEAN] Removed build directory: {build}"

/-- The list of commands. -/
def helpText : String :=
  "xtask commands:\n" ++
  "  fmt | fmt-check | clippy | test | check | env-check | clean\n" ++
  "  firmware                      # build the device binary\n" ++
  "  bundle <main.mpy> [mod.mpy..] # pack named bytecode modules; the first is the entry\n" ++
  "  package [main.mpy ..]         # firmware + bundle + checksums + MANIFEST.json\n" ++
  "\n" ++
  "Settings are read from mpboot.toml (target, release, libmicropython, features).\n" ++
  "\n" ++
  "Examples:\n" ++
  "  cargo run -p xtask -- check\n" ++
  "  cargo run -p xtask -- firmware\n" ++
  "  cargo run -p xtask -- package build/main.mpy"

/-- The command named by the first argument, given the rest; any other shows the commands. -/
def dispatch : List String → TaskM Unit
  | "fmt" :: _ => fmt
  | "fmt-check" :: _ => fmtCheck
  | "clippy" :: _ => clippy
  | "test" :: _ => test
  | "check" :: _ => check
  | "env-check" :: _ => envCheck
  | "firmware" :: _ => discard firmware
  | "bundle" :: rest => discard (bundle rest)
  | "package" :: rest => package rest
  | "clean" :: _ => clean
  | _ => note helpText

/-- Run the tool with its arguments: the exit code and the session after it. A failure is
reported on standard error. -/
def execute (args : List String) (s : Session) : Nat × Session :=
  match (dispatch args).run.run s with
  | (.ok (), s') => (0, s')
  | (.error msg, s') => (1, { s' with err := s'.err ++ "Error: " ++ msg ++ "\n" })

end BuildTool

namespace Session

/-- A session in a workspace whose root holds only the working directory `work`, where the tool
is started. -/
def begin (host : Host) (root : String) : Session :=
  let rootParts := (PathText.components root).filterMap fun
    | .normal n => some n
    | _ => none
  let cwd := PathText.join root "work"
  { host, root, cwd, files := { root := rootParts, entries := [(["work"], .dir)] } }

/-- The session with a file placed at a path, its directories created. A path that cannot be
written leaves the session as it was. -/
def seed (s : Session) (path : String) (data : Bytes) : Session :=
  match s.files.place path data with
  | .ok files => { s with files }
  | .error _ => s

/-- The session with a directory created, when it can be. -/
def seedDir (s : Session) (path : String) : Session :=
  match s.files.createDirAll path with
  | .ok files => { s with files }
  | .error _ => s

end Session

end DeviceBoot
