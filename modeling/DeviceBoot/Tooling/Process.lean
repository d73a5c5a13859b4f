import DeviceBoot.Tooling.Files
import DeviceBoot.Text.Quote
/-!
# Commands and the host's programs

The build tool runs other programs: the package manager, the toolchain manager and an object
copier. A `Command` is what it asks for: a program, its arguments, optionally a working directory
and extra environment variables. It is shown two ways:

* `Command.render` is the line the tool prints before running it: every word shell-quoted;
* `Command.debug` is how a failed command is reported: `cd "<dir>" && ` when it has a working
  directory, then each `KEY="value" `, then every word; directory, values and words are all
  debug-quoted (`Quote.debug`).

A word holding a NUL character cannot be passed to a program; it is shown as
`<string-with-nul>` and starting the command fails.

The `Host` says which programs exist. A program named by a path exists only as `/bin/true` (exits
0) and `/bin/false` (exits 1). A bare name is looked up among the installed tools. Each installed
tool behaves by its `ToolMode`: answering `--version` with its version line on one stream, or
silently; listing installed targets for `target ...`; copying its third argument over its fourth
for `-O binary`; and doing nothing otherwise. A failing tool exits 1 for everything.

Main definitions: `Command`, `Command.render`, `Command.debug`, `Host`, `Host.launch`.
-/

namespace DeviceBoot

/-- One of a program's two output streams. -/
inductive Channel where
  | out
  | err
  deriving DecidableEq, Repr

/-- How an installed tool behaves. -/
inductive ToolMode where
  /-- Answers `--version` with a line on a stream. -/
  | answers (channel : Channel) (version : String)
  /-- Answers `--version` with nothing. -/
  | silent
  /-- Exits 1 for everything. -/
  | fail
  deriving DecidableEq, Repr

/-- A program to run. -/
structure Command where
  program : String
  args : List String := []
  cwd : Option String := none
  /-- Extra environment variables, sorted by name. -/
  env : List (String × String) := []
  deriving DecidableEq, Repr

namespace Command

/-- What a word holding a NUL character is shown as. -/
def nulStandIn : String := "<string-with-nul>"

/-- A word as the command holds it. -/
def shown (s : String) : String := if s.contains '\x00' then nulStandIn else s

/-- The program and its arguments. -/
def words (c : Command) : List String := (c.program :: c.args).map shown

/-- The command line, shell-quoted. -/
def render (c : Command) : String := " ".intercalate (c.words.map Quote.shell)

/-- The command as a failure reports it. -/
def debug (c : Command) : String :=
  let dir := match c.cwd with
    | some d => "cd " ++ Quote.debug (shown d) ++ " && "
    | none => ""
  let vars := String.join (c.env.map fun (k, v) => k ++ "=" ++ Quote.debug v ++ " ")
  dir ++ vars ++ " ".intercalate (c.words.map Quote.debug)

/-- Whether the command cannot be started because a word holds a NUL character. -/
def hasNul (c : Command) : Bool :=
  (c.program :: c.args ++ c.env.map Prod.snd).any (·.contains '\x00')

end Command

/-- How a program ended: its exit code and what it wrote on each stream. -/
structure Finished where
  code : Nat
  out : String := ""
  err : String := ""
  deriving DecidableEq, Repr

/-- The host the build tool runs on. -/
structure Host where
  /-- The installed tools, by name. -/
  tools : List (String × ToolMode) := []
  /-- The targets the toolchain manager lists as installed. -/
  targets : List String := []
  /-- The package manager the tool was started with, if any. -/
  cargoVar : Option String := none
  /-- The runtime archive named by the environment, if any. -/
  archiveVar : Option String := none
  /-- The time, in seconds since the epoch. -/
  clock : Nat := 0
  deriving Repr

namespace ToolMode

/-- What a tool does with its arguments, run from a directory. -/
def respond (mode : ToolMode) (targets : List String) (t : FileTree) (dir : String)
    (args : List String) : Finished × FileTree :=
  match mode, args with
  | .fail, _ => ({ code := 1 }, t)
  | .answers .out line, "--version" :: _ => ({ code := 0, out := line ++ "\n" }, t)
  | .answers .err line, "--version" :: _ => ({ code := 0, err := line ++ "\n" }, t)
  | .silent, "--version" :: _ => ({ code := 0 }, t)
  | _, "target" :: _ => ({ code := 0, out := String.join (targets.map (· ++ "\n")) }, t)
  | _, "-O" :: "binary" :: src :: dst :: _ =>
    match t.copy (PathText.join dir src) (PathText.join dir dst) with
    | .ok (t', _) => ({ code := 0 }, t')
    | .error _ => ({ code := 1 }, t)
  | _, _ => ({ code := 0 }, t)

end ToolMode

namespace Host

/-- Whether a bare program name is found among the installed tools. -/
def has (h : Host) (name : String) : Bool := h.tools.any (·.1 == name)

/-- Run a command started from a directory: how it ended and the files after it, or why it
could not start. -/
def launch (h : Host) (t : FileTree) (dir : String) (c : Command) :
    Except IoError (Finished × FileTree) :=
  if c.hasNul then .error .nulInCommand
  else if c.program.contains '/' then
    if c.program == "/bin/true" then .ok ({ code := 0 }, t)
    else if c.program == "/bin/false" then .ok ({ code := 1 }, t)
    else .error .notFound
  else
    match h.tools.lookup c.program with
    | some mode => .ok (mode.respond h.targets t ((c.cwd.map (PathText.join dir)).getD dir) c.args)
    | none => .error .notFound

end Host

end DeviceBoot
