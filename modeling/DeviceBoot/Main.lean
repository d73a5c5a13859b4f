import DeviceBoot.Tooling.Tasks
/-!
# The build tool's command line

Runs the build tool on its arguments in a fresh workspace rooted at `/workspace`, on a host with
no tools installed and the package manager looked up by name, then prints what the tool wrote
to each stream and exits with its code. Everything the tool does happens in the workspace model;
nothing on the real host is read or changed.
-/

open DeviceBoot

/-- Run the build tool on the command line's arguments. -/
def main (args : List String) : IO UInt32 := do
  let (code, session) := BuildTool.execute args (Session.begin {} "/workspace")
  IO.print session.out
  IO.eprint session.err
  return code.toUInt32
