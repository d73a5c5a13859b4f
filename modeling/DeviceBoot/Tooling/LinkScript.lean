import DeviceBoot.Tooling.PathText
/-!
# Link directives

Before the device binary is compiled, the package's build step tells the compiler how to link
it, one `cargo:` directive a line. It always asks to be rerun when the linker script or the
runtime archive variable changes. Host builds link nothing else. A bare-metal ARM build adds the
directory holding the linker script and the script itself; with the firmware feature it then
links the runtime archive named by `MPBOOT_LIBMICROPYTHON` with the C and math libraries, or
warns that the variable is not set. A set but empty variable still counts as set.

Main definitions: `LinkEnv`, `LinkEnv.directives`.
-/

namespace DeviceBoot

/-- What the build step reads from its environment; an unset variable is none. -/
structure LinkEnv where
  arch : Option String := none
  os : Option String := none
  manifestDir : Option String := none
  firmware : Bool := false
  archive : Option String := none
  deriving DecidableEq, Repr

namespace LinkEnv

/-- Whether the build is for bare-metal ARM. -/
def bareMetal (e : LinkEnv) : Bool := e.arch == some "arm" && e.os == some "none"

/-- The directives that link the runtime archive, or the warning that it is not named. -/
def runtimeDirectives (e : LinkEnv) : List String :=
  match e.archive with
  | some archive =>
    ["cargo:rustc-link-arg-bins=" ++ archive, "cargo:rustc-link-lib=c", "cargo:rustc-link-lib=m"]
  | none => ["cargo:warning=MPBOOT_LIBMICROPYTHON is not set; the runtime archive will not be linked"]

/-- The directives the build step prints, in order. -/
def directives (e : LinkEnv) : List String :=
  ["cargo:rerun-if-changed=link/v5.ld", "cargo:rerun-if-env-changed=MPBOOT_LIBMICROPYTHON"] ++
    if e.bareMetal then
      ["cargo:rustc-link-search=native=" ++ PathText.join (e.manifestDir.getD "") "link",
        "cargo:rustc-link-arg-bins=-Tv5.ld"] ++
      (if e.firmware then e.runtimeDirectives else [])
    else []

/-- What the build step writes to standard output. -/
def output (e : LinkEnv) : String := String.join (e.directives.map (· ++ "\n"))

end LinkEnv

end DeviceBoot
