import DeviceBoot.Roots.Scanner
/-!
# The interpreter's entry points

The device program runs its bytecode on an interpreter it reaches through a small C interface.
Objects are handles (`Obj`), and the handle `0` is the null object. Any entry point may raise an
exception object instead of returning: raising is `throw` in `MonadExceptOf Obj m`, and the only
frame that catches a raise is `protect`, which turns it into a value. Effects made before the raise
stay made, as they do with a non-local jump.

The garbage collector's side (`Collector`) is kept apart from the rest (`Interpreter`): the root
scanner hands it spans of candidate roots, and while it handles one it may call back into the
program's own collection entry point, which is how a collection can be asked for from inside one.

Main definitions: `Obj`, `Interpreter`, `Collector`, `protect`.
-/

namespace DeviceBoot

/-- An interpreter object handle. -/
structure Obj where
  handle : Nat
  deriving DecidableEq, Repr

namespace Obj

/-- The null object. -/
def null : Obj := ⟨0⟩

/-- The object is the null object. -/
def isNull (o : Obj) : Bool := o.handle == 0

end Obj

/-- A module as the loader fills it in: the context it runs in and its raw code, null until the
loader sets it. -/
structure CompiledModule where
  context : Nat
  rawCode : Obj := Obj.null
  deriving DecidableEq, Repr

/-- Candidate roots for the collector: a batch of words, or a range of stack words read where
they lie. -/
inductive RootSpan where
  | words (ws : List Word)
  | range (start len : Nat)
  deriving DecidableEq, Repr

/-- The collector's entry points. -/
class Collector (m : Type → Type) where
  /-- Start a cycle. -/
  collectStart : m Unit
  /-- Mark from a span of candidate roots. The second argument is the program's collection entry
  point, which the collector may call back while it handles the span. -/
  collectRoot : RootSpan → m Unit → m Unit
  /-- End the cycle. -/
  collectEnd : m Unit

/-- The interpreter's entry points, as the binding calls them. -/
class Interpreter (m : Type → Type) where
  /-- Record the top of the stack the interpreter runs on. -/
  setStackTop : Nat → m Unit
  /-- Give the collector its heap, from start to end. -/
  gcInit : Nat → Nat → m Unit
  /-- Initialise the interpreter's global state. -/
  init : m Unit
  /-- Intern a name, answering its identifier. -/
  intern : String → m Nat
  /-- A new module object with the given name. -/
  newModule : Nat → m Obj
  /-- The builtin that answers the global namespace. -/
  globalsBuiltin : Obj
  /-- Call an object with no arguments. -/
  call0 : Obj → m Obj
  /-- Make a namespace the globals of a module object. -/
  bindGlobals : Obj → Obj → m Unit
  /-- Load a bytecode payload into a compiled module, setting its raw code. -/
  loadRawCode : Bytes → CompiledModule → m CompiledModule
  /-- A function from raw code, run in a context, with default arguments (null for none). -/
  makeFunction : Obj → Nat → Obj → m Obj
  /-- The type name of an object, if it has one that is text. -/
  typeName : Obj → Option String
  /-- Print an exception with its traceback on the interpreter's standard output. -/
  printException : Obj → m Unit

/-- Run `x` in a frame that catches a raise: the value, or the object raised. -/
def protect {m : Type → Type} {α : Type} [Monad m] [MonadExceptOf Obj m] (x : m α) :
    m (Except Obj α) :=
  tryCatchThe Obj (Except.ok <$> x) (fun e => pure (.error e))

end DeviceBoot
