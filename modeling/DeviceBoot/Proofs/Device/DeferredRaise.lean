import Mathlib
import DeviceBoot.Bench.Device
/-!
# A raise while the context is made is reported once

The runtime interface lets making a context answer only a handle, so the interpreter binding keeps
a raise from that step (`MicroPython.newContext`) and hands it back from the next `decode`, which
then loads nothing. Here the interpreter's raises are an `ExceptT` layer over any lawful monad,
and its entry points may do anything there: raise, or answer any value with any effect.

A catching frame turns the outcome of its code into a value and raises nothing itself
(`protect_eq`), and each call the loader makes through the binding has a run equation
(`newContext_run`, `decode_run_of_kept`, `decode_run_of_clear`, `call0_run`). Put together, the
loader through the binding is the direct loader (`MicroPython.directLoad`), where each step runs in
a frame of its own and the first raise ends the load (`loadAndRun_run`); the binding is left with
nothing kept, so every later load is direct as well (`loadAndRun_mapM`).

Claiming the interpreter is a step on the program's globals: in every monad whose state is lawful,
only the first of any number of claims succeeds (`takeTimes_first`).

Main statement: `MicroPython.context_raise_reported_once`.
-/

namespace DeviceBoot

section Frame

variable {n : Type → Type} [Monad n] [LawfulMonad n]

/-- Where raises are an `ExceptT` layer, a catching frame answers the outcome of its code and
raises nothing itself. -/
theorem protect_eq {α : Type} (x : ExceptT Obj n α) : protect x = ExceptT.lift x.run := by
  apply ExceptT.ext
  show (tryCatch _ _ : ExceptT Obj n _).run = _
  rw [ExceptT.run_tryCatch, ExceptT.run_map, bind_map_left, ExceptT.run_lift, map_eq_pure_bind]
  apply bind_congr
  intro r
  cases r <;> rfl

end Frame

namespace MicroPython

/-- The loader's work in a context: the payload loaded to raw code, made a function that runs in
the context with no default arguments. -/
def loadInContext {m : Type → Type} [Monad m] [Interpreter m] (context : Nat) (payload : Bytes) : m Obj := do
  let compiled ← Interpreter.loadRawCode payload ⟨context, Obj.null⟩
  Interpreter.makeFunction compiled.rawCode context Obj.null

section Load

variable {n : Type → Type} [Monad n] [LawfulMonad n] [Interpreter (ExceptT Obj n)]

/-- **The direct loader.** Make the context, load the payload in it and call the program, each in a
frame of its own; the first raise ends the load, as a decode fault while the program is prepared
and as an execute fault while it runs. -/
def directLoad (payload : Bytes) : n (Except (ExecutionFault Obj) Unit) := do
  match ← (makeContext : ExceptT Obj n Obj).run with
  | .error e => pure (.error (.decode e))
  | .ok module =>
    match ← (loadInContext module.handle payload : ExceptT Obj n Obj).run with
    | .error e => pure (.error (.decode e))
    | .ok program =>
      match ← (Interpreter.call0 program : ExceptT Obj n Obj).run with
      | .error e => pure (.error (.execute e))
      | .ok _ => pure (.ok ())

/-- Making a context answers the module's handle; on a raise it answers the null handle and keeps
the raise. -/
theorem newContext_run (rt : MicroPython) :
    ((newContext : StateT MicroPython (ExceptT Obj n) Nat).run rt).run =
      (fun r => match r with
        | .ok module => .ok (module.handle, rt)
        | .error e => .ok (0, { rt with pending := some e })) <$> (makeContext : ExceptT Obj n Obj).run := by
  simp only [newContext, StateT.run_bind, StateT.run_lift, bind_assoc, pure_bind, protect_eq,
    ExceptT.run_bind_lift, map_eq_pure_bind]
  apply bind_congr
  intro r
  cases r <;> simp

/-- A kept raise is the decode's answer: nothing is loaded, and the raise is no longer kept. -/
theorem decode_run_of_kept {rt : MicroPython} {e : Obj} (h : rt.pending = some e) (context : Nat)
    (payload : Bytes) :
    ((decode context payload : StateT MicroPython (ExceptT Obj n) _).run rt).run =
      pure (.ok (.error e, { rt with pending := none })) := by
  simp [decode, h]

/-- With nothing kept, decoding loads the payload in the context it is given. -/
theorem decode_run_of_clear {rt : MicroPython} (h : rt.pending = none) (context : Nat) (payload : Bytes) :
    ((decode context payload : StateT MicroPython (ExceptT Obj n) _).run rt).run =
      (fun r => .ok (r, rt)) <$> (loadInContext context payload : ExceptT Obj n Obj).run := by
  simp only [decode, StateT.run_bind, StateT.run_get]
  rw [pure_bind]
  simp only [h, StateT.run_lift, protect_eq, ExceptT.run_bind_lift, ExceptT.run_pure]
  rw [map_eq_pure_bind]
  rfl

/-- Calling a program answers whether it raised. -/
theorem call0_run (rt : MicroPython) (program : Obj) :
    ((call0 program : StateT MicroPython (ExceptT Obj n) _).run rt).run =
      (fun r => .ok (r.map fun _ => (), rt)) <$> (Interpreter.call0 program : ExceptT Obj n Obj).run := by
  simp only [call0, StateT.run_lift, protect_eq]
  rw [ExceptT.run_bind_lift, ExceptT.run_bind, map_eq_pure_bind, bind_assoc]
  apply bind_congr
  intro r
  cases r <;> simp [Except.map]

/-- **One load through the binding is the direct load.** From a binding with nothing kept, loading
and running an image raises nothing, answers what the direct loader answers for its payload, and
leaves nothing kept. -/
theorem loadAndRun_run (image : ProgramImage) :
    ((loadAndRun image : StateT MicroPython (ExceptT Obj n) _).run {}).run =
      (fun r => .ok (r, {})) <$> directLoad image.payload := by
  simp only [loadAndRun, Runtime.newContext, Runtime.decode, Runtime.call0, StateT.run_bind, ExceptT.run_bind,
    newContext_run, bind_map_left, directLoad, map_bind]
  apply bind_congr
  intro made
  cases made with
  | error e =>
    -- the raise kept while the context was made comes back from decode, which loads nothing
    simp [decode_run_of_kept (rfl : ({ pending := some e } : MicroPython).pending = some e)]
  | ok module =>
    simp only [decode_run_of_clear (rfl : ({} : MicroPython).pending = none), bind_map_left, map_bind]
    apply bind_congr
    intro loaded
    cases loaded with
    | error e => simp
    | ok program =>
      simp only [StateT.run_bind, ExceptT.run_bind]
      rw [call0_run, bind_map_left, map_bind]
      apply bind_congr
      intro ran
      cases ran <;> simp [Except.map]

-- On the bench, told to raise while the globals are fetched: the load is a decode fault, the
-- loader never runs, and nothing is kept.
example : @Eq (Option (Except Obj (Except (ExecutionFault Obj) Unit × MicroPython) × List String))
    (match (((loadAndRun (m := StateT MicroPython DeviceM) ⟨SignatureHeader.standard, [0x4d, 6, 0x70]⟩).run
      {}).run).run { interp := { raiseAt := .globals } } with
    | .ok r b => some (r, b.interp.log)
    | .error _ _ => none)
    (some (.ok (.error (.decode BenchInterpreter.typeError), {}),
      ["qstr_from_str __main__", "mp_obj_new_module qstr=77", "mp_call_function_0 globals"])) := by
  decide

/-- **Every later load is direct too.** Loads one after another through a binding with nothing kept
are the direct loads of their payloads, and the binding is left with nothing kept. The induction
runs over the images. -/
theorem loadAndRun_mapM (images : List ProgramImage) :
    ((images.mapM (loadAndRun (m := StateT MicroPython (ExceptT Obj n)))).run {}).run =
      (fun results => .ok (results, {})) <$> images.mapM fun image => directLoad image.payload := by
  induction images with
  | nil => simp
  | cons image rest ih =>
    simp only [List.mapM_cons, StateT.run_bind, ExceptT.run_bind]
    rw [loadAndRun_run, bind_map_left, map_bind]
    apply bind_congr
    intro r
    dsimp only
    rw [ih, bind_map_left, map_bind]
    apply bind_congr
    intro rs
    simp

end Load

/-- Claim the interpreter `k` times, one claim after another: what each claim answered. -/
def takeTimes {m : Type → Type} [Monad m] [MonadStateOf Globals m] :
    Nat → m (List (Except AlreadyInit MicroPython))
  | 0 => pure []
  | k + 1 => do
    let r ← take
    let rs ← takeTimes k
    pure (r :: rs)

section Claim

variable {m : Type → Type} [Monad m] [MonadStateOf Globals m] [LawfulMonadStateOf Globals m]

/-- A claim from known globals: refused, changing nothing, once the interpreter is claimed, and
otherwise a fresh binding, with the interpreter claimed. -/
theorem set_take_bind (g : Globals) {β : Type} (f : Except AlreadyInit MicroPython → m β) :
    (do set g; let r ← take; f r) =
      if g.runtimeTaken then (do set g; f (.error .alreadyInit))
      else (do set { g with runtimeTaken := true }; f (.ok {})) := by
  simp only [take, monadStateOf_modifyGet_eq_modifyGet, LawfulMonadStateOf.set_bind_modifyGet_bind]
  split <;> rfl

/-- Once the interpreter is claimed, every later claim is refused and changes nothing. -/
theorem takeTimes_of_claimed {g : Globals} (hg : g.runtimeTaken = true) (k : Nat) :
    (do set g; takeTimes k : m _) = (do set g; pure (List.replicate k (.error .alreadyInit))) := by
  induction k with
  | zero => rfl
  | succ k ih =>
    simp only [takeTimes]
    rw [set_take_bind, if_pos hg, ← bind_assoc, ih]
    simp [List.replicate_succ]

/-- **Only the first claim succeeds.** From globals where the interpreter is not claimed, the first
of `k + 1` claims answers a fresh binding and the others `AlreadyInit`; only the claim flag
changes. -/
theorem takeTimes_first {g : Globals} (hg : g.runtimeTaken = false) (k : Nat) :
    (do set g; takeTimes (k + 1) : m _) =
      (do set { g with runtimeTaken := true }; pure (.ok {} :: List.replicate k (.error .alreadyInit))) := by
  simp only [takeTimes]
  rw [set_take_bind, if_neg (by simp [hg]), ← bind_assoc, takeTimes_of_claimed rfl]
  simp

end Claim

/-- **A raise while the context is made is reported once.** Whatever the interpreter's entry points
do, loads one after another through a fresh binding are the direct loads: a raise while the
context is made is that load's decode fault, with nothing loaded, and is not kept for any later
load; otherwise the payload is loaded in the module's own context, a raise while it loads is a
decode fault and one while the program runs an execute fault. And of any number of claims on the
interpreter in a program, only the first succeeds. -/
theorem context_raise_reported_once :
    (∀ {n : Type → Type} [Monad n] [LawfulMonad n] [Interpreter (ExceptT Obj n)] (images : List ProgramImage),
      ((images.mapM (loadAndRun (m := StateT MicroPython (ExceptT Obj n)))).run {}).run =
        (fun results => .ok (results, {})) <$> images.mapM fun image => directLoad image.payload) ∧
    (∀ {m : Type → Type} [Monad m] [MonadStateOf Globals m] [LawfulMonadStateOf Globals m] (g : Globals)
      (k : Nat), g.runtimeTaken = false →
      (do set g; takeTimes (k + 1) : m _) =
        (do set { g with runtimeTaken := true }; pure (.ok {} :: List.replicate k (.error .alreadyInit)))) :=
  ⟨fun images => loadAndRun_mapM images, fun _ k hg => takeTimes_first hg k⟩

/-- On the bench: two loads one after another, and three claims from the globals at power-on. -/
theorem bench_loads_and_claims :
    (([⟨SignatureHeader.standard, [0x4d, 6, 0x70]⟩, ⟨SignatureHeader.standard, [0x4d, 6]⟩].mapM
        (loadAndRun (m := StateT MicroPython DeviceM))).run {}).run =
      (fun results => .ok (results, {})) <$>
        [⟨SignatureHeader.standard, [0x4d, 6, 0x70]⟩, ⟨SignatureHeader.standard, [0x4d, 6]⟩].mapM
          (fun (image : ProgramImage) => directLoad (n := EStateM String DeviceBench) image.payload) ∧
    (do set ({} : Globals); takeTimes 3 : StateM Globals _) =
      (do set ({ runtimeTaken := true } : Globals); pure [.ok {}, .error .alreadyInit, .error .alreadyInit]) :=
  ⟨context_raise_reported_once.1 _, context_raise_reported_once.2 {} 2 rfl⟩

end MicroPython

end DeviceBoot
