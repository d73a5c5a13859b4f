import DeviceBoot.Bench.Board
import DeviceBoot.Proofs.Boot.Transcript
/-!
# The calls a boot makes on its runtime

A boot drives its runtime through `Runtime` alone. To see what it asks, the boot is run on a
runtime that notes every call with its answer before handing the answer back (`Traced`): whatever
the runtime underneath does, the noted list is what the boot asked of it, in order.

* `LoadCalls` says what loading a program asks, without the loader: one fresh context, one decode
  of the payload in that context, and a call of the decoded program exactly when it decoded; and
  which verdict each outcome gives. `Traced.loadAndRun_run` shows the loader asks exactly that.
* `LoggedBoard.lifetime_runtime` follows the runtime through a whole boot: it sees the preparing
  stages' calls (`prepareRuntime`), then the ending's (`Ending.runtimeSteps`), and nothing else.
* `boot_runtime_calls` puts the two together for a boot on a traced runtime, with the stack top
  that the scanner, the runtime and the ready boot share.
-/

namespace DeviceBoot

/-- A call made on a runtime, with the runtime's answer where it gives one. -/
inductive RuntimeCall (π φ : Type) where
  | initStack (top : Nat)
  | initHeap (heap : MemoryRegion)
  | init
  | newContext (context : Nat)
  | decode (context : Nat) (payload : Bytes) (result : Except φ π)
  | call0 (program : π) (result : Except φ Unit)
  | printTraceback (fault : φ)

/-- The calls that load and run a payload, and the verdict they come to: a fresh context, the
payload decoded in it, and the decoded program called exactly when it decoded. A fault is tagged
with the step that raised it. -/
inductive LoadCalls {π φ : Type} (payload : Bytes) :
    List (RuntimeCall π φ) → Except (ExecutionFault φ) Unit → Prop
  /-- The payload did not decode, and nothing is called. -/
  | decodeFailed (context : Nat) (fault : φ) :
      LoadCalls payload [.newContext context, .decode context payload (.error fault)]
        (.error (.decode fault))
  /-- The program decoded and raised. -/
  | callFailed (context : Nat) (program : π) (fault : φ) :
      LoadCalls payload
        [.newContext context, .decode context payload (.ok program), .call0 program (.error fault)]
        (.error (.execute fault))
  /-- The program decoded and ran to its end. -/
  | ran (context : Nat) (program : π) :
      LoadCalls payload
        [.newContext context, .decode context payload (.ok program), .call0 program (.ok ())]
        (.ok ())

/-- The calls after the loader's verdict: the traceback of the fault it carries, if any. -/
def tracebackCalls {π φ : Type} : Except (ExecutionFault φ) Unit → List (RuntimeCall π φ)
  | .ok () => []
  | .error fault => [.printTraceback fault.fault]

/-- What ending a ready boot asks of its runtime: the program loaded and run, and the traceback of
its fault if it failed; nothing when the boot gives up. -/
def Ending.runtimeSteps {m : Type → Type} [Monad m] [Runtime m] : Ending → m Unit
  | .run image => do
    match ← loadAndRun image with
    | .ok () => pure ()
    | .error fault => Runtime.printTraceback fault.fault
  | .abort _ => pure ()

/-- A runtime's state, with the calls made on it so far. -/
structure Traced (ρ : Type) [rt : Runtime (StateM ρ)] where
  runtime : ρ
  calls : List (RuntimeCall rt.Program rt.Fault)

namespace Traced

variable {ρ : Type} [rt : Runtime (StateM ρ)]

/-- Make a call on the runtime underneath and note it with its answer. -/
def note {α : Type} (x : StateM ρ α) (call : α → RuntimeCall rt.Program rt.Fault) :
    StateM (Traced ρ) α :=
  modifyGet fun t =>
    let (a, r) := x.run t.runtime
    (a, ⟨r, t.calls ++ [call a]⟩)

theorem note_run {α : Type} {x : StateM ρ α} {r r' : ρ} {a : α} (h : x.run r = (a, r'))
    (call : α → RuntimeCall rt.Program rt.Fault) (calls : List (RuntimeCall rt.Program rt.Fault)) :
    (note x call).run ⟨r, calls⟩ = (a, ⟨r', calls ++ [call a]⟩) := by
  show (let (a, r) := x.run r; (a, (⟨r, calls ++ [call a]⟩ : Traced ρ))) = _
  rw [h]

/-- The runtime underneath, with every call noted. -/
instance : Runtime (StateM (Traced ρ)) where
  Program := rt.Program
  Fault := rt.Fault
  describe := rt.describe
  initStack top := note (Runtime.initStack top) fun _ => .initStack top
  initHeap heap := note (Runtime.initHeap heap) fun _ => .initHeap heap
  init := note Runtime.init fun _ => .init
  newContext := note Runtime.newContext .newContext
  decode context payload := note (Runtime.decode context payload) (.decode context payload)
  call0 program := note (Runtime.call0 program) (.call0 program)
  printTraceback fault := note (Runtime.printTraceback fault) fun _ => .printTraceback fault

theorem initStack_eq (top : Nat) :
    (Runtime.initStack top : StateM (Traced ρ) Unit) =
      note (Runtime.initStack top) fun _ => .initStack top := rfl

theorem initHeap_eq (heap : MemoryRegion) :
    (Runtime.initHeap heap : StateM (Traced ρ) Unit) =
      note (Runtime.initHeap heap) fun _ => .initHeap heap := rfl

theorem init_eq :
    (Runtime.init : StateM (Traced ρ) Unit) = note Runtime.init fun _ => .init :=
  rfl

theorem newContext_eq :
    (Runtime.newContext : StateM (Traced ρ) Nat) =
      note Runtime.newContext .newContext := rfl

theorem decode_eq (context : Nat) (payload : Bytes) :
    (Runtime.decode context payload : StateM (Traced ρ) _) =
      note (Runtime.decode context payload) (.decode context payload) := rfl

theorem call0_eq (program : rt.Program) :
    (Runtime.call0 program : StateM (Traced ρ) _) =
      note (Runtime.call0 program) (.call0 program) := rfl

theorem printTraceback_eq (fault : rt.Fault) :
    (Runtime.printTraceback fault : StateM (Traced ρ) Unit) =
      note (Runtime.printTraceback fault) fun _ => .printTraceback fault := rfl

/-- Preparing a traced runtime prepares the runtime underneath and notes the three calls. -/
theorem prepareRuntime_run (layout : MemoryLayout) (r : ρ)
    (calls : List (RuntimeCall rt.Program rt.Fault)) :
    (prepareRuntime layout : StateM (Traced ρ) Unit).run ⟨r, calls⟩ =
      ((), ⟨readyRuntime layout r,
        calls ++ [RuntimeCall.initStack layout.stack.end, .initHeap layout.heap, .init]⟩) := by
  rcases h₁ : (Runtime.initStack layout.stack.end : StateM ρ Unit).run r with ⟨⟨⟩, r₁⟩
  rcases h₂ : (Runtime.initHeap layout.heap : StateM ρ Unit).run r₁ with ⟨⟨⟩, r₂⟩
  rcases h₃ : (Runtime.init : StateM ρ Unit).run r₂ with ⟨⟨⟩, r₃⟩
  have hready : readyRuntime layout r = r₃ := by
    unfold readyRuntime prepareRuntime
    rw [LoggedBoard.run_bind_of_run h₁, LoggedBoard.run_bind_of_run h₂, h₃]
  unfold prepareRuntime
  rw [initStack_eq, initHeap_eq, init_eq, LoggedBoard.run_bind_of_run (note_run h₁ _ _),
    LoggedBoard.run_bind_of_run (note_run h₂ _ _), note_run h₃, hready]
  simp

/-- **The loader's calls.** On a traced runtime the loader makes the calls that `LoadCalls` allows
and comes to the verdict they give; underneath, it is the plain loader. -/
theorem loadAndRun_run (image : ProgramImage) (r : ρ)
    (calls : List (RuntimeCall rt.Program rt.Fault)) :
    ∃ made verdict r', LoadCalls image.payload made verdict ∧
      (loadAndRun image : StateM ρ _).run r = (verdict, r') ∧
      (loadAndRun image : StateM (Traced ρ) _).run ⟨r, calls⟩ =
        (verdict, ⟨r', calls ++ made⟩) := by
  unfold loadAndRun
  rcases hc : (Runtime.newContext : StateM ρ Nat).run r with ⟨context, r₁⟩
  rcases hd : (Runtime.decode context image.payload : StateM ρ _).run r₁ with ⟨decoded, r₂⟩
  rw [newContext_eq, LoggedBoard.run_bind_of_run hc, LoggedBoard.run_bind_of_run (note_run hc _ _),
    decode_eq, LoggedBoard.run_bind_of_run hd, LoggedBoard.run_bind_of_run (note_run hd _ _)]
  -- the program is called exactly when the payload decoded
  cases decoded with
  | error fault => exact ⟨_, _, _, .decodeFailed context fault, rfl, by simp; rfl⟩
  | ok program =>
    rcases he : (Runtime.call0 program : StateM ρ _).run r₂ with ⟨result, r₃⟩
    dsimp only
    rw [call0_eq, LoggedBoard.run_bind_of_run he, LoggedBoard.run_bind_of_run (note_run he _ _)]
    cases result with
    | error fault => exact ⟨_, _, _, .callFailed context program fault, rfl, by simp; rfl⟩
    | ok u => exact ⟨_, _, _, .ran context program, rfl, by simp; rfl⟩

/-- Running an image on a traced runtime: the loader's calls, then the traceback of its verdict's
fault, if any. -/
theorem runtimeSteps_run (image : ProgramImage) (r : ρ)
    (calls : List (RuntimeCall rt.Program rt.Fault)) :
    ∃ made verdict, LoadCalls image.payload made verdict ∧
      ((loadAndRun image : StateM (Traced ρ) _).run ⟨r, calls⟩).1 = verdict ∧
      (((Ending.run image).runtimeSteps : StateM (Traced ρ) Unit).run
        ⟨r, calls⟩).2.calls = calls ++ made ++ tracebackCalls verdict := by
  obtain ⟨made, verdict, r', hload, -, htraced⟩ := loadAndRun_run image r calls
  refine ⟨made, verdict, hload, by rw [htraced], ?_⟩
  unfold Ending.runtimeSteps
  rw [LoggedBoard.run_bind_of_run htraced]
  cases verdict with
  | ok u => simp [tracebackCalls]; rfl
  | error fault =>
    rcases hp : (Runtime.printTraceback fault.fault : StateM ρ Unit).run r' with ⟨⟨⟩, r''⟩
    dsimp only
    rw [printTraceback_eq (ρ := ρ) fault.fault, note_run hp]
    simp [tracebackCalls]

end Traced

/-- A boot starts from the layout and configuration it was given, with no stack top yet. -/
theorem Boot.eq_of_reset {layout : MemoryLayout} {config : BootConfig} {b : Boot .reset}
    (h : Boot.reset layout config = .ok b) : b = ⟨layout, config, 0⟩ := by
  unfold Boot.reset at h
  cases hv : layout.validate with
  | error e => rw [hv] at h; cases h
  | ok u => rw [hv] at h; exact (Except.ok.inj h).symm

/-- A boot that runs an image halts normally exactly when the loader's verdict is clean. -/
theorem haltPhase_run_eq_haltedNormal {ρ : Type} [Runtime (StateM ρ)] (image : ProgramImage)
    (r : ρ) :
    haltPhase ((Ending.run image).fault r) = .haltedNormal ↔
      ((loadAndRun image : StateM ρ _).run r).1 = .ok () := by
  cases h : ((loadAndRun image : StateM ρ _).run r).1 with
  | error f => simp [Ending.fault, h, haltPhase]
  | ok u => simp [Ending.fault, h, haltPhase]

namespace LoggedBoard

variable {ρ : Type}

/-- The stacked boot holds the stack region's end as its stack top. -/
theorem establishStack_stackTop (b : Boot .reset) (s : LoggedBoard ρ) :
    ((b.zeroStatic >>= Boot.establishStack : StateM (LoggedBoard ρ) (Boot .stacked)).run s).1 =
      ⟨b.layout, b.config, b.layout.stack.end⟩ := by
  obtain ⟨_, _, h₁⟩ := zeroStatic_run (ρ := ρ) b
  obtain ⟨_, _, h₂⟩ := establishStack_run (ρ := ρ) (⟨b.layout, b.config, b.stackTop⟩ : Boot .zeroed)
  rw [run_bind_of_run (h₁ s.log s.runtime), h₂]

/-- Giving up makes no call on the runtime. -/
theorem abort_runtime (b : Boot .ready) (reason : String) (s : LoggedBoard ρ) :
    ((b.abort reason : StateM (LoggedBoard ρ) Halted).run s).2.runtime = s.runtime := by
  obtain ⟨_, _, hrun⟩ := abort_run (ρ := ρ) b reason
  rw [hrun s.log s.runtime]

variable [Runtime (StateM ρ)]

/-- Handing the heap over and initialising the runtime keep the stack top. -/
theorem initRuntime_stackTop (b : Boot .stacked) (s : LoggedBoard ρ) :
    ((b.initHeap >>= Boot.initRuntime : StateM (LoggedBoard ρ) (Boot .ready)).run s).1 =
      ⟨b.layout, b.config, b.stackTop⟩ := by
  obtain ⟨_, _, h₃⟩ := initHeap_run (ρ := ρ) b
  obtain ⟨_, _, h₄⟩ := initRuntime_run (ρ := ρ) (⟨b.layout, b.config, b.stackTop⟩ : Boot .heapReady)
  rw [run_bind_of_run (h₃ s.log s.runtime), h₄]

/-- **What a ready boot's ending does to its runtime**: what `Ending.runtimeSteps` asks of it; the
reports around it leave the runtime alone. -/
theorem conclude_runtime (b : Boot .ready) (e : Ending) (L : List GateEvent) (r : ρ) :
    ((b.conclude e : StateM (LoggedBoard ρ) Halted).run ⟨L, r⟩).2.runtime =
      ((e.runtimeSteps : StateM ρ Unit).run r).2 := by
  cases e with
  | abort reason =>
    obtain ⟨_, _, hrun⟩ := abort_run (ρ := ρ) b reason
    rw [Boot.conclude, hrun L r]
    rfl
  | run image =>
    have hload := onRuntime_run (loadAndRun image : StateM ρ _) L r
    rcases hres : (loadAndRun image : StateM ρ _).run r with ⟨result, r₁⟩
    rw [hres] at hload
    rw [Boot.conclude, Boot.runEntryProgram, loadAndRun_eq, run_bind_of_run hload,
      Ending.runtimeSteps, run_bind_of_run hres]
    cases result with
    | ok u => rfl
    | error f =>
      -- the traceback is the runtime's; the report after it is the gate's
      obtain ⟨_, _, hrun⟩ := report_run (ρ := ρ) b.config (f.message Runtime.describe)
      dsimp only
      rw [printTraceback_eq, run_bind_of_run (onRuntime_run _ L r₁)]
      have hreport := run_bind_of_run
        (f := fun _ => (pure ⟨b.config, .haltedError⟩ : StateM (LoggedBoard ρ) Halted))
        (hrun L ((Runtime.printTraceback f.fault : StateM ρ Unit).run r₁).2)
      exact congrArg (fun p => p.2.runtime) hreport

/-- **The runtime through a whole boot.** It is prepared as `prepareRuntime` says, then sees the
ending's calls and nothing else; the phase is the one the ending's report gives. -/
theorem lifetime_runtime (b : Boot .reset) (e : Ending) (k : Nat) (L : List GateEvent) (r : ρ) :
    ((b.lifetime e k : StateM (LoggedBoard ρ) Halted).run ⟨L, r⟩).1.phase =
        haltPhase (e.fault (readyRuntime b.layout r)) ∧
      ((b.lifetime e k : StateM (LoggedBoard ρ) Halted).run ⟨L, r⟩).2.runtime =
        ((e.runtimeSteps : StateM ρ Unit).run (readyRuntime b.layout r)).2 := by
  let ready : Boot .ready := ⟨b.layout, b.config, b.layout.stack.end⟩
  obtain ⟨es₁, -, h₁⟩ := zeroStatic_run (ρ := ρ) b
  obtain ⟨es₂, -, h₂⟩ :=
    establishStack_run (ρ := ρ) (⟨b.layout, b.config, b.stackTop⟩ : Boot .zeroed)
  obtain ⟨es₃, -, h₃⟩ :=
    initHeap_run (ρ := ρ) (⟨b.layout, b.config, b.layout.stack.end⟩ : Boot .stacked)
  obtain ⟨es₄, -, h₄⟩ :=
    initRuntime_run (ρ := ρ) (⟨b.layout, b.config, b.layout.stack.end⟩ : Boot .heapReady)
  obtain ⟨es₅, r₅, -, h₅⟩ :=
    conclude_run ready e (L ++ es₁ ++ es₂ ++ es₃ ++ es₄) (readyRuntime b.layout r)
  -- the runtime the ending leaves is the one `Ending.runtimeSteps` gives
  have hr₅ : r₅ = ((e.runtimeSteps : StateM ρ Unit).run (readyRuntime b.layout r)).2 := by
    rw [← conclude_runtime ready e (L ++ es₁ ++ es₂ ++ es₃ ++ es₄), h₅]
  obtain ⟨es₆, -, h₆⟩ :=
    shutdown_run (ρ := ρ) ⟨b.config, haltPhase (e.fault (readyRuntime b.layout r))⟩
  have hrun : (b.lifetime e k : StateM (LoggedBoard ρ) Halted).run ⟨L, r⟩ =
      (⟨b.config, haltPhase (e.fault (readyRuntime b.layout r))⟩,
        ⟨L ++ es₁ ++ es₂ ++ es₃ ++ es₄ ++ es₅ ++ es₆ ++ [.exit] ++ List.replicate k .tick,
          r₅⟩) := by
    unfold Boot.lifetime
    rw [run_bind_of_run (h₁ L r), run_bind_of_run (h₂ _ r), run_bind_of_run (h₃ _ r),
      run_bind_of_run (h₄ _ _)]
    refine (run_bind_of_run h₅).trans ?_
    rw [run_bind_of_run (h₆ _ _), run_bind_of_run (idle_run k _ _)]
    rfl
  rw [hrun, hr₅]
  exact ⟨rfl, rfl⟩

end LoggedBoard

/-- **The runtime calls of a boot.** Take a layout that `Boot.reset` accepts and any runtime,
traced, on a board whose gate takes every write.

* The stacked boot records the stack region's end as the stack top; its root scanner and the
  ready boot keep that top, which is the one the runtime is told.
* On any state, the loader makes the calls `LoadCalls` allows and returns the verdict they give.
* A boot that runs an image tells the runtime its stack top, gives it the heap and initialises
  it, each once and before anything else; then come the loader's calls, and the traceback of the
  verdict's fault exactly when there is one. It halts normally exactly when the verdict is clean.
* A boot that gives up asks nothing after preparing the runtime: giving up makes no call. -/
theorem boot_runtime_calls {ρ : Type} [rt : Runtime (StateM ρ)] {layout : MemoryLayout}
    {config : BootConfig} {b : Boot .reset} (hreset : Boot.reset layout config = .ok b)
    (L : List GateEvent) (r : ρ) (T : List (RuntimeCall rt.Program rt.Fault)) :
    (∀ s : LoggedBoard (Traced ρ),
      let stacked := ((b.zeroStatic >>= Boot.establishStack :
        StateM (LoggedBoard (Traced ρ)) (Boot .stacked)).run s).1
      stacked.stackTop = layout.stack.end ∧ stacked.rootScanner.stackTop = layout.stack.end ∧
        ∀ s' : LoggedBoard (Traced ρ),
          ((stacked.initHeap >>= Boot.initRuntime :
            StateM (LoggedBoard (Traced ρ)) (Boot .ready)).run s').1.stackTop =
            layout.stack.end) ∧
    (∀ (image : ProgramImage) (t : Traced ρ), ∃ made,
      LoadCalls image.payload made
        ((loadAndRun image : StateM (Traced ρ) _).run t).1 ∧
      ((loadAndRun image : StateM (Traced ρ) _).run t).2.calls =
        t.calls ++ made) ∧
    (∀ (image : ProgramImage) (k : Nat), ∃ made verdict, LoadCalls image.payload made verdict ∧
      ((b.lifetime (.run image) k : StateM (LoggedBoard (Traced ρ)) Halted).run
          ⟨L, ⟨r, T⟩⟩).2.runtime.calls =
        T ++ [RuntimeCall.initStack layout.stack.end, .initHeap layout.heap, .init] ++ made ++
          tracebackCalls verdict ∧
      (((b.lifetime (.run image) k :
          StateM (LoggedBoard (Traced ρ)) Halted).run ⟨L, ⟨r, T⟩⟩).1.phase =
          .haltedNormal ↔ verdict = .ok ())) ∧
    (∀ (reason : String) (k : Nat),
      ((b.lifetime (.abort reason) k :
          StateM (LoggedBoard (Traced ρ)) Halted).run ⟨L, ⟨r, T⟩⟩).2.runtime.calls =
        T ++ [RuntimeCall.initStack layout.stack.end, .initHeap layout.heap, .init]) ∧
    ∀ (ready : Boot .ready) (reason : String) (s : LoggedBoard (Traced ρ)),
      ((ready.abort reason : StateM (LoggedBoard (Traced ρ)) Halted).run
        s).2.runtime = s.runtime := by
  obtain rfl := Boot.eq_of_reset hreset
  -- the runtime as the loader finds it: prepared, with the three preparing calls noted
  have hready : readyRuntime layout (⟨r, T⟩ : Traced ρ) =
      ⟨readyRuntime layout r,
        T ++ [RuntimeCall.initStack layout.stack.end, .initHeap layout.heap, .init]⟩ :=
    congrArg Prod.snd (Traced.prepareRuntime_run layout r T)
  refine ⟨fun s => ?stack, fun image t => ?load, fun image k => ?run, fun reason k => ?abort,
    fun ready reason s => LoggedBoard.abort_runtime ready reason s⟩
  case stack =>
    dsimp only
    rw [LoggedBoard.establishStack_stackTop]
    exact ⟨rfl, rfl, fun s' => by rw [LoggedBoard.initRuntime_stackTop]⟩
  case load =>
    obtain ⟨made, verdict, r', hload, -, htraced⟩ := Traced.loadAndRun_run image t.runtime t.calls
    refine ⟨made, ?_⟩
    rw [htraced]
    exact ⟨hload, rfl⟩
  case run =>
    obtain ⟨hphase, hruntime⟩ := LoggedBoard.lifetime_runtime (⟨layout, config, 0⟩ : Boot .reset)
      (.run image) k L (⟨r, T⟩ : Traced ρ)
    obtain ⟨made, verdict, hload, hverdict, hcalls⟩ := Traced.runtimeSteps_run image
      (readyRuntime layout r)
      (T ++ [RuntimeCall.initStack layout.stack.end, .initHeap layout.heap, .init])
    refine ⟨made, verdict, hload, ?_, ?_⟩
    · rw [hruntime, hready, hcalls]
    · rw [hphase, haltPhase_run_eq_haltedNormal, hready, hverdict]
  case abort =>
    obtain ⟨-, hruntime⟩ := LoggedBoard.lifetime_runtime (⟨layout, config, 0⟩ : Boot .reset)
      (.abort reason) k L (⟨r, T⟩ : Traced ρ)
    rw [hruntime, hready]
    rfl

/-- The bench's runtime, traced, on a layout that validates: a boot that gives up has made the
three preparing calls and nothing else. -/
theorem bench_boot_gives_up_after_preparing :
    Boot.reset ⟨⟨0, 64, .zeroInit⟩, ⟨64, 128, .stack⟩, ⟨128, 256, .heap⟩⟩ {} =
        .ok ⟨⟨⟨0, 64, .zeroInit⟩, ⟨64, 128, .stack⟩, ⟨128, 256, .heap⟩⟩, {}, 0⟩ ∧
      ((Boot.lifetime ⟨⟨⟨0, 64, .zeroInit⟩, ⟨64, 128, .stack⟩, ⟨128, 256, .heap⟩⟩, {}, 0⟩
          (.abort "no image") 0 :
          StateM (LoggedBoard (Traced (BenchBoard RecordingGate))) Halted).run
          ⟨[], ⟨{ gate := {}, memory := [] }, []⟩⟩).2.runtime.calls =
        [.initStack 128, .initHeap ⟨128, 256, .heap⟩, .init] := by
  have hreset : Boot.reset ⟨⟨0, 64, .zeroInit⟩, ⟨64, 128, .stack⟩, ⟨128, 256, .heap⟩⟩ {} =
      .ok ⟨⟨⟨0, 64, .zeroInit⟩, ⟨64, 128, .stack⟩, ⟨128, 256, .heap⟩⟩, {}, 0⟩ := rfl
  exact ⟨hreset, (boot_runtime_calls (ρ := BenchBoard RecordingGate) hreset []
    { gate := {}, memory := [] } []).2.2.2.1 "no image" 0⟩

end DeviceBoot
