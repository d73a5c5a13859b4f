import DeviceBoot.Proofs.Boot.LoggedBoard
import DeviceBoot.Proofs.Text.Utf8
/-!
# What a boot prints, from reset to idling

`Boot.lifetime` takes a boot through all its stages: the four preparing stages, its ending (the
program run, or the boot given up with a reason), the exit request and `k` idle steps. On a board
whose gate takes every write (`LoggedBoard`), `lifetime_log` gives the gate's whole log: writes on
the standard channel that carry `bootTranscript`, one exit request, then only ticks. The runtime
enters the log and the phase only through `Ending.fault`, what the program's run reports, read off
the runtime alone in the state the boot prepared (`readyRuntime`).

Each stage has its lemma, from `zeroStatic_run` to `shutdown_run`: what it adds to the log, the
same whatever the board's state, and what it leaves of the runtime. `lifetime_log` chains them.
-/

namespace DeviceBoot

/-- How a ready boot ends: it runs an image, or gives up with a reason. -/
inductive Ending where
  | run (image : ProgramImage)
  | abort (reason : String)

section

variable {m : Type → Type} [Monad m] [Board m] [Runtime m]

/-- End a ready boot as `e` says. -/
def Boot.conclude (b : Boot .ready) : Ending → m Halted
  | .run image => b.runEntryProgram image
  | .abort reason => b.abort reason

/-- A boot's life from reset: the four preparing stages, its ending, the exit request, then `k`
idle steps. -/
def Boot.lifetime (b : Boot .reset) (e : Ending) (k : Nat) : m Halted := do
  let b ← b.zeroStatic
  let b ← b.establishStack
  let b ← b.initHeap
  let b ← b.initRuntime
  let h ← b.conclude e
  h.shutdown
  idle k
  pure h

/-- The runtime's part of preparing a boot: it is told the stack top, given the heap and
initialised. -/
def prepareRuntime (layout : MemoryLayout) : m Unit := do
  Runtime.initStack layout.stack.end
  Runtime.initHeap layout.heap
  Runtime.init

end

variable {ρ : Type}

/-- The runtime's state when the program is loaded, from its state `r` at reset. -/
def readyRuntime [Runtime (StateM ρ)] (layout : MemoryLayout) (r : ρ) : ρ :=
  ((prepareRuntime layout : StateM ρ Unit).run r).2

/-- What an ending reports as the cause of halting, with the runtime in state `r`: nothing after
a clean run, the fault's text after a failed one, the reason when the boot gives up. -/
def Ending.fault [rt : Runtime (StateM ρ)] (r : ρ) : Ending → Option String
  | .run image =>
    match ((loadAndRun image : StateM ρ _).run r).1 with
    | .ok () => none
    | .error f => some (f.message rt.describe)
  | .abort reason => some reason

/-- The phase a boot halts in: normally when nothing is reported, with an error otherwise. -/
def haltPhase : Option String → BootPhase
  | none => .haltedNormal
  | some _ => .haltedError

/-- The line reporting why a boot halted, if anything is reported. -/
def haltedLine : Option String → String
  | none => ""
  | some reason => "[BOOT] program halted: " ++ reason ++ "\n"

@[simp] theorem haltedLine_none : haltedLine none = "" := rfl

@[simp] theorem haltedLine_some (reason : String) :
    haltedLine (some reason) = "[BOOT] program halted: " ++ reason ++ "\n" := rfl

/-- What a boot prints on its standard channel when nothing else writes: the four progress lines
and the exit line when verbose, and between them the report of what halted it, if anything. -/
def bootTranscript (verbose : Bool) (fault : Option String) : String :=
  (if verbose then
    "[BOOT] Zeroing static storage... OK\n" ++ "[BOOT] Recording stack top... OK\n" ++
      "[BOOT] Handing heap to runtime... OK\n" ++ "[BOOT] Initializing runtime... OK\n"
  else "") ++
  haltedLine fault ++
  (if verbose then "[BOOT] " ++ (haltPhase fault).name ++ ", requesting exit\n" else "")

namespace LoggedBoard

/-- The text a step reports: its progress line when verbose, nothing otherwise. -/
def progressText (config : BootConfig) (step : String) : String :=
  if config.verbose then "[BOOT] " ++ step ++ "... OK\n" else ""

theorem progress_run (config : BootConfig) (step : String) :
    ∃ es, Carries config.stdioChannel es (progressText config step).toUTF8.toList ∧
      ∀ (L : List GateEvent) (r : ρ),
        (config.progress step : StateM (LoggedBoard ρ) Unit).run ⟨L, r⟩ =
          ((), ⟨L ++ es, r⟩) := by
  unfold BootConfig.progress progressText
  cases config.verbose with
  | false => exact ⟨[], by simpa using carries_nil config.stdioChannel, fun L r => by simp; rfl⟩
  | true => exact emit_run _ _

theorem zeroStatic_run (b : Boot .reset) :
    ∃ es, Carries b.config.stdioChannel es
        (progressText b.config "Zeroing static storage").toUTF8.toList ∧
      ∀ (L : List GateEvent) (r : ρ), (b.zeroStatic : StateM (LoggedBoard ρ) _).run ⟨L, r⟩ =
        (⟨b.layout, b.config, b.stackTop⟩, ⟨L ++ es, r⟩) := by
  obtain ⟨es, hc, hrun⟩ := progress_run (ρ := ρ) b.config "Zeroing static storage"
  refine ⟨es, hc, fun L r => ?_⟩
  unfold Boot.zeroStatic
  rw [run_bind_of_run (zeroRegion_run _ _), run_bind_of_run (hrun L r)]
  rfl

theorem establishStack_run (b : Boot .zeroed) :
    ∃ es, Carries b.config.stdioChannel es
        (progressText b.config "Recording stack top").toUTF8.toList ∧
      ∀ (L : List GateEvent) (r : ρ), (b.establishStack : StateM (LoggedBoard ρ) _).run ⟨L, r⟩ =
        (⟨b.layout, b.config, b.layout.stack.end⟩, ⟨L ++ es, r⟩) := by
  obtain ⟨es, hc, hrun⟩ := progress_run (ρ := ρ) b.config "Recording stack top"
  refine ⟨es, hc, fun L r => ?_⟩
  unfold Boot.establishStack
  rw [run_bind_of_run (hrun L r)]
  rfl

theorem report_run (config : BootConfig) (reason : String) :
    ∃ es, Carries config.stdioChannel es (haltedLine (some reason)).toUTF8.toList ∧
      ∀ (L : List GateEvent) (r : ρ),
        (config.report reason : StateM (LoggedBoard ρ) Unit).run ⟨L, r⟩ =
          ((), ⟨L ++ es, r⟩) := by
  obtain ⟨es, hc, hrun⟩ :=
    emit_run (ρ := ρ) config.stdioChannel s!"[BOOT] program halted: {reason}\n"
  refine ⟨es, hc, fun L r => ?_⟩
  unfold BootConfig.report
  rw [run_bind_of_run (flushSharedConsole_run _)]
  exact hrun L r

theorem shutdown_run (h : Halted) :
    ∃ es, Carries h.config.stdioChannel es
        (if h.config.verbose then "[BOOT] " ++ h.phase.name ++ ", requesting exit\n"
          else "").toUTF8.toList ∧
      ∀ (L : List GateEvent) (r : ρ),
        (h.shutdown : StateM (LoggedBoard ρ) Unit).run ⟨L, r⟩ =
          ((), ⟨L ++ es ++ [.exit], r⟩) := by
  unfold Halted.shutdown
  cases hv : h.config.verbose with
  | false =>
    refine ⟨[], by simpa using carries_nil h.config.stdioChannel, fun L r => ?_⟩
    rw [run_bind_of_run (flushSharedConsole_run _)]
    simp only [Bool.false_eq_true, ↓reduceIte]
    rw [exit_run, List.append_nil]
  | true =>
    obtain ⟨es, hc, hrun⟩ :=
      emit_run (ρ := ρ) h.config.stdioChannel s!"[BOOT] {h.phase.name}, requesting exit\n"
    refine ⟨es, by rw [if_pos rfl]; exact hc, fun L r => ?_⟩
    rw [run_bind_of_run (flushSharedConsole_run _)]
    simp only [↓reduceIte]
    rw [run_bind_of_run (hrun L r), exit_run]

/-- Giving up: the reason is reported and the boot halts with an error. -/
theorem abort_run (b : Boot .ready) (reason : String) :
    ∃ es, Carries b.config.stdioChannel es (haltedLine (some reason)).toUTF8.toList ∧
      ∀ (L : List GateEvent) (r : ρ),
        (b.abort reason : StateM (LoggedBoard ρ) Halted).run ⟨L, r⟩ =
          (⟨b.config, .haltedError⟩, ⟨L ++ es, r⟩) := by
  obtain ⟨es, hc, hrun⟩ := report_run (ρ := ρ) b.config reason
  refine ⟨es, hc, fun L r => ?_⟩
  unfold Boot.abort
  rw [run_bind_of_run (hrun L r)]
  rfl

/-- Idling only ticks. -/
theorem idle_run (k : Nat) (L : List GateEvent) (r : ρ) :
    (idle k : StateM (LoggedBoard ρ) Unit).run ⟨L, r⟩ =
      ((), ⟨L ++ List.replicate k .tick, r⟩) := by
  induction k generalizing L with
  | zero => simp [idle]; rfl
  | succ k ih =>
    simp only [idle, idleStep, List.forM_eq_forM] at ih ⊢
    rw [List.replicate_succ, List.forM_cons, run_bind_of_run (tick_run L r), ih, List.replicate_succ,
      List.append_assoc, List.singleton_append]

/-- The texts of the stages, one after another, are the transcript. -/
theorem stage_texts_eq (config : BootConfig) (fault : Option String) :
    (progressText config "Zeroing static storage").toUTF8.toList ++
        (progressText config "Recording stack top").toUTF8.toList ++
        (progressText config "Handing heap to runtime").toUTF8.toList ++
        (progressText config "Initializing runtime").toUTF8.toList ++
        (haltedLine fault).toUTF8.toList ++
        (if config.verbose then "[BOOT] " ++ (haltPhase fault).name ++ ", requesting exit\n"
          else "").toUTF8.toList =
      (bootTranscript config.verbose fault).toUTF8.toList := by
  have htext : progressText config "Zeroing static storage" ++
      progressText config "Recording stack top" ++ progressText config "Handing heap to runtime" ++
      progressText config "Initializing runtime" ++
      haltedLine fault ++
      (if config.verbose then "[BOOT] " ++ (haltPhase fault).name ++ ", requesting exit\n" else "") =
      bootTranscript config.verbose fault := by
    cases hv : config.verbose with
    | false =>
      simp only [progressText, bootTranscript, hv]
      simp
    | true => simp only [progressText, bootTranscript, hv, ↓reduceIte, String.reduceAppend]
  rw [← htext, toUTF8_toList_append, toUTF8_toList_append, toUTF8_toList_append,
    toUTF8_toList_append, toUTF8_toList_append]

variable [Runtime (StateM ρ)]

theorem initHeap_run (b : Boot .stacked) :
    ∃ es, Carries b.config.stdioChannel es
        (progressText b.config "Handing heap to runtime").toUTF8.toList ∧
      ∀ (L : List GateEvent) (r : ρ), (b.initHeap : StateM (LoggedBoard ρ) _).run ⟨L, r⟩ =
        (⟨b.layout, b.config, b.stackTop⟩,
          ⟨L ++ es, ((do Runtime.initStack b.stackTop; Runtime.initHeap b.layout.heap :
            StateM ρ Unit).run r).2⟩) := by
  obtain ⟨es, hc, hrun⟩ := progress_run (ρ := ρ) b.config "Handing heap to runtime"
  refine ⟨es, hc, fun L r => ?_⟩
  unfold Boot.initHeap
  rw [initStack_eq, initHeap_eq, run_bind_of_run (onRuntime_run _ L r),
    run_bind_of_run (onRuntime_run _ L _), run_bind_of_run (hrun L _)]
  rfl

theorem initRuntime_run (b : Boot .heapReady) :
    ∃ es, Carries b.config.stdioChannel es
        (progressText b.config "Initializing runtime").toUTF8.toList ∧
      ∀ (L : List GateEvent) (r : ρ), (b.initRuntime : StateM (LoggedBoard ρ) _).run ⟨L, r⟩ =
        (⟨b.layout, b.config, b.stackTop⟩,
          ⟨L ++ es, ((Runtime.init : StateM ρ Unit).run r).2⟩) := by
  obtain ⟨es, hc, hrun⟩ := progress_run (ρ := ρ) b.config "Initializing runtime"
  refine ⟨es, hc, fun L r => ?_⟩
  unfold Boot.initRuntime
  rw [init_eq, run_bind_of_run (onRuntime_run _ L r), run_bind_of_run (hrun L _)]
  rfl

/-- Running the program: the runtime's verdict decides the phase, and the report of its fault, if
it failed, is all the gate sees. -/
theorem runEntryProgram_run (b : Boot .ready) (image : ProgramImage) (L : List GateEvent) (r : ρ) :
    ∃ es r', Carries b.config.stdioChannel es
        (haltedLine ((Ending.run image).fault r)).toUTF8.toList ∧
      (b.runEntryProgram image : StateM (LoggedBoard ρ) Halted).run ⟨L, r⟩ =
        (⟨b.config, haltPhase ((Ending.run image).fault r)⟩, ⟨L ++ es, r'⟩) := by
  -- the verdict is the runtime's alone
  have hload := onRuntime_run (loadAndRun image : StateM ρ _) L r
  rcases hres : (loadAndRun image : StateM ρ _).run r with ⟨result, r₁⟩
  rw [hres] at hload
  cases result with
  | ok u =>
    have hfault : (Ending.run image).fault r = none := by simp [Ending.fault, hres]
    refine ⟨[], r₁, ?_, ?_⟩
    · rw [hfault]
      simpa using carries_nil b.config.stdioChannel
    · rw [Boot.runEntryProgram, loadAndRun_eq, run_bind_of_run hload, hfault, List.append_nil]
      rfl
  | error f =>
    have hfault : (Ending.run image).fault r = some (f.message Runtime.describe) := by
      simp [Ending.fault, hres]
    -- a failed program leaves a traceback in the runtime, then the fault is reported
    obtain ⟨es, hc, hrun⟩ := report_run (ρ := ρ) b.config (f.message Runtime.describe)
    refine ⟨es, ((Runtime.printTraceback f.fault : StateM ρ Unit).run r₁).2, by rwa [hfault],
      ?_⟩
    rw [Boot.runEntryProgram, loadAndRun_eq, run_bind_of_run hload, hfault]
    dsimp only
    rw [printTraceback_eq, run_bind_of_run (onRuntime_run _ L r₁)]
    exact (run_bind_of_run (hrun L _)).trans rfl

/-- **How a ready boot ends on the board**: what the ending reports decides the phase, and its
report is all the gate sees. -/
theorem conclude_run (b : Boot .ready) (e : Ending) (L : List GateEvent) (r : ρ) :
    ∃ es r', Carries b.config.stdioChannel es (haltedLine (e.fault r)).toUTF8.toList ∧
      (b.conclude e : StateM (LoggedBoard ρ) Halted).run ⟨L, r⟩ =
        (⟨b.config, haltPhase (e.fault r)⟩, ⟨L ++ es, r'⟩) := by
  cases e with
  | run image =>
    rw [Boot.conclude]
    exact runEntryProgram_run b image L r
  | abort reason =>
    obtain ⟨es, hc, hrun⟩ := abort_run (ρ := ρ) b reason
    rw [Boot.conclude]
    exact ⟨es, r, hc, hrun L r⟩

/-- **The log of a boot's whole life** on a board whose gate takes every write. Before the exit
request the gate sees only writes on the standard channel, and they carry the transcript: the
progress lines and the exit line when verbose, and between them the report of what halted the
program, exactly when something did. Then comes one exit request and `k` ticks. The boot halts
normally exactly when nothing is reported, that is when the program ran to its end. -/
theorem lifetime_log (b : Boot .reset) (e : Ending) (k : Nat) (L : List GateEvent) (r : ρ) :
    ((b.lifetime e k : StateM (LoggedBoard ρ) Halted).run ⟨L, r⟩).1 =
        ⟨b.config, haltPhase (e.fault (readyRuntime b.layout r))⟩ ∧
      ∃ es, Carries b.config.stdioChannel es
          (bootTranscript b.config.verbose (e.fault (readyRuntime b.layout r))).toUTF8.toList ∧
        ((b.lifetime e k : StateM (LoggedBoard ρ) Halted).run ⟨L, r⟩).2.log =
          L ++ es ++ [.exit] ++ List.replicate k .tick := by
  -- what each stage adds to the log
  obtain ⟨es₁, hc₁, h₁⟩ := zeroStatic_run (ρ := ρ) b
  obtain ⟨es₂, hc₂, h₂⟩ :=
    establishStack_run (ρ := ρ) (⟨b.layout, b.config, b.stackTop⟩ : Boot .zeroed)
  obtain ⟨es₃, hc₃, h₃⟩ :=
    initHeap_run (ρ := ρ) (⟨b.layout, b.config, b.layout.stack.end⟩ : Boot .stacked)
  obtain ⟨es₄, hc₄, h₄⟩ :=
    initRuntime_run (ρ := ρ) (⟨b.layout, b.config, b.layout.stack.end⟩ : Boot .heapReady)
  obtain ⟨es₅, r₅, hc₅, h₅⟩ :=
    conclude_run (⟨b.layout, b.config, b.layout.stack.end⟩ : Boot .ready) e
      (L ++ es₁ ++ es₂ ++ es₃ ++ es₄) (readyRuntime b.layout r)
  obtain ⟨es₆, hc₆, h₆⟩ :=
    shutdown_run (ρ := ρ) ⟨b.config, haltPhase (e.fault (readyRuntime b.layout r))⟩
  have hrun : (b.lifetime e k : StateM (LoggedBoard ρ) Halted).run ⟨L, r⟩ =
      (⟨b.config, haltPhase (e.fault (readyRuntime b.layout r))⟩,
        ⟨L ++ es₁ ++ es₂ ++ es₃ ++ es₄ ++ es₅ ++ es₆ ++ [.exit] ++ List.replicate k .tick,
          r₅⟩) := by
    unfold Boot.lifetime
    rw [run_bind_of_run (h₁ L r), run_bind_of_run (h₂ _ r), run_bind_of_run (h₃ _ r),
      run_bind_of_run (h₄ _ _)]
    -- the runtime meets the program in the state `readyRuntime` names
    refine (run_bind_of_run h₅).trans ?_
    rw [run_bind_of_run (h₆ _ _), run_bind_of_run (idle_run k _ _)]
    rfl
  refine ⟨by rw [hrun], es₁ ++ es₂ ++ es₃ ++ es₄ ++ es₅ ++ es₆, ?_, by rw [hrun]; simp⟩
  rw [← stage_texts_eq]
  exact ((((hc₁.append hc₂).append hc₃).append hc₄).append hc₅).append hc₆

end LoggedBoard

end DeviceBoot
