import Mathlib
import DeviceBoot.Bench.Gates
import DeviceBoot.Boot.Sequence
/-!
# A board whose gate takes every write

The boot sequence runs on any board. To say what it prints, this module fixes the gate the bench
uses: a recording gate with no write limit, so every write is taken whole and logged. The board has
no shared console, and clearing memory leaves no trace on the gate. Its runtime is any runtime at
all, kept on a state of its own that the gate never sees (`onRuntime`).

On such a board a console sends exactly what it is given. `emit_run` says that a text emitted on a
fresh console is logged as writes on its channel that carry the text's bytes in order (`Carries`),
and that these writes do not depend on the board's state. The proof follows the console up from
one write (`write_run`) through `send`, `flush` and one staged byte to the bytes of a text
(`writeBytes_run`, by induction).
-/

namespace DeviceBoot

/-- A board whose gate logs every write in full, and a runtime with state `ρ`. -/
structure LoggedBoard (ρ : Type) where
  log : List GateEvent
  runtime : ρ

namespace LoggedBoard

variable {ρ : Type}

/-- The board's gate: a recording gate that takes every write whole. -/
def gate (s : LoggedBoard ρ) : RecordingGate := { writeLimit := none, log := s.log }

instance : GateModel (LoggedBoard ρ) where
  write s channel data :=
    let (n, g) := GateModel.write s.gate channel data
    (n, ⟨g.log, s.runtime⟩)
  tick s := ⟨(GateModel.tick s.gate).log, s.runtime⟩
  exit s := ⟨(GateModel.exit s.gate).log, s.runtime⟩

instance : Board (StateM (LoggedBoard ρ)) where
  toSerialGate := inferInstance
  zeroRegion _ := pure ()
  flushSharedConsole := pure ()

theorem zeroRegion_run (region : MemoryRegion) (s : LoggedBoard ρ) :
    (Board.zeroRegion region : StateM (LoggedBoard ρ) Unit).run s = ((), s) := rfl

theorem flushSharedConsole_run (s : LoggedBoard ρ) :
    (Board.flushSharedConsole : StateM (LoggedBoard ρ) Unit).run s = ((), s) := rfl

/-- A step whose run is known, followed by anything. -/
theorem run_bind_of_run {σ α β : Type} {x : StateM σ α} {f : α → StateM σ β} {s s' : σ}
    {a : α} (h : x.run s = (a, s')) : (x >>= f).run s = (f a).run s' := by
  rw [StateT.run_bind, h]
  rfl

/-- What one write of `data` logs: the write, unless there is nothing to write. -/
def written (channel : UInt32) (data : Bytes) : List GateEvent :=
  if data = [] then [] else [.write channel data data.length]

/-- The gate takes all it is offered; an empty offer logs nothing. -/
theorem write_run (L : List GateEvent) (r : ρ) (ch : UInt32) (d : Bytes) :
    (SerialGate.writeSerial ch d : StateM (LoggedBoard ρ) Nat).run ⟨L, r⟩ =
      (d.length, ⟨L ++ written ch d, r⟩) := by
  by_cases hd : d = []
  · subst hd
    simp [SerialGate.writeSerial, GateModel.write, written, gate]
    rfl
  · have hpos : 0 < d.length := List.length_pos_iff.mpr hd
    simp [SerialGate.writeSerial, GateModel.write, written, gate, hd, hpos]
    rfl

theorem tick_run (L : List GateEvent) (r : ρ) :
    (SerialGate.cooperativeTick : StateM (LoggedBoard ρ) Unit).run ⟨L, r⟩ =
      ((), ⟨L ++ [.tick], r⟩) :=
  rfl

theorem exit_run (L : List GateEvent) (r : ρ) :
    (SerialGate.requestExit : StateM (LoggedBoard ρ) Unit).run ⟨L, r⟩ =
      ((), ⟨L ++ [.exit], r⟩) :=
  rfl

/-- A send is one write, which the gate takes whole. -/
theorem send_run (L : List GateEvent) (r : ρ) (ch : UInt32) (d : Bytes) :
    (send ch d : StateM (LoggedBoard ρ) Nat).run ⟨L, r⟩ =
      (d.length, ⟨L ++ written ch d, r⟩) := by
  unfold send
  rw [sendRest]
  by_cases hd : d = []
  · subst hd
    simp [written]
    rfl
  · rw [dif_neg hd, run_bind_of_run (write_run L r ch d)]
    simp [written, hd]
    rfl

/-- Writes on `channel`, each taken whole and none empty, that carry `bytes` in order. -/
def Carries (channel : UInt32) (es : List GateEvent) (bytes : Bytes) : Prop :=
  ∃ chunks : List Bytes, es = chunks.map (fun d => GateEvent.write channel d d.length) ∧
    (∀ d ∈ chunks, d ≠ []) ∧ chunks.flatten = bytes

theorem carries_nil (channel : UInt32) : Carries channel [] [] := ⟨[], rfl, by simp, rfl⟩

theorem carries_written (channel : UInt32) (d : Bytes) : Carries channel (written channel d) d := by
  by_cases hd : d = []
  · subst hd
    exact carries_nil channel
  · exact ⟨[d], by simp [written, hd], by simpa using hd, by simp⟩

theorem Carries.append {channel : UInt32} {es es' : List GateEvent} {x y : Bytes}
    (h : Carries channel es x) (h' : Carries channel es' y) : Carries channel (es ++ es') (x ++ y) := by
  obtain ⟨cs, rfl, hne, rfl⟩ := h
  obtain ⟨cs', rfl, hne', rfl⟩ := h'
  refine ⟨cs ++ cs', by simp, ?_, by simp⟩
  intro d hd
  rcases List.mem_append.mp hd with hd | hd
  · exact hne d hd
  · exact hne' d hd

theorem flush_run (L : List GateEvent) (r : ρ) (c : Console) :
    (c.flush : StateM (LoggedBoard ρ) Console).run ⟨L, r⟩ =
      (⟨c.channel, []⟩, ⟨L ++ written c.channel c.buffer, r⟩) := by
  unfold Console.flush
  rw [run_bind_of_run (send_run L r c.channel c.buffer)]
  rfl

/-- The second half of staging a byte: it joins the buffer, and a newline sends the line. -/
theorem stageByte_run (c : Console) (b : UInt8) :
    ∃ es sent kept, Carries c.channel es sent ∧ sent ++ kept = c.buffer ++ [b] ∧
      ∀ (L : List GateEvent) (r : ρ),
        ((if b = Console.newline then (⟨c.channel, c.buffer ++ [b]⟩ : Console).flush
          else pure ⟨c.channel, c.buffer ++ [b]⟩ : StateM (LoggedBoard ρ) Console)).run
            ⟨L, r⟩ = (⟨c.channel, kept⟩, ⟨L ++ es, r⟩) := by
  by_cases hnl : b = Console.newline
  · refine ⟨written c.channel (c.buffer ++ [b]), c.buffer ++ [b], [], carries_written _ _, by simp,
      fun L r => ?_⟩
    rw [if_pos hnl, flush_run]
  · refine ⟨[], [], c.buffer ++ [b], carries_nil _, by simp, fun L r => ?_⟩
    rw [if_neg hnl]
    simp
    rfl

/-- Staging one byte sends a prefix of what was staged with it, and keeps the rest, whatever the
board's state. -/
theorem writeByte_run (c : Console) (b : UInt8) :
    ∃ es sent kept, Carries c.channel es sent ∧ sent ++ kept = c.buffer ++ [b] ∧
      ∀ (L : List GateEvent) (r : ρ),
        (c.writeByte b : StateM (LoggedBoard ρ) Console).run ⟨L, r⟩ =
          (⟨c.channel, kept⟩, ⟨L ++ es, r⟩) := by
  unfold Console.writeByte
  by_cases hroom : c.buffer.length < consoleBufferSize
  · -- room left: the byte is staged behind what is there
    obtain ⟨es, sent, kept, hc, hsent, hrun⟩ := stageByte_run (ρ := ρ) c b
    refine ⟨es, sent, kept, hc, hsent, fun L r => ?_⟩
    simp only [if_pos hroom]
    have hpure : (pure c : StateM (LoggedBoard ρ) Console).run ⟨L, r⟩ = (c, ⟨L, r⟩) := rfl
    rw [run_bind_of_run hpure]
    exact hrun L r
  · -- a full buffer is sent first, and the byte starts a new one
    obtain ⟨es, sent, kept, hc, hsent, hrun⟩ := stageByte_run (ρ := ρ) ⟨c.channel, []⟩ b
    refine ⟨written c.channel c.buffer ++ es, c.buffer ++ sent, kept,
      (carries_written _ _).append hc, by rw [List.append_assoc, hsent]; rfl, fun L r => ?_⟩
    simp only [if_neg hroom]
    rw [run_bind_of_run (flush_run L r c), hrun, List.append_assoc]

/-- Staging bytes sends a prefix of the staged bytes followed by them, in order, and keeps the
rest; the induction runs over the bytes, with the console they are staged on generalised. -/
theorem writeBytes_run (c : Console) (bytes : Bytes) :
    ∃ es sent kept, Carries c.channel es sent ∧ sent ++ kept = c.buffer ++ bytes ∧
      ∀ (L : List GateEvent) (r : ρ),
        (c.writeBytes bytes : StateM (LoggedBoard ρ) Console).run ⟨L, r⟩ =
          (⟨c.channel, kept⟩, ⟨L ++ es, r⟩) := by
  induction bytes generalizing c with
  | nil => exact ⟨[], [], c.buffer, carries_nil _, by simp, fun L r => by simp; rfl⟩
  | cons b bs ih =>
    obtain ⟨es₁, sent₁, kept₁, hc₁, hsent₁, hrun₁⟩ := writeByte_run (ρ := ρ) c b
    obtain ⟨es₂, sent₂, kept₂, hc₂, hsent₂, hrun₂⟩ := ih ⟨c.channel, kept₁⟩
    have hsent : (sent₁ ++ sent₂) ++ kept₂ = c.buffer ++ b :: bs := by
      calc (sent₁ ++ sent₂) ++ kept₂
          = sent₁ ++ (kept₁ ++ bs) := by rw [List.append_assoc, hsent₂]
        _ = (sent₁ ++ kept₁) ++ bs := by rw [List.append_assoc]
        _ = c.buffer ++ b :: bs := by rw [hsent₁]; simp
    refine ⟨es₁ ++ es₂, sent₁ ++ sent₂, kept₂, hc₁.append hc₂, hsent, fun L r => ?_⟩
    unfold Console.writeBytes
    rw [List.foldlM_cons, run_bind_of_run (hrun₁ L r)]
    rw [← List.append_assoc]
    exact hrun₂ (L ++ es₁) r

/-- **A text emitted on a fresh console reaches the gate whole**: whatever the board's state, it is
logged as writes on the console's channel that carry exactly the text's bytes. -/
theorem emit_run (channel : UInt32) (text : String) :
    ∃ es, Carries channel es text.toUTF8.toList ∧ ∀ (L : List GateEvent) (r : ρ),
      (Console.emit channel text : StateM (LoggedBoard ρ) Unit).run ⟨L, r⟩ =
        ((), ⟨L ++ es, r⟩) := by
  obtain ⟨es, sent, kept, hc, hsent, hrun⟩ :=
    writeBytes_run (ρ := ρ) ⟨channel, []⟩ text.toUTF8.toList
  -- closing sends what the last line left staged
  refine ⟨es ++ written channel kept, ?_, fun L r => ?_⟩
  · have h := hc.append (carries_written channel kept)
    rwa [hsent] at h
  · unfold Console.emit Console.writeStr Console.close
    rw [run_bind_of_run (hrun L r), run_bind_of_run (flush_run _ r _), List.append_assoc]
    rfl

/-- A step of the runtime, taken on the board's runtime state. -/
def onRuntime {α : Type} (x : StateM ρ α) : StateM (LoggedBoard ρ) α :=
  modifyGet fun s => let (a, r) := x.run s.runtime; (a, ⟨s.log, r⟩)

@[simp] theorem onRuntime_run {α : Type} (x : StateM ρ α) (L : List GateEvent) (r : ρ) :
    (onRuntime x).run ⟨L, r⟩ = ((x.run r).1, ⟨L, (x.run r).2⟩) := rfl

/-- The board's runtime: every operation is the given runtime's, on the board's runtime state. -/
instance [rt : Runtime (StateM ρ)] : Runtime (StateM (LoggedBoard ρ)) where
  Program := rt.Program
  Fault := rt.Fault
  describe := rt.describe
  initStack top := onRuntime (Runtime.initStack top)
  initHeap heap := onRuntime (Runtime.initHeap heap)
  init := onRuntime Runtime.init
  newContext := onRuntime Runtime.newContext
  decode context payload := onRuntime (Runtime.decode context payload)
  call0 program := onRuntime (Runtime.call0 program)
  printTraceback fault := onRuntime (Runtime.printTraceback fault)

theorem onRuntime_bind {α β : Type} (x : StateM ρ α) (f : α → StateM ρ β) :
    onRuntime (x >>= f) = onRuntime x >>= fun a => onRuntime (f a) := rfl

variable [Runtime (StateM ρ)]

theorem initStack_eq (top : Nat) :
    (Runtime.initStack top : StateM (LoggedBoard ρ) Unit) = onRuntime (Runtime.initStack top) := rfl

theorem initHeap_eq (heap : MemoryRegion) :
    (Runtime.initHeap heap : StateM (LoggedBoard ρ) Unit) = onRuntime (Runtime.initHeap heap) := rfl

theorem init_eq : (Runtime.init : StateM (LoggedBoard ρ) Unit) = onRuntime Runtime.init := rfl

theorem printTraceback_eq (fault : Runtime.Fault (StateM (LoggedBoard ρ))) :
    (Runtime.printTraceback fault : StateM (LoggedBoard ρ) Unit) =
      onRuntime (Runtime.printTraceback (m := StateM ρ) fault) := rfl

/-- Loading and running a program on the board is loading and running it on the runtime alone. -/
theorem loadAndRun_eq (image : ProgramImage) :
    (loadAndRun image : StateM (LoggedBoard ρ) _) = onRuntime (loadAndRun image) := by
  -- one step at a time: each of the loader's steps is lifted, and each outcome it matches on
  unfold loadAndRun
  rw [onRuntime_bind]
  congr 1
  funext context
  rw [onRuntime_bind]
  congr 1
  funext decoded
  cases decoded with
  | error f => rfl
  | ok program =>
    dsimp only
    rw [onRuntime_bind]
    congr 1
    funext result
    cases result <;> rfl

end LoggedBoard

end DeviceBoot
