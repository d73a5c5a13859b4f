import Mathlib
import DeviceBoot.Proofs.Boot.LoggedBoard
/-!
# What a console sends

A console cuts what it is given into segments and hands each to `send`: a line as soon as its
newline arrives, and a full buffer when one more byte comes. What is left stays staged, at most a
buffer's worth and with no newline, until a flush or the console's close sends it as the last
segment.

The segments depend on the bytes alone, never on the gate: `writeBytes_segments` says that in
every monad, with every gate, staging bytes is sending a fixed list of segments (`sendEach`), which
`Staging` describes. It follows the console up from one byte (`writeByte_segments`, one case per
way the byte can arrive) through the bytes of one write to a sequence of writes, by induction.

What the channel then receives is the gate's business. A gate that takes every write whole
receives the segments, one write each (`sendEach_logged`). Any gate receives a prefix of each
segment, in order (`sendEach_delivers`), because a send never delivers more than it was given
(`sendRest_delivers`).

Main statement: `console_sends_segments`.
-/

namespace DeviceBoot

namespace Console

/-- Bytes staged between two writes: at most a buffer's worth, and no newline, which would have
sent them. -/
def Staged (buffer : Bytes) : Prop := buffer.length ≤ consoleBufferSize ∧ newline ∉ buffer

/-- A segment sent while bytes are staged: a line, which ends in its only newline, or a full
buffer, which holds none. -/
def Closed (segment : Bytes) : Prop :=
  (∃ line, segment = line ++ [newline] ∧ newline ∉ line) ∨
    (segment.length = consoleBufferSize ∧ newline ∉ segment)

/-- Staging `input` after `buffer` sends the closed segments `segs`, none longer than a buffer,
and leaves `kept` staged, nothing lost and nothing repeated. -/
structure Staging (buffer input : Bytes) (segs : List Bytes) (kept : Bytes) : Prop where
  flatten_append : segs.flatten ++ kept = buffer ++ input
  closed : ∀ g ∈ segs, g.length ≤ consoleBufferSize ∧ Closed g
  staged : Staged kept

/-- Staging one input after another sends the segments of each, in order. -/
theorem Staging.append {buffer x y kept₁ kept₂ : Bytes} {segs₁ segs₂ : List Bytes}
    (h₁ : Staging buffer x segs₁ kept₁) (h₂ : Staging kept₁ y segs₂ kept₂) :
    Staging buffer (x ++ y) (segs₁ ++ segs₂) kept₂ where
  flatten_append := by
    calc (segs₁ ++ segs₂).flatten ++ kept₂
        = segs₁.flatten ++ (segs₂.flatten ++ kept₂) := by simp
      _ = (segs₁.flatten ++ kept₁) ++ y := by rw [h₂.flatten_append, List.append_assoc]
      _ = buffer ++ (x ++ y) := by rw [h₁.flatten_append, List.append_assoc]
  closed g hg := by
    rcases List.mem_append.mp hg with hg | hg
    · exact h₁.closed g hg
    · exact h₂.closed g hg
  staged := h₂.staged

theorem Staging.nil {buffer : Bytes} (h : Staged buffer) : Staging buffer [] [] buffer :=
  ⟨by simp, by simp, h⟩

theorem staged_nil : Staged [] := ⟨by simp, by simp⟩

section

variable {m : Type → Type} [Monad m] [SerialGate m]

/-- Send segments one after another on a channel, whatever each send answers. -/
def sendEach (channel : UInt32) (segments : List Bytes) : m Unit :=
  segments.forM fun g => do let _ ← send channel g

@[simp] theorem sendEach_nil (channel : UInt32) : (sendEach channel [] : m Unit) = pure () := rfl

variable [LawfulMonad m]

theorem sendEach_cons (channel : UInt32) (g : Bytes) (segs : List Bytes) :
    (sendEach channel (g :: segs) : m Unit) =
      (do let _ ← send channel g; sendEach channel segs) := by
  simp [sendEach]

theorem sendEach_append (channel : UInt32) (segs segs' : List Bytes) :
    (sendEach channel (segs ++ segs') : m Unit) =
      (do sendEach channel segs; sendEach channel segs') := by
  simp [sendEach]

/-- Sending segments and keeping a rest, then going on from a console holding that rest, sends
both lists of segments. -/
theorem sendEach_bind (channel : UInt32) (segs₁ segs₂ : List Bytes) (kept₁ kept₂ : Bytes)
    {f : Console → m Console}
    (hf : f ⟨channel, kept₁⟩ = sendEach channel segs₂ *> pure ⟨channel, kept₂⟩) :
    ((sendEach channel segs₁ *> pure ⟨channel, kept₁⟩ : m Console) >>= f) =
      sendEach channel (segs₁ ++ segs₂) *> pure ⟨channel, kept₂⟩ := by
  rw [seqRight_eq_bind, bind_assoc, pure_bind, hf, sendEach_append, seqRight_eq_bind,
    seqRight_eq_bind, bind_assoc]

/-- A flush is one send of the staged bytes. -/
theorem flush_eq (c : Console) :
    (c.flush : m Console) = sendEach c.channel [c.buffer] *> pure ⟨c.channel, []⟩ := by
  simp [flush, sendEach_cons, seqRight_eq]

end

/-- **One byte.** Whatever the gate, staging a byte on a console whose staged bytes are `Staged`
sends a fixed list of closed segments and keeps a staged rest. -/
theorem writeByte_segments (c : Console) (b : UInt8) (hc : Staged c.buffer) :
    ∃ segs kept, Staging c.buffer [b] segs kept ∧
      ∀ (m : Type → Type) [Monad m] [LawfulMonad m] [SerialGate m],
        (c.writeByte b : m Console) = sendEach c.channel segs *> pure ⟨c.channel, kept⟩ := by
  obtain ⟨hlen, hnone⟩ := hc
  by_cases hroom : c.buffer.length < consoleBufferSize
  · by_cases hnl : b = newline
    · -- the newline ends a line: the line goes out
      refine ⟨[c.buffer ++ [b]], [], ⟨by simp, ?_, staged_nil⟩, fun m _ _ _ => ?_⟩
      · intro g hg
        rw [List.mem_singleton] at hg
        subst hg hnl
        exact ⟨by simp; omega, .inl ⟨c.buffer, rfl, hnone⟩⟩
      · simp [writeByte, hroom, hnl, flush_eq, seqRight_eq]
    · -- an ordinary byte with room left is staged
      refine ⟨[], c.buffer ++ [b], ⟨by simp, by simp, ?_, ?_⟩, fun m _ _ _ => ?_⟩
      · simp; omega
      · simp [hnone, Ne.symm hnl]
      · simp [writeByte, hroom, hnl, seqRight_eq]
  · have hfull : c.buffer.length = consoleBufferSize := by omega
    by_cases hnl : b = newline
    · -- the full buffer goes out, then the newline as a line of its own
      refine ⟨[c.buffer, [b]], [], ⟨by simp, ?_, staged_nil⟩, fun m _ _ _ => ?_⟩
      · intro g hg
        simp only [List.mem_cons, List.not_mem_nil, or_false] at hg
        rcases hg with rfl | rfl
        · exact ⟨hfull.le, .inr ⟨hfull, hnone⟩⟩
        · subst hnl
          exact ⟨by simp [consoleBufferSize], .inl ⟨[], rfl, by simp⟩⟩
      · simp [writeByte, hroom, hnl, flush_eq, sendEach_cons, seqRight_eq]
    · -- the full buffer goes out and the byte starts a new one
      refine ⟨[c.buffer], [b], ⟨by simp, ?_, ?_, ?_⟩, fun m _ _ _ => ?_⟩
      · intro g hg
        rw [List.mem_singleton] at hg
        subst hg
        exact ⟨hfull.le, .inr ⟨hfull, hnone⟩⟩
      · simp [consoleBufferSize]
      · simp [Ne.symm hnl]
      · simp [writeByte, hroom, hnl, flush_eq, sendEach_cons, seqRight_eq]

/-- **The bytes of one write**, by induction over them, the console generalised: whatever the
gate, they are sent as a fixed list of closed segments, and a staged rest is kept. -/
theorem writeBytes_segments (c : Console) (bytes : Bytes) (hc : Staged c.buffer) :
    ∃ segs kept, Staging c.buffer bytes segs kept ∧
      ∀ (m : Type → Type) [Monad m] [LawfulMonad m] [SerialGate m],
        (c.writeBytes bytes : m Console) = sendEach c.channel segs *> pure ⟨c.channel, kept⟩ := by
  induction bytes generalizing c with
  | nil => exact ⟨[], c.buffer, .nil hc, fun m _ _ _ => by simp [writeBytes, seqRight_eq]⟩
  | cons b bs ih =>
    obtain ⟨segs₁, kept₁, hs₁, hrun₁⟩ := writeByte_segments c b hc
    obtain ⟨segs₂, kept₂, hs₂, hrun₂⟩ := ih ⟨c.channel, kept₁⟩ hs₁.staged
    refine ⟨segs₁ ++ segs₂, kept₂, hs₁.append hs₂, fun m _ _ _ => ?_⟩
    have hcons : (c.writeBytes (b :: bs) : m Console) =
        c.writeByte b >>= fun c' => c'.writeBytes bs := rfl
    rw [hcons, hrun₁ m]
    exact sendEach_bind c.channel segs₁ segs₂ kept₁ kept₂ (hrun₂ m)

/-- **A sequence of writes**, by induction over them: whatever the gate, they are sent as a fixed
list of closed segments, and a staged rest is kept. -/
theorem writes_segments (c : Console) (xs : List Bytes) (hc : Staged c.buffer) :
    ∃ segs kept, Staging c.buffer xs.flatten segs kept ∧
      ∀ (m : Type → Type) [Monad m] [LawfulMonad m] [SerialGate m],
        (xs.foldlM writeBytes c : m Console) =
          sendEach c.channel segs *> pure ⟨c.channel, kept⟩ := by
  induction xs generalizing c with
  | nil => exact ⟨[], c.buffer, .nil hc, fun m _ _ _ => by simp [seqRight_eq]⟩
  | cons x rest ih =>
    obtain ⟨segs₁, kept₁, hs₁, hrun₁⟩ := writeBytes_segments c x hc
    obtain ⟨segs₂, kept₂, hs₂, hrun₂⟩ := ih ⟨c.channel, kept₁⟩ hs₁.staged
    refine ⟨segs₁ ++ segs₂, kept₂, hs₁.append hs₂, fun m _ _ _ => ?_⟩
    rw [List.foldlM_cons, hrun₁ m]
    exact sendEach_bind c.channel segs₁ segs₂ kept₁ kept₂ (hrun₂ m)

/-! ## What the channel receives -/

/-- On a gate that takes every write whole, segments go out one write each; an empty one makes
none. -/
theorem sendEach_logged {ρ : Type} (channel : UInt32) (segs : List Bytes) (L : List GateEvent)
    (r : ρ) :
    (sendEach channel segs : StateM (LoggedBoard ρ) Unit).run ⟨L, r⟩ =
      ((), ⟨L ++ (segs.filter (· ≠ [])).map fun g => .write channel g g.length, r⟩) := by
  induction segs generalizing L with
  | nil => simp; rfl
  | cons g segs ih =>
    rw [sendEach_cons, LoggedBoard.run_bind_of_run (LoggedBoard.send_run L r channel g), ih]
    by_cases hg : g = [] <;> simp [LoggedBoard.written, hg]

end Console

/-- A gate seen from its channels: the gate, and the bytes each write delivered, in order. -/
structure Delivered (γ : Type) where
  gate : γ
  delivered : List (UInt32 × Bytes)

namespace Delivered

variable {γ : Type} [GateModel γ]

/-- A write delivers what the gate takes of it: never more than was offered. -/
instance : GateModel (Delivered γ) where
  write w channel data :=
    let (n, g) := GateModel.write w.gate channel data
    (n, ⟨g, w.delivered ++ [(channel, data.take n)]⟩)
  tick w := ⟨GateModel.tick w.gate, w.delivered⟩
  exit w := ⟨GateModel.exit w.gate, w.delivered⟩

theorem writeSerial_run (channel : UInt32) (data : Bytes) (w : Delivered γ) :
    (SerialGate.writeSerial channel data : StateM (Delivered γ) Nat).run w =
      ((GateModel.write w.gate channel data).1,
        ⟨(GateModel.write w.gate channel data).2,
          w.delivered ++ [(channel, data.take (GateModel.write w.gate channel data).1)]⟩) := rfl

theorem tick_run (w : Delivered γ) :
    (SerialGate.cooperativeTick : StateM (Delivered γ) Unit).run w =
      ((), ⟨GateModel.tick w.gate, w.delivered⟩) := rfl

/-- **A send delivers a prefix of what it was given**, whatever the gate takes of each write:
each write is offered what remains, so the bytes delivered join up in order. By the send loop's
own induction, one case per way a write can end. -/
theorem sendRest_delivers (channel : UInt32) (bytes rest : Bytes) (stalled : Nat)
    (w : Delivered γ) :
    ∃ ds : List Bytes,
      ((sendRest channel bytes rest stalled : StateM (Delivered γ) Nat).run w).2.delivered =
        w.delivered ++ ds.map (channel, ·) ∧ ds.flatten <+: rest := by
  induction rest, stalled using sendRest.induct generalizing w with
  | case1 stalled =>
    refine ⟨[], ?_, by simp⟩
    rw [sendRest, dif_pos rfl]
    simp
    rfl
  | case2 rest stalled hrest ihstall ihsent =>
    rw [sendRest, dif_neg hrest, LoggedBoard.run_bind_of_run (writeSerial_run channel rest w)]
    generalize GateModel.write w.gate channel rest = p
    obtain ⟨n, g⟩ := p
    -- the write delivered `rest.take n`; what follows delivers a prefix of `rest.drop n`
    have hjoin : ∀ ds : List Bytes, ds.flatten <+: rest.drop n →
        (rest.take n :: ds).flatten <+: rest := by
      intro ds hds
      have hpre := (List.prefix_append_right_inj (rest.take n)).mpr hds
      rwa [List.take_append_drop, ← List.flatten_cons] at hpre
    dsimp only
    by_cases hleft : rest.drop n = []
    · rw [if_pos hleft]
      exact ⟨[rest.take n], by simp; rfl, hjoin [] (by simp)⟩
    rw [if_neg hleft]
    by_cases hzero : n = 0
    · rw [dif_pos hzero]
      by_cases hstall : stalled + 1 > consoleStallTicks
      · -- the channel stalled once too often: the rest is dropped
        rw [dif_pos hstall]
        exact ⟨[rest.take n], by simp; rfl, hjoin [] (by simp)⟩
      · rw [dif_neg hstall, LoggedBoard.run_bind_of_run (tick_run _)]
        obtain ⟨ds, hds, hpre⟩ := ihstall n hleft hzero hstall _
        exact ⟨rest.take n :: ds, by rw [hds]; simp, hjoin ds hpre⟩
    · rw [dif_neg hzero, LoggedBoard.run_bind_of_run (tick_run _)]
      obtain ⟨ds, hds, hpre⟩ := ihsent n hzero _
      exact ⟨rest.take n :: ds, by rw [hds]; simp, hjoin ds hpre⟩

/-- **Any gate receives a prefix of each segment**, segment by segment and in order. -/
theorem sendEach_delivers (channel : UInt32) (segs : List Bytes) (w : Delivered γ) :
    ∃ parts : List Bytes, List.Forall₂ (· <+: ·) parts segs ∧ ∃ ds : List Bytes,
      ((Console.sendEach channel segs : StateM (Delivered γ) Unit).run w).2.delivered =
        w.delivered ++ ds.map (channel, ·) ∧ ds.flatten = parts.flatten := by
  induction segs generalizing w with
  | nil => exact ⟨[], .nil, [], by simp; rfl, rfl⟩
  | cons g segs ih =>
    -- the first segment's send delivers a prefix of it; the others follow from where it leaves
    obtain ⟨ds₁, hds₁, hpre₁⟩ := sendRest_delivers channel g g 0 w
    have hsend : (send channel g : StateM (Delivered γ) Nat).run w =
        (((send channel g : StateM (Delivered γ) Nat).run w).1,
          ((sendRest channel g g 0 : StateM (Delivered γ) Nat).run w).2) := rfl
    obtain ⟨parts, hparts, ds₂, hds₂, hflat⟩ :=
      ih ((sendRest channel g g 0 : StateM (Delivered γ) Nat).run w).2
    refine ⟨ds₁.flatten :: parts, .cons hpre₁ hparts, ds₁ ++ ds₂, ?_, by simp [hflat]⟩
    rw [Console.sendEach_cons, LoggedBoard.run_bind_of_run hsend, hds₂, hds₁]
    simp

end Delivered

/-- **What a console sends.** Give a fresh console on a channel any sequence of writes. The
console sends segments `segs`, then, when flushed or closed, what it still holds, `kept`; joined,
they are everything written. No segment is longer than a buffer; every one but the last is a line,
ending in its only newline, or a full buffer with none. The segments depend on the writes alone:
in every monad, with every gate, the writes send exactly `segs` and leave `kept` staged, and a
flush or close then sends `kept`. A gate that takes every write whole logs one write per non-empty
segment; any gate receives a prefix of each segment, in order. -/
theorem console_sends_segments (channel : UInt32) (xs : List Bytes) :
    ∃ segs kept,
      (segs ++ [kept]).flatten = xs.flatten ∧
      (∀ g ∈ segs ++ [kept], g.length ≤ consoleBufferSize) ∧
      (∀ g ∈ segs, Console.Closed g) ∧ Console.newline ∉ kept ∧
      (∀ (m : Type → Type) [Monad m] [LawfulMonad m] [SerialGate m],
        (xs.foldlM Console.writeBytes ⟨channel, []⟩ : m Console) =
            Console.sendEach channel segs *> pure ⟨channel, kept⟩ ∧
          (do let c ← xs.foldlM Console.writeBytes ⟨channel, []⟩; c.flush : m Console) =
            Console.sendEach channel (segs ++ [kept]) *> pure ⟨channel, []⟩ ∧
          (do let c ← xs.foldlM Console.writeBytes ⟨channel, []⟩; c.close : m Unit) =
            Console.sendEach channel (segs ++ [kept])) ∧
      (∀ (ρ : Type) (L : List GateEvent) (r : ρ),
        (Console.sendEach channel (segs ++ [kept]) : StateM (LoggedBoard ρ) Unit).run ⟨L, r⟩ =
          ((), ⟨L ++ ((segs ++ [kept]).filter (· ≠ [])).map fun g => .write channel g g.length,
            r⟩)) ∧
      ∀ (γ : Type) [GateModel γ] (w : Delivered γ),
        ∃ parts : List Bytes, List.Forall₂ (· <+: ·) parts (segs ++ [kept]) ∧ ∃ ds : List Bytes,
          ((Console.sendEach channel (segs ++ [kept]) :
              StateM (Delivered γ) Unit).run w).2.delivered =
            w.delivered ++ ds.map (channel, ·) ∧ ds.flatten = parts.flatten := by
  obtain ⟨segs, kept, hstaging, hrun⟩ := Console.writes_segments ⟨channel, []⟩ xs Console.staged_nil
  -- a flush after the writes sends what they left staged, as one more segment
  have hflush : ∀ (m : Type → Type) [Monad m] [LawfulMonad m] [SerialGate m],
      (do let c ← xs.foldlM Console.writeBytes ⟨channel, []⟩; c.flush : m Console) =
        Console.sendEach channel (segs ++ [kept]) *> pure ⟨channel, []⟩ := by
    intro m _ _ _
    rw [hrun m]
    exact Console.sendEach_bind channel segs [kept] kept [] (Console.flush_eq _)
  refine ⟨segs, kept, ?_, ?_, fun g hg => (hstaging.closed g hg).2, hstaging.staged.2,
    fun m _ _ _ => ⟨hrun m, hflush m, ?_⟩, fun ρ L r => Console.sendEach_logged channel _ L r,
    fun γ _ w => Delivered.sendEach_delivers channel _ w⟩
  · simpa using hstaging.flatten_append
  · intro g hg
    rcases List.mem_append.mp hg with hg | hg
    · exact (hstaging.closed g hg).1
    · rw [List.mem_singleton.mp hg]
      exact hstaging.staged.1
  · -- closing is flushing, the console dropped
    have hclose : (do let c ← xs.foldlM Console.writeBytes ⟨channel, []⟩; c.close : m Unit) =
        (do let c ← xs.foldlM Console.writeBytes ⟨channel, []⟩; c.flush) >>= fun _ => pure () := by
      simp only [Console.close, bind_assoc]
    rw [hclose, hflush m, seqRight_eq_bind, bind_assoc]
    simp

end DeviceBoot
