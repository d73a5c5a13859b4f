import Mathlib
import DeviceBoot.Proofs.Boot.LoggedBoard
/-!
# What a send asks of the gate

`send` is a loop against a gate that may take all of a write, part of it, nothing, or claim more
than it was offered. Watched (`Watched`), one run of the loop is a list of writes with one tick
between each two, and `sendRest_run` says which writes: each is offered what remains after the
bytes taken so far, each answer counts for no more than what remains (`sentAfter`), and the answers
follow the loop's rule, `SendAnswers`: write while bytes remain, and give up on the write that
finds the channel has taken nothing `consoleStallTicks + 1` times in a row.

Everything else follows from that rule by induction over it. A send offers every byte until it is
taken and never an empty write, and what the gate took joins up to the prefix it answers
(`send_offers_the_unsent_rest`). It makes at most `consoleStallTicks + 1` writes per byte, and it
stops short of the end exactly when its last `consoleStallTicks + 1` writes took nothing, which no
earlier stretch of writes did (`send_gives_up_only_after_a_stall`).
-/

namespace DeviceBoot

/-- A gate with a log of every call it received: each write with the gate's own answer, each tick
and each exit request, in order. -/
structure Watched (γ : Type) where
  gate : γ
  events : List GateEvent

namespace Watched

variable {γ : Type} [GateModel γ]

instance : GateModel (Watched γ) where
  write w channel data :=
    let (n, g) := GateModel.write w.gate channel data
    (n, ⟨g, w.events ++ [.write channel data n]⟩)
  tick w := ⟨GateModel.tick w.gate, w.events ++ [.tick]⟩
  exit w := ⟨GateModel.exit w.gate, w.events ++ [.exit]⟩

theorem writeSerial_run (channel : UInt32) (data : Bytes) (w : Watched γ) :
    (SerialGate.writeSerial channel data : StateM (Watched γ) Nat).run w =
      ((GateModel.write w.gate channel data).1,
        ⟨(GateModel.write w.gate channel data).2,
          w.events ++ [.write channel data (GateModel.write w.gate channel data).1]⟩) := rfl

theorem tick_run (w : Watched γ) :
    (SerialGate.cooperativeTick : StateM (Watched γ) Unit).run w =
      ((), ⟨GateModel.tick w.gate, w.events ++ [.tick]⟩) := rfl

end Watched

/-! ## The loop read over the gate's answers -/

/-- How far into `bytes` a send has got from `s` after writes that answered `answers`: each answer
moves it on by what it claims, but never past the end. -/
def sentAfter (bytes : Bytes) (s : Nat) (answers : List Nat) : Nat :=
  answers.foldl (fun s a => s + min a (bytes.length - s)) s

@[simp] theorem sentAfter_nil (bytes : Bytes) (s : Nat) : sentAfter bytes s [] = s := rfl

@[simp] theorem sentAfter_cons (bytes : Bytes) (s a : Nat) (answers : List Nat) :
    sentAfter bytes s (a :: answers) = sentAfter bytes (s + min a (bytes.length - s)) answers := rfl

/-- The writes of a send from `s` into `bytes` whose answers are `answers`: each is offered what
remains, and logged with its answer. -/
def offeredWrites (bytes : Bytes) (s : Nat) : List Nat → List (Bytes × Nat)
  | [] => []
  | a :: answers => (bytes.drop s, a) :: offeredWrites bytes (s + min a (bytes.length - s)) answers

@[simp] theorem offeredWrites_nil (bytes : Bytes) (s : Nat) : offeredWrites bytes s [] = [] := rfl

@[simp] theorem offeredWrites_cons (bytes : Bytes) (s a : Nat) (answers : List Nat) :
    offeredWrites bytes s (a :: answers) =
      (bytes.drop s, a) :: offeredWrites bytes (s + min a (bytes.length - s)) answers := rfl

/-- Writes in a row that took nothing, after `answers`, from `k` before them. -/
def stallCount (k : Nat) (answers : List Nat) : Nat :=
  answers.foldl (fun k a => if a = 0 then k + 1 else 0) k

@[simp] theorem stallCount_nil (k : Nat) : stallCount k [] = k := rfl

@[simp] theorem stallCount_cons (k a : Nat) (answers : List Nat) :
    stallCount k (a :: answers) = stallCount (if a = 0 then k + 1 else 0) answers := rfl

/-- The answers a send loop gets from the gate, when it starts `s` bytes into `bytes` after `k`
writes in a row that took nothing. -/
inductive SendAnswers (bytes : Bytes) : Nat → Nat → List Nat → Prop
  /-- Nothing remains, so nothing is written. -/
  | done {s k : Nat} : bytes.length ≤ s → SendAnswers bytes s k []
  /-- The write takes the rest (or claims more). -/
  | finish {s k a : Nat} : s < bytes.length → bytes.length ≤ s + a → SendAnswers bytes s k [a]
  /-- The write takes nothing once too often, and the rest is dropped. -/
  | giveUp {s k : Nat} : s < bytes.length → consoleStallTicks ≤ k → SendAnswers bytes s k [0]
  /-- The write takes nothing, and the loop goes on one stall further. -/
  | stall {s k : Nat} {answers : List Nat} : s < bytes.length → k < consoleStallTicks →
      SendAnswers bytes s (k + 1) answers → SendAnswers bytes s k (0 :: answers)
  /-- The write takes part of the rest, and the stall count starts again. -/
  | progress {s k a : Nat} {answers : List Nat} : 0 < a → s + a < bytes.length →
      SendAnswers bytes (s + a) 0 answers → SendAnswers bytes s k (a :: answers)

/-! ## Facts of the answers alone -/

section Answers

variable {bytes : Bytes}

theorem le_sentAfter (bytes : Bytes) (s : Nat) (answers : List Nat) :
    s ≤ sentAfter bytes s answers := by
  induction answers generalizing s with
  | nil => simp
  | cons a answers ih =>
    rw [sentAfter_cons]
    exact Nat.le_trans (Nat.le_add_right s _) (ih _)

theorem sentAfter_le {s : Nat} (hs : s ≤ bytes.length) (answers : List Nat) :
    sentAfter bytes s answers ≤ bytes.length := by
  induction answers generalizing s with
  | nil => simpa using hs
  | cons a answers ih =>
    rw [sentAfter_cons]
    exact ih (by omega)

@[simp] theorem length_offeredWrites (bytes : Bytes) (s : Nat) (answers : List Nat) :
    (offeredWrites bytes s answers).length = answers.length := by
  induction answers generalizing s <;> simp [*]

theorem map_snd_offeredWrites (bytes : Bytes) (s : Nat) (answers : List Nat) :
    (offeredWrites bytes s answers).map Prod.snd = answers := by
  induction answers generalizing s <;> simp [*]

theorem offeredWrites_eq_nil_iff (s : Nat) (answers : List Nat) :
    offeredWrites bytes s answers = [] ↔ answers = [] := by
  cases answers <;> simp

/-- The `j`-th write is offered what remains after the answers before it. -/
theorem getElem?_offeredWrites (bytes : Bytes) (s : Nat) (answers : List Nat) (j : Nat) :
    (offeredWrites bytes s answers)[j]? =
      answers[j]?.map fun a => (bytes.drop (sentAfter bytes s (answers.take j)), a) := by
  induction answers generalizing s j with
  | nil => simp
  | cons a answers ih =>
    cases j with
    | zero => simp
    | succ j => simp [ih]

/-- What the gate took of each write joins up to the bytes between `s` and where the send got. -/
theorem flatten_taken {s : Nat} (hs : s ≤ bytes.length) (answers : List Nat) :
    ((offeredWrites bytes s answers).map fun w => w.1.take w.2).flatten =
      (bytes.drop s).take (sentAfter bytes s answers - s) := by
  induction answers generalizing s with
  | nil => simp
  | cons a answers ih =>
    simp only [offeredWrites_cons, List.map_cons, List.flatten_cons, sentAfter_cons]
    -- the write took `m` bytes of what remained; the later ones go on from there
    generalize hm : min a (bytes.length - s) = m
    have htake : (bytes.drop s).take a = (bytes.drop s).take m := by
      rw [List.take_eq_take_iff, List.length_drop]
      omega
    have hafter := le_sentAfter bytes (s + m) answers
    have hsplit : sentAfter bytes (s + m) answers - s =
        m + (sentAfter bytes (s + m) answers - (s + m)) := by omega
    rw [ih (by omega), htake, hsplit, List.take_add, List.drop_drop]

end Answers

namespace SendAnswers

variable {bytes : Bytes} {s k : Nat} {answers : List Nat}

/-- A send writes at all exactly when bytes remain. -/
theorem eq_nil_iff (h : SendAnswers bytes s k answers) : answers = [] ↔ bytes.length ≤ s := by
  cases h with
  | done hge => simpa using hge
  | finish hlt _ => simpa using hlt
  | giveUp hlt _ => simpa using hlt
  | stall hlt _ _ => simpa using hlt
  | progress _ hlt _ => simp; omega

/-- Every write is made while bytes remain, so none is offered nothing. -/
theorem sentAfter_take_lt (h : SendAnswers bytes s k answers) :
    ∀ j < answers.length, sentAfter bytes s (answers.take j) < bytes.length := by
  induction h with
  | done => simp
  | finish hlt _ => simpa using hlt
  | giveUp hlt _ => simpa using hlt
  | stall hlt _ _ ih =>
    intro j hj
    cases j with
    | zero => simpa using hlt
    | succ j => simpa using ih j (by simpa using hj)
  | @progress s k a answers ha hlt _ ih =>
    intro j hj
    cases j with
    | zero => simp; omega
    | succ j =>
      have hmin : min a (bytes.length - s) = a := by omega
      simpa [hmin] using ih j (by simpa using hj)

/-- **At most `consoleStallTicks + 1` writes per byte still to send.** Before each write that takes
something come at most `consoleStallTicks` that take nothing; a send that gives up has taken fewer
bytes than there were, which pays for its last stretch of fruitless writes. -/
theorem length_le (h : SendAnswers bytes s k answers) (hk : k ≤ consoleStallTicks) :
    answers.length ≤ (consoleStallTicks + 1) * (bytes.length - s) - k := by
  -- with the constant in view, each case is linear arithmetic
  induction h with
  | done => simp
  | finish hlt _ =>
    simp only [consoleStallTicks, List.length_singleton] at hk ⊢
    omega
  | giveUp hlt _ =>
    simp only [consoleStallTicks, List.length_singleton] at hk ⊢
    omega
  | stall hlt hlt' _ ih =>
    have hrest := ih (by omega)
    simp only [consoleStallTicks, List.length_cons] at hrest hlt' ⊢
    omega
  | progress ha hlt _ ih =>
    have hrest := ih (Nat.zero_le _)
    simp only [consoleStallTicks, List.length_cons] at hrest hk ⊢
    omega

/-- The channel never stalls out before the last write. -/
theorem stallCount_take_le (h : SendAnswers bytes s k answers) (hk : k ≤ consoleStallTicks) :
    ∀ j < answers.length, stallCount k (answers.take j) ≤ consoleStallTicks := by
  induction h with
  | done => simp
  | finish => simpa using hk
  | giveUp => simpa using hk
  | stall _ hlt _ ih =>
    intro j hj
    cases j with
    | zero => simpa using hk
    | succ j => simpa using ih (by omega) j (by simpa using hj)
  | @progress s k a answers ha _ _ ih =>
    intro j hj
    cases j with
    | zero => simpa using hk
    | succ j =>
      have ha' : a ≠ 0 := Nat.ne_of_gt ha
      simpa [ha'] using ih (Nat.zero_le _) j (by simpa using hj)

/-- **A send gets to the end unless the channel stalls out**: it answers the whole length exactly
when its last stretch of fruitless writes is no longer than `consoleStallTicks`. -/
theorem sentAfter_eq_iff (h : SendAnswers bytes s k answers) (hs : s ≤ bytes.length)
    (hk : k ≤ consoleStallTicks) :
    sentAfter bytes s answers = bytes.length ↔ stallCount k answers ≤ consoleStallTicks := by
  induction h with
  | done hge => simp; omega
  | @finish s k a hlt hge =>
    have ha : a ≠ 0 := by omega
    simp [ha]
    omega
  | giveUp hlt hge => simp; omega
  | stall _ hlt _ ih => simpa using ih hs (by omega)
  | @progress s k a answers ha hlt _ ih =>
    have hmin : min a (bytes.length - s) = a := by omega
    have ha' : a ≠ 0 := by omega
    simpa [hmin, ha'] using ih (by omega) (Nat.zero_le _)

end SendAnswers

/-- Ending in `n` fruitless writes is having a stall count of at least `n`. -/
theorem replicate_suffix_iff (n : Nat) (answers : List Nat) :
    List.replicate n 0 <:+ answers ↔ n ≤ stallCount 0 answers := by
  induction answers using List.reverseRecOn generalizing n with
  | nil => cases n <;> simp
  | append_singleton answers a ih =>
    have hstep : stallCount 0 (answers ++ [a]) = if a = 0 then stallCount 0 answers + 1 else 0 := by
      simp [stallCount, List.foldl_append]
    rw [hstep]
    cases n with
    | zero => simp
    | succ n =>
      rw [List.replicate_succ',
        List.suffix_append_inj_of_length_eq (by rfl : [0].length = [a].length), ih]
      by_cases ha : a = 0
      · simp [ha]
      · simp [ha, Ne.symm ha]

/-- A log of writes on a channel with one tick between each two ticks once fewer than it writes. -/
theorem count_tick_intercalate (channel : UInt32) (writes : List (Bytes × Nat)) :
    ([GateEvent.tick].intercalate (writes.map fun x => [GateEvent.write channel x.1 x.2])).count
      .tick = writes.length - 1 := by
  induction writes with
  | nil => simp
  | cons x writes ih =>
    cases writes with
    | nil => simp
    | cons y writes =>
      rw [List.map_cons] at ih
      rw [List.map_cons, List.map_cons, List.intercalate_cons_cons, List.count_append,
        List.count_append, ih]
      simp
      omega

/-! ## One run of the loop -/

section Run

variable {γ : Type} [GateModel γ]

/-- A write logged, then the rest of a send's log after a tick. -/
theorem intercalate_write_tick (channel : UInt32) (x : Bytes × Nat) (writes : List (Bytes × Nat))
    (hne : writes ≠ []) :
    [GateEvent.tick].intercalate ((x :: writes).map fun x => [GateEvent.write channel x.1 x.2]) =
      [.write channel x.1 x.2, .tick] ++
        [GateEvent.tick].intercalate (writes.map fun x => [GateEvent.write channel x.1 x.2]) := by
  rw [List.map_cons, List.intercalate_cons_of_ne_nil (by simpa using hne)]
  rfl

/-- **One send loop, whatever the gate answers.** From `s` bytes into `bytes`, after `stalled`
fruitless writes, the loop offers what remains, ticks between writes and answers how far it got;
the gate's answers follow the loop's rule. By the loop's own induction, one case per way a write
can end. -/
theorem sendRest_run (channel : UInt32) (bytes rest : Bytes) (stalled : Nat) :
    ∀ s, rest = bytes.drop s → s ≤ bytes.length → ∀ w : Watched γ,
      ∃ (answers : List Nat) (g : γ), SendAnswers bytes s stalled answers ∧
        (sendRest channel bytes rest stalled : StateM (Watched γ) Nat).run w =
          (sentAfter bytes s answers,
            ⟨g, w.events ++ [GateEvent.tick].intercalate
              ((offeredWrites bytes s answers).map fun x => [GateEvent.write channel x.1 x.2])⟩) := by
  induction rest, stalled using sendRest.induct with
  | case1 stalled =>
    intro s hs hle w
    have hge : bytes.length ≤ s := List.drop_eq_nil_iff.mp hs.symm
    refine ⟨[], w.gate, .done hge, ?_⟩
    rw [sendRest, dif_pos rfl]
    simp only [List.length_nil, Nat.sub_zero, offeredWrites_nil, List.map_nil, sentAfter_nil]
    rw [show s = bytes.length by omega]
    simp
    rfl
  | case2 rest stalled hrest ihstall ihsent =>
    intro s hs hle w
    have hlt : s < bytes.length := by
      by_contra hge
      exact hrest (hs ▸ List.drop_eq_nil_iff.mpr (by omega))
    rw [sendRest, dif_neg hrest, LoggedBoard.run_bind_of_run (Watched.writeSerial_run channel rest w)]
    generalize GateModel.write w.gate channel rest = p
    obtain ⟨a, g⟩ := p
    -- what is left after the write is what remains past `s + a`
    have hleft : rest.drop a = bytes.drop (s + a) := by rw [hs, List.drop_drop]
    dsimp only
    by_cases hnil : rest.drop a = []
    · -- the write took the rest
      have hge : bytes.length ≤ s + a := by
        rw [hleft, List.drop_eq_nil_iff] at hnil
        exact hnil
      refine ⟨[a], g, .finish hlt hge, ?_⟩
      rw [if_pos hnil, hnil]
      simp only [sentAfter_cons, sentAfter_nil, offeredWrites_cons, offeredWrites_nil,
        List.map_cons, List.map_nil, List.intercalate_singleton, ← hs]
      rw [show s + min a (bytes.length - s) = bytes.length by omega]
      rfl
    rw [if_neg hnil]
    by_cases hzero : a = 0
    · rw [dif_pos hzero]
      subst hzero
      by_cases hstall : stalled + 1 > consoleStallTicks
      · -- the channel took nothing once too often: the rest is dropped
        refine ⟨[0], g, .giveUp hlt (by omega), ?_⟩
        rw [dif_pos hstall]
        simp only [sentAfter_cons, sentAfter_nil, offeredWrites_cons, offeredWrites_nil,
          List.map_cons, List.map_nil, List.intercalate_singleton, List.drop_zero, ← hs]
        rw [hs, List.length_drop, show bytes.length - (bytes.length - s) = s by omega]
        rfl
      · rw [dif_neg hstall, LoggedBoard.run_bind_of_run (Watched.tick_run _)]
        obtain ⟨answers, g', hans, hrun⟩ := ihstall 0 hnil rfl hstall s (by simpa using hs) hle _
        refine ⟨0 :: answers, g', .stall hlt (by omega) hans, ?_⟩
        have hne : offeredWrites bytes s answers ≠ [] := by
          rw [Ne, offeredWrites_eq_nil_iff, hans.eq_nil_iff]
          omega
        rw [hrun]
        simp only [sentAfter_cons, offeredWrites_cons, Nat.zero_min, Nat.add_zero]
        rw [intercalate_write_tick channel _ _ hne, ← hs]
        simp
    · -- the write took part of the rest; the stall count starts again
      rw [dif_neg hzero, LoggedBoard.run_bind_of_run (Watched.tick_run _)]
      have hmore : s + a < bytes.length := by
        by_contra hge
        exact hnil (hleft ▸ List.drop_eq_nil_iff.mpr (by omega))
      obtain ⟨answers, g', hans, hrun⟩ := ihsent a hzero (s + a) hleft (by omega) _
      refine ⟨a :: answers, g', .progress (by omega) hmore hans, ?_⟩
      have hne : offeredWrites bytes (s + a) answers ≠ [] := by
        rw [Ne, offeredWrites_eq_nil_iff, hans.eq_nil_iff]
        omega
      have hmin : min a (bytes.length - s) = a := by omega
      rw [hrun]
      simp only [sentAfter_cons, offeredWrites_cons, hmin]
      rw [intercalate_write_tick channel _ _ hne, ← hs]
      simp

/-- A whole send: the loop from the start, with no stall behind it. -/
theorem send_run (channel : UInt32) (bytes : Bytes) (w : Watched γ) :
    ∃ (answers : List Nat) (g : γ), SendAnswers bytes 0 0 answers ∧
      (send channel bytes : StateM (Watched γ) Nat).run w =
        (sentAfter bytes 0 answers,
          ⟨g, w.events ++ [GateEvent.tick].intercalate
            ((offeredWrites bytes 0 answers).map fun x => [GateEvent.write channel x.1 x.2])⟩) :=
  sendRest_run channel bytes bytes 0 0 rfl (Nat.zero_le _) w

end Run

section Send

variable {γ : Type} [GateModel γ]

/-- **A send offers what is unsent, in order.** Whatever the gate answers, its `j`-th write is on
the send's channel and is offered the bytes past `sentAfter` of the answers before it, never
nothing; the send answers `sentAfter` of all the answers, at most the length; and the bytes the
gate took of each write join up to exactly that prefix, none skipped and none taken twice. -/
theorem send_offers_the_unsent_rest (channel : UInt32) (bytes : Bytes) (w : Watched γ) :
    ∃ writes : List (Bytes × Nat),
      ((send channel bytes : StateM (Watched γ) Nat).run w).2.events =
          w.events ++ [GateEvent.tick].intercalate
            (writes.map fun x => [GateEvent.write channel x.1 x.2]) ∧
      (∀ j (hj : j < writes.length),
        writes[j].1 = bytes.drop (sentAfter bytes 0 ((writes.take j).map Prod.snd)) ∧
          writes[j].1 ≠ []) ∧
      ((send channel bytes : StateM (Watched γ) Nat).run w).1 =
        sentAfter bytes 0 (writes.map Prod.snd) ∧
      sentAfter bytes 0 (writes.map Prod.snd) ≤ bytes.length ∧
      (writes.map fun x => x.1.take x.2).flatten =
        bytes.take (sentAfter bytes 0 (writes.map Prod.snd)) := by
  obtain ⟨answers, g, hans, hrun⟩ := send_run channel bytes w
  have hsnd := map_snd_offeredWrites bytes 0 answers
  refine ⟨offeredWrites bytes 0 answers, by rw [hrun], fun j hj => ?_, by rw [hrun, hsnd],
    by rw [hsnd]; exact sentAfter_le (Nat.zero_le _) answers, ?_⟩
  · -- the `j`-th write: what remains after the answers before it, which is never nothing
    have hj' : j < answers.length := by rwa [length_offeredWrites] at hj
    have hget := getElem?_offeredWrites bytes 0 answers j
    rw [List.getElem?_eq_getElem hj, List.getElem?_eq_getElem hj', Option.map_some,
      Option.some_inj] at hget
    rw [hget]
    refine ⟨by rw [List.map_take, hsnd], ?_⟩
    simp only [ne_eq, List.drop_eq_nil_iff, Nat.not_le]
    exact hans.sentAfter_take_lt j hj'
  · rw [flatten_taken (Nat.zero_le _), hsnd]
    simp

/-- **A send gives up only after a stall.** Whatever the gate answers, a send makes at most
`consoleStallTicks + 1` writes per byte, none for no bytes, and ticks once between each two writes
and never after the last. It answers the whole length unless its last `consoleStallTicks + 1`
writes took nothing, and then it answers less. No earlier stretch of writes took nothing that
often: a write that takes something starts the count again, and the send stops on the write that
completes the stretch. -/
theorem send_gives_up_only_after_a_stall (channel : UInt32) (bytes : Bytes) (w : Watched γ) :
    ∃ writes : List (Bytes × Nat),
      ((send channel bytes : StateM (Watched γ) Nat).run w).2.events =
          w.events ++ [GateEvent.tick].intercalate
            (writes.map fun x => [GateEvent.write channel x.1 x.2]) ∧
      writes.length ≤ (consoleStallTicks + 1) * bytes.length ∧
      (writes = [] ↔ bytes = []) ∧
      (((send channel bytes : StateM (Watched γ) Nat).run w).2.events.drop w.events.length).count
        .tick = writes.length - 1 ∧
      (((send channel bytes : StateM (Watched γ) Nat).run w).1 = bytes.length ↔
        ¬ List.replicate (consoleStallTicks + 1) 0 <:+ writes.map Prod.snd) ∧
      (List.replicate (consoleStallTicks + 1) 0 <:+ writes.map Prod.snd →
        ((send channel bytes : StateM (Watched γ) Nat).run w).1 < bytes.length) ∧
      ∀ j < writes.length,
        ¬ List.replicate (consoleStallTicks + 1) 0 <:+ (writes.take j).map Prod.snd := by
  obtain ⟨answers, g, hans, hrun⟩ := send_run channel bytes w
  have hsnd := map_snd_offeredWrites bytes 0 answers
  have hlen := length_offeredWrites bytes 0 answers
  -- ending in a stretch of fruitless writes is a stall count past `consoleStallTicks`
  have hstalled : ∀ l : List Nat, List.replicate (consoleStallTicks + 1) 0 <:+ l ↔
      consoleStallTicks < stallCount 0 l := fun l => replicate_suffix_iff _ l
  have hend := hans.sentAfter_eq_iff (Nat.zero_le _) (Nat.zero_le _)
  have hle := sentAfter_le (Nat.zero_le bytes.length) answers
  refine ⟨offeredWrites bytes 0 answers, by rw [hrun], ?_, ?_, ?_, ?_, ?_, ?_⟩
  · rw [hlen]
    simpa using hans.length_le (Nat.zero_le _)
  · rw [offeredWrites_eq_nil_iff, hans.eq_nil_iff, Nat.le_zero, List.length_eq_zero_iff]
  · rw [hrun, List.drop_left, count_tick_intercalate]
  · rw [hrun, hsnd, hstalled, hend, Nat.not_lt]
  · intro hstall
    rw [hsnd, hstalled, ← Nat.not_le, ← hend] at hstall
    rw [hrun]
    exact Nat.lt_of_le_of_ne hle hstall
  · intro j hj
    rw [List.map_take, hsnd, hstalled, Nat.not_lt]
    exact hans.stallCount_take_le (Nat.zero_le _) j (by omega)

end Send

end DeviceBoot
