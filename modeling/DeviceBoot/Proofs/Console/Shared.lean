import Mathlib
import DeviceBoot.Proofs.Console.Segments
import DeviceBoot.Proofs.Boot.Transcript
import DeviceBoot.Device.Hooks
/-!
# The shared console across a program

A program makes any sequence of calls on the shared console (`SharedConsole.Call`): installations,
prints, writes and flushes. Only the first installation counts. Every call before it does nothing
(`performAll_uninstalled_append`); from it on, every call runs on the console it installed, through
its gate and on its channel, and a later installation answers `false` and changes nothing.

What an installed console sends follows the console's law one call at a time (`Step`, `Sends`):
printed and written bytes are cut into lines and full buffers (`Console.Staging`), and a flush
sends what is staged. `perform_installed` proves that each call does so, in every monad and
whatever its gates, and `performAll_installed` follows a sequence of calls by induction.

The boot sequence flushes the shared console before it reports and before it asks to exit.
`ConsoleBoard` runs the device program's globals on a board whose gate takes every write whole,
so the order in which bytes reach the gate can be read off its log (`ConsoleBoard.report_run`,
`ConsoleBoard.shutdown_run`).

Main statement: `shared_console_follows_first_install`.
-/

namespace DeviceBoot

namespace SharedConsole

/-- A call a program makes on the shared console. -/
inductive Call (G : Type) where
  | install (gate : G) (channel : UInt32)
  | print (text : String)
  | write (bytes : Bytes)
  | tryFlush
  deriving DecidableEq, Repr

namespace Call

variable {G : Type}

/-- Whether a call installs a console. -/
def isInstall : Call G → Bool
  | .install .. => true
  | _ => false

/-- The bytes a call stages: a print's text in UTF-8, a write's bytes, nothing otherwise. -/
def bytes : Call G → Bytes
  | .print text => text.toUTF8.toList
  | .write bytes => bytes
  | _ => []

/-- The first installation among calls: its gate and channel, and the calls after it. -/
def firstInstall : List (Call G) → Option (G × UInt32 × List (Call G))
  | [] => none
  | c :: rest =>
    match c with
    | .install gate channel => some (gate, channel, rest)
    | _ => firstInstall rest

theorem isInstall_of_firstInstall_none {calls : List (Call G)} (h : firstInstall calls = none) :
    ∀ c ∈ calls, c.isInstall = false := by
  induction calls with
  | nil => simp
  | cons c rest ih =>
    cases c with
    | install gate channel => simp [firstInstall] at h
    | print text | write bytes | tryFlush => exact List.forall_mem_cons.mpr ⟨rfl, ih h⟩

/-- Calls split at their first installation. -/
theorem eq_append_of_firstInstall {calls post : List (Call G)} {gate : G} {channel : UInt32}
    (h : firstInstall calls = some (gate, channel, post)) :
    ∃ pre, calls = pre ++ .install gate channel :: post ∧ ∀ c ∈ pre, c.isInstall = false := by
  induction calls with
  | nil => simp [firstInstall] at h
  | cons c rest ih =>
    cases c with
    | install g ch =>
      simp only [firstInstall, Option.some.injEq, Prod.mk.injEq] at h
      obtain ⟨rfl, rfl, rfl⟩ := h
      exact ⟨[], rfl, by simp⟩
    | print text | write bytes | tryFlush =>
      obtain ⟨pre, rfl, hpre⟩ := ih h
      exact ⟨_ :: pre, rfl, List.forall_mem_cons.mpr ⟨rfl, hpre⟩⟩

/-- Printing before any installation, then installing twice: the first installation splits the
calls. -/
example : firstInstall ([.print "early", .install () 1, .install () 2] : List (Call Unit)) =
    some ((), 1, [.install () 2]) := rfl

end Call

variable {G : Type}

section Run

variable {m : Type → Type} [Monad m] [GateRefs G m]

/-- Make one call; an installation answers whether it took effect. -/
def perform (s : SharedConsole G) : Call G → m (Option Bool × SharedConsole G)
  | .install gate channel =>
    let (done, s) := s.install gate channel
    pure (some done, s)
  | .print text => do return (none, ← s.print text)
  | .write bytes => do return (none, ← s.write bytes)
  | .tryFlush => do return (none, ← s.tryFlush)

/-- Make calls one after another; answer what the installations answered, in order. -/
def performAll (s : SharedConsole G) : List (Call G) → m (List Bool × SharedConsole G)
  | [] => pure ([], s)
  | c :: cs => do
    let (a, s) ← s.perform c
    let (as, s) ← s.performAll cs
    pure (a.toList ++ as, s)

/-- Send segments one after another on `channel`, through the gate named `gate`. -/
def sendVia (gate : G) (channel : UInt32) (segments : List Bytes) : m Unit :=
  @Console.sendEach m _ (GateRefs.gate gate) channel segments

@[simp] theorem sendVia_nil (gate : G) (channel : UInt32) :
    (sendVia gate channel [] : m Unit) = pure () := rfl

theorem sendVia_append [LawfulMonad m] (gate : G) (channel : UInt32) (segs segs' : List Bytes) :
    (sendVia gate channel (segs ++ segs') : m Unit) =
      (do sendVia gate channel segs; sendVia gate channel segs') :=
  @Console.sendEach_append m _ (GateRefs.gate gate) _ channel segs segs'

end Run

/-- What one call does to the bytes an installed console has staged: the segments it sends and
the bytes it leaves staged. Printed and written bytes are cut by the console's law
(`Console.Staging`), a flush sends what is staged, and an installation changes nothing. -/
inductive Step : Bytes → Call G → List Bytes → Bytes → Prop
  | install {buffer : Bytes} (gate : G) (channel : UInt32) :
      Step buffer (.install gate channel) [] buffer
  | print {buffer kept : Bytes} {segs : List Bytes} (text : String) :
      Console.Staging buffer text.toUTF8.toList segs kept → Step buffer (.print text) segs kept
  | write {buffer kept : Bytes} {segs : List Bytes} (bytes : Bytes) :
      Console.Staging buffer bytes segs kept → Step buffer (.write bytes) segs kept
  | tryFlush {buffer : Bytes} : Step buffer .tryFlush [buffer] []

/-- Calls one after another on an installed console: `Sends buffer calls segs kept` when, from
`buffer` staged, the calls send `segs` and leave `kept` staged. -/
inductive Sends : Bytes → List (Call G) → List Bytes → Bytes → Prop
  | nil {buffer : Bytes} : Sends buffer [] [] buffer
  | cons {buffer staged kept : Bytes} {c : Call G} {calls : List (Call G)}
      {segs₁ segs₂ : List Bytes} :
      Step buffer c segs₁ staged → Sends staged calls segs₂ kept →
        Sends buffer (c :: calls) (segs₁ ++ segs₂) kept

namespace Step

variable {buffer kept : Bytes} {c : Call G} {segs : List Bytes}

theorem flatten_append (h : Step buffer c segs kept) : segs.flatten ++ kept = buffer ++ c.bytes := by
  cases h with
  | install => simp [Call.bytes]
  | print text hs => exact hs.flatten_append
  | write bytes hs => exact hs.flatten_append
  | tryFlush => simp [Call.bytes]

theorem staged (hb : Console.Staged buffer) (h : Step buffer c segs kept) : Console.Staged kept := by
  cases h with
  | install => exact hb
  | print text hs => exact hs.staged
  | write bytes hs => exact hs.staged
  | tryFlush => exact Console.staged_nil

/-- Every segment a call sends is at most a buffer: a line or a full buffer, or what a flush
found staged, which holds no newline. -/
theorem segments (hb : Console.Staged buffer) (h : Step buffer c segs kept) :
    ∀ g ∈ segs, g.length ≤ consoleBufferSize ∧ (Console.Closed g ∨ Console.newline ∉ g) := by
  cases h with
  | install => simp
  | print text hs => exact fun g hg => ⟨(hs.closed g hg).1, .inl (hs.closed g hg).2⟩
  | write bytes hs => exact fun g hg => ⟨(hs.closed g hg).1, .inl (hs.closed g hg).2⟩
  | tryFlush =>
    intro g hg
    rw [List.mem_singleton] at hg
    subst hg
    exact ⟨hb.1, .inr hb.2⟩

end Step

namespace Sends

variable {buffer kept : Bytes} {calls : List (Call G)} {segs : List Bytes}

/-- Nothing is lost and nothing repeated: the segments and what stays staged are the staged
bytes followed by every byte the calls stage, in order. -/
theorem flatten_append (h : Sends buffer calls segs kept) :
    segs.flatten ++ kept = buffer ++ (calls.map Call.bytes).flatten := by
  induction h with
  | nil => simp
  | @cons buffer staged kept c calls segs₁ segs₂ hstep _ ih =>
    calc (segs₁ ++ segs₂).flatten ++ kept
        = segs₁.flatten ++ (segs₂.flatten ++ kept) := by simp
      _ = (segs₁.flatten ++ staged) ++ (calls.map Call.bytes).flatten := by
        rw [ih, List.append_assoc]
      _ = buffer ++ ((c :: calls).map Call.bytes).flatten := by
        rw [hstep.flatten_append]; simp

theorem segments (hb : Console.Staged buffer) (h : Sends buffer calls segs kept) :
    ∀ g ∈ segs, g.length ≤ consoleBufferSize ∧ (Console.Closed g ∨ Console.newline ∉ g) := by
  induction h with
  | nil => simp
  | cons hstep _ ih =>
    intro g hg
    rcases List.mem_append.mp hg with hg | hg
    · exact hstep.segments hb g hg
    · exact ih (hstep.staged hb) g hg

end Sends

section Laws

variable {m : Type → Type} [Monad m] [LawfulMonad m] [GateRefs G m]

theorem perform_uninstalled {c : Call G} (hc : c.isInstall = false) :
    ((⟨none⟩ : SharedConsole G).perform c : m _) = pure (none, ⟨none⟩) := by
  cases c with
  | install => simp [Call.isInstall] at hc
  | print text => simp [perform, print, write]
  | write bytes => simp [perform, write]
  | tryFlush => simp [perform, tryFlush]

/-- Calls before the first installation do nothing at all. -/
theorem performAll_uninstalled_append (pre calls : List (Call G))
    (hpre : ∀ c ∈ pre, c.isInstall = false) :
    ((⟨none⟩ : SharedConsole G).performAll (pre ++ calls) : m _) =
      (⟨none⟩ : SharedConsole G).performAll calls := by
  induction pre with
  | nil => rfl
  | cons c pre ih =>
    rw [List.cons_append, performAll, perform_uninstalled (hpre c List.mem_cons_self), pure_bind]
    dsimp only
    rw [ih fun c hc => hpre c (List.mem_cons_of_mem _ hc)]
    simp

/-- Staging bytes on an installed console sends the segments of `Console.Staging` through its
gate and on its channel. -/
theorem write_installed (gate : G) (channel : UInt32) (buffer : Bytes)
    (hb : Console.Staged buffer) (bytes : Bytes) :
    ∃ segs kept, Console.Staging buffer bytes segs kept ∧
      ∀ (m : Type → Type) [Monad m] [LawfulMonad m] [GateRefs G m],
        ((⟨some (gate, ⟨channel, buffer⟩)⟩ : SharedConsole G).write bytes : m _) =
          sendVia gate channel segs *> pure ⟨some (gate, ⟨channel, kept⟩)⟩ := by
  obtain ⟨segs, kept, hs, hrun⟩ := Console.writeBytes_segments ⟨channel, buffer⟩ bytes hb
  refine ⟨segs, kept, hs, fun m _ _ _ => ?_⟩
  simp only [write]
  rw [@hrun m _ _ (GateRefs.gate gate)]
  simp [sendVia, seqRight_eq]

theorem tryFlush_installed (gate : G) (c : Console) :
    ((⟨some (gate, c)⟩ : SharedConsole G).tryFlush : m _) =
      sendVia gate c.channel [c.buffer] *> pure ⟨some (gate, ⟨c.channel, []⟩)⟩ := by
  simp only [tryFlush]
  rw [@Console.flush_eq m _ (GateRefs.gate gate)]
  simp [sendVia, seqRight_eq]

/-- A call on an installed console sends what `Step` says through the console's gate and
channel, and keeps both. -/
theorem perform_installed (gate : G) (channel : UInt32) (buffer : Bytes)
    (hb : Console.Staged buffer) (c : Call G) :
    ∃ segs kept, Step buffer c segs kept ∧
      ∀ (m : Type → Type) [Monad m] [LawfulMonad m] [GateRefs G m],
        ((⟨some (gate, ⟨channel, buffer⟩)⟩ : SharedConsole G).perform c : m _) =
          sendVia gate channel segs *>
            pure (if c.isInstall then some false else none, ⟨some (gate, ⟨channel, kept⟩)⟩) := by
  cases c with
  | install g ch =>
    exact ⟨[], buffer, .install g ch, fun m _ _ _ => by
      simp [perform, install, sendVia, Call.isInstall, seqRight_eq]⟩
  | print text =>
    obtain ⟨segs, kept, hs, hrun⟩ := write_installed gate channel buffer hb text.toUTF8.toList
    refine ⟨segs, kept, .print text hs, fun m _ _ _ => ?_⟩
    simp only [perform, print]
    rw [hrun m]
    simp [Call.isInstall, seqRight_eq]
  | write bytes =>
    obtain ⟨segs, kept, hs, hrun⟩ := write_installed gate channel buffer hb bytes
    refine ⟨segs, kept, .write bytes hs, fun m _ _ _ => ?_⟩
    simp only [perform]
    rw [hrun m]
    simp [Call.isInstall, seqRight_eq]
  | tryFlush =>
    refine ⟨[buffer], [], .tryFlush, fun m _ _ _ => ?_⟩
    simp only [perform]
    rw [tryFlush_installed]
    simp [Call.isInstall, seqRight_eq]

/-- Without an installation, calls do nothing. -/
theorem performAll_uninstalled {calls : List (Call G)} (h : Call.firstInstall calls = none) :
    ((⟨none⟩ : SharedConsole G).performAll calls : m _) = pure ([], ⟨none⟩) := by
  rw [← List.append_nil calls,
    performAll_uninstalled_append calls [] (Call.isInstall_of_firstInstall_none h)]
  rfl

/-- **Calls on an installed console**, by induction over them: in every monad, whatever its
gates, they send the segments `Sends` describes through the console's gate and on its channel,
every further installation answers `false`, and gate and channel stay. -/
theorem performAll_installed (gate : G) (channel : UInt32) (calls : List (Call G))
    (buffer : Bytes) (hb : Console.Staged buffer) :
    ∃ segs kept, Sends buffer calls segs kept ∧
      ∀ (m : Type → Type) [Monad m] [LawfulMonad m] [GateRefs G m],
        ((⟨some (gate, ⟨channel, buffer⟩)⟩ : SharedConsole G).performAll calls : m _) =
          sendVia gate channel segs *>
            pure (List.replicate (calls.countP Call.isInstall) false,
              ⟨some (gate, ⟨channel, kept⟩)⟩) := by
  induction calls generalizing buffer with
  | nil => exact ⟨[], buffer, .nil, fun m _ _ _ => by simp [performAll, seqRight_eq]⟩
  | cons c calls ih =>
    obtain ⟨segs₁, staged, hstep, hrun₁⟩ := perform_installed gate channel buffer hb c
    obtain ⟨segs₂, kept, hsends, hrun₂⟩ := ih staged (hstep.staged hb)
    refine ⟨segs₁ ++ segs₂, kept, .cons hstep hsends, fun m _ _ _ => ?_⟩
    -- an installation adds one `false` to the answers, any other call none
    have hanswers : (if c.isInstall then some false else none).toList ++
        List.replicate (calls.countP Call.isInstall) false =
          List.replicate ((c :: calls).countP Call.isInstall) false := by
      cases hc : c.isInstall <;> simp [hc, List.replicate_succ]
    rw [performAll, hrun₁ m, seqRight_eq_bind, bind_assoc, pure_bind]
    dsimp only
    rw [hrun₂ m, sendVia_append, ← hanswers]
    simp [seqRight_eq]

/-- **The first installation decides.** What comes before it does nothing; it answers `true`,
and the calls after it run on the console it installed, empty at first. -/
theorem performAll_first_install {calls post : List (Call G)} {gate : G} {channel : UInt32}
    (h : Call.firstInstall calls = some (gate, channel, post)) :
    ∃ segs kept, Sends [] post segs kept ∧
      ∀ (m : Type → Type) [Monad m] [LawfulMonad m] [GateRefs G m],
        ((⟨none⟩ : SharedConsole G).performAll calls : m _) =
          sendVia gate channel segs *>
            pure (true :: List.replicate (post.countP Call.isInstall) false,
              ⟨some (gate, ⟨channel, kept⟩)⟩) := by
  obtain ⟨pre, rfl, hpre⟩ := Call.eq_append_of_firstInstall h
  obtain ⟨segs, kept, hsends, hrun⟩ :=
    performAll_installed gate channel post [] Console.staged_nil
  refine ⟨segs, kept, hsends, fun m _ _ _ => ?_⟩
  rw [performAll_uninstalled_append pre _ hpre, performAll]
  simp only [perform, install, pure_bind]
  rw [hrun m]
  simp [seqRight_eq]

end Laws

end SharedConsole

/-! ## The shared console when the boot sequence reports -/

/-- The device program on a board whose gate takes every write whole: the gate's log and the
program's globals, whose shared console the boot sequence flushes before it reports. -/
def ConsoleBoard : Type := LoggedBoard Globals

namespace ConsoleBoard

instance : GateModel ConsoleBoard := inferInstanceAs (GateModel (LoggedBoard Globals))

instance : MonadStateOf Globals (StateM ConsoleBoard) where
  get s := pure (LoggedBoard.runtime s, s)
  set g s := pure ((), (⟨LoggedBoard.log s, g⟩ : LoggedBoard Globals))
  modifyGet f s :=
    pure ((f (LoggedBoard.runtime s)).1,
      (⟨LoggedBoard.log s, (f (LoggedBoard.runtime s)).2⟩ : LoggedBoard Globals))

instance : Board (StateM ConsoleBoard) where
  zeroRegion _ := pure ()
  flushSharedConsole := Globals.tryFlush

/-- Flushing the installed shared console writes what it staged, on its own channel. -/
theorem tryFlush_run (L : List GateEvent) (gl : Globals) (c : Console)
    (h : gl.console = ⟨some ((), c)⟩) :
    (Globals.tryFlush : StateM ConsoleBoard Unit).run (⟨L, gl⟩ : LoggedBoard Globals) =
      ((), (⟨L ++ LoggedBoard.written c.channel c.buffer,
        { gl with console := ⟨some ((), ⟨c.channel, []⟩)⟩ }⟩ : LoggedBoard Globals)) := by
  unfold Globals.tryFlush
  have hget : (getThe Globals : StateM ConsoleBoard Globals).run (⟨L, gl⟩ : LoggedBoard Globals) =
      (gl, (⟨L, gl⟩ : LoggedBoard Globals)) := rfl
  have hflush : (c.flush : StateM ConsoleBoard Console).run (⟨L, gl⟩ : LoggedBoard Globals) =
      (⟨c.channel, []⟩, (⟨L ++ LoggedBoard.written c.channel c.buffer, gl⟩ : LoggedBoard Globals)) :=
    LoggedBoard.flush_run L gl c
  rw [LoggedBoard.run_bind_of_run hget, h]
  simp only [SharedConsole.tryFlush]
  rw [bind_assoc, LoggedBoard.run_bind_of_run hflush]
  rfl

theorem flushSharedConsole_eq :
    (Board.flushSharedConsole : StateM ConsoleBoard Unit) = Globals.tryFlush := rfl

/-- A text emitted on a fresh console is written whole, the globals untouched. -/
theorem emit_run (channel : UInt32) (text : String) :
    ∃ es, LoggedBoard.Carries channel es text.toUTF8.toList ∧ ∀ (L : List GateEvent) (gl : Globals),
      (Console.emit channel text : StateM ConsoleBoard Unit).run (⟨L, gl⟩ : LoggedBoard Globals) =
        ((), (⟨L ++ es, gl⟩ : LoggedBoard Globals)) :=
  LoggedBoard.emit_run channel text

theorem exit_run (L : List GateEvent) (gl : Globals) :
    (SerialGate.requestExit : StateM ConsoleBoard Unit).run (⟨L, gl⟩ : LoggedBoard Globals) =
      ((), (⟨L ++ [.exit], gl⟩ : LoggedBoard Globals)) :=
  LoggedBoard.exit_run L gl

/-- **A report comes after what the shared console staged.** Whatever is staged on the installed
shared console is written on its channel before the line saying why the program halted. -/
theorem report_run (config : BootConfig) (reason : String) :
    ∃ es, LoggedBoard.Carries config.stdioChannel es (haltedLine (some reason)).toUTF8.toList ∧
      ∀ (L : List GateEvent) (gl : Globals) (c : Console), gl.console = ⟨some ((), c)⟩ →
        (config.report reason : StateM ConsoleBoard Unit).run (⟨L, gl⟩ : LoggedBoard Globals) =
          ((), (⟨L ++ LoggedBoard.written c.channel c.buffer ++ es,
            { gl with console := ⟨some ((), ⟨c.channel, []⟩)⟩ }⟩ : LoggedBoard Globals)) := by
  obtain ⟨es, hc, hrun⟩ := emit_run config.stdioChannel s!"[BOOT] program halted: {reason}\n"
  refine ⟨es, hc, fun L gl c h => ?_⟩
  unfold BootConfig.report
  rw [flushSharedConsole_eq, LoggedBoard.run_bind_of_run (tryFlush_run L gl c h)]
  exact hrun _ _

/-- **The exit request comes after what the shared console staged**, and after the closing line
when verbose; it is the last thing the gate sees. -/
theorem shutdown_run (h : Halted) :
    ∃ es, LoggedBoard.Carries h.config.stdioChannel es
        (if h.config.verbose then "[BOOT] " ++ h.phase.name ++ ", requesting exit\n"
          else "").toUTF8.toList ∧
      ∀ (L : List GateEvent) (gl : Globals) (c : Console), gl.console = ⟨some ((), c)⟩ →
        (h.shutdown : StateM ConsoleBoard Unit).run (⟨L, gl⟩ : LoggedBoard Globals) =
          ((), (⟨L ++ LoggedBoard.written c.channel c.buffer ++ es ++ [.exit],
            { gl with console := ⟨some ((), ⟨c.channel, []⟩)⟩ }⟩ : LoggedBoard Globals)) := by
  unfold Halted.shutdown
  cases hv : h.config.verbose with
  | false =>
    refine ⟨[], by simpa using LoggedBoard.carries_nil h.config.stdioChannel, fun L gl c hc => ?_⟩
    rw [flushSharedConsole_eq, LoggedBoard.run_bind_of_run (tryFlush_run L gl c hc)]
    simp only [Bool.false_eq_true, ↓reduceIte, List.append_nil]
    exact exit_run _ _
  | true =>
    obtain ⟨es, hes, hrun⟩ :=
      emit_run h.config.stdioChannel s!"[BOOT] {h.phase.name}, requesting exit\n"
    refine ⟨es, by rw [if_pos rfl]; exact hes, fun L gl c hc => ?_⟩
    rw [flushSharedConsole_eq, LoggedBoard.run_bind_of_run (tryFlush_run L gl c hc)]
    simp only [↓reduceIte]
    rw [LoggedBoard.run_bind_of_run (hrun _ _)]
    exact exit_run _ _

end ConsoleBoard

section

open SharedConsole

/-- **The shared console, across a program.** Calls made before the first installation do nothing,
and reach no gate. The first installation answers `true` and every later one `false`; from then on
gate and channel are the first installation's, and what is printed and written after it reaches
that gate on that channel as the segments of the console's law, in order: a line at its newline,
a full buffer, or what a flush finds staged, nothing lost or repeated. A report or a shutdown of the
boot sequence writes what the device's shared console has staged before its own line, and before
the one exit request, which comes last. -/
theorem shared_console_follows_first_install {G : Type} (calls : List (Call G)) :
    (match Call.firstInstall calls with
      | none => ∀ (m : Type → Type) [Monad m] [LawfulMonad m] [GateRefs G m],
          ((⟨none⟩ : SharedConsole G).performAll calls : m _) = pure ([], ⟨none⟩)
      | some (gate, channel, post) => ∃ segs kept, Sends [] post segs kept ∧
          segs.flatten ++ kept = (post.map Call.bytes).flatten ∧
          (∀ g ∈ segs, g.length ≤ consoleBufferSize ∧ (Console.Closed g ∨ Console.newline ∉ g)) ∧
          ∀ (m : Type → Type) [Monad m] [LawfulMonad m] [GateRefs G m],
            ((⟨none⟩ : SharedConsole G).performAll calls : m _) =
              sendVia gate channel segs *>
                pure (true :: List.replicate (post.countP Call.isInstall) false,
                  ⟨some (gate, ⟨channel, kept⟩)⟩)) ∧
    (∀ (config : BootConfig) (reason : String), ∃ es,
      LoggedBoard.Carries config.stdioChannel es (haltedLine (some reason)).toUTF8.toList ∧
      ∀ (L : List GateEvent) (gl : Globals) (c : Console), gl.console = ⟨some ((), c)⟩ →
        (config.report reason : StateM ConsoleBoard Unit).run (⟨L, gl⟩ : LoggedBoard Globals) =
          ((), (⟨L ++ LoggedBoard.written c.channel c.buffer ++ es,
            { gl with console := ⟨some ((), ⟨c.channel, []⟩)⟩ }⟩ : LoggedBoard Globals))) ∧
    (∀ h : Halted, ∃ es, LoggedBoard.Carries h.config.stdioChannel es
        (if h.config.verbose then "[BOOT] " ++ h.phase.name ++ ", requesting exit\n"
          else "").toUTF8.toList ∧
      ∀ (L : List GateEvent) (gl : Globals) (c : Console), gl.console = ⟨some ((), c)⟩ →
        (h.shutdown : StateM ConsoleBoard Unit).run (⟨L, gl⟩ : LoggedBoard Globals) =
          ((), (⟨L ++ LoggedBoard.written c.channel c.buffer ++ es ++ [.exit],
            { gl with console := ⟨some ((), ⟨c.channel, []⟩)⟩ }⟩ : LoggedBoard Globals))) := by
  refine ⟨?_, ConsoleBoard.report_run, ConsoleBoard.shutdown_run⟩
  cases h : Call.firstInstall calls with
  | none => exact fun m _ _ _ => performAll_uninstalled h
  | some installed =>
    obtain ⟨gate, channel, post⟩ := installed
    obtain ⟨segs, kept, hsends, hrun⟩ := performAll_first_install h
    -- the console starts empty, so the segments and the rest are the bytes staged after it
    have hflat : segs.flatten ++ kept = (post.map Call.bytes).flatten := by
      simpa using hsends.flatten_append
    exact ⟨segs, kept, hsends, hflat, hsends.segments Console.staged_nil, hrun⟩

end

end DeviceBoot
