import DeviceBoot.Proofs.Roots.Cycle
/-!
# A scanner runs one cycle at a time

A collector's calls may themselves ask for collections on the scanner they share, with collectors
of their own, any number of times and to any depth. `SharesScanner` says which code that is: code
whose own effects are those of the monad below the scanner's state, and collections whose
collectors' calls are such code again, put together in any order.

The flag is the scanner's whole state that such code can change, and the invariant is that it is
up exactly while an accepted cycle runs:

* `SharesScanner.keepsScanner`: such code leaves the scanner as it found it (`KeepsScanner`), by
  induction over how the code is built, one lemma per way of building it;
* `collectFrom_one_cycle_at_a_time`: a collection on a busy scanner is refused with no call and
  no change; on an idle one the cycle's calls run with the flag up, so every collection they ask
  for is refused, and the call returns normally with the flag down.
-/

namespace DeviceBoot

namespace RootScanner

variable {n : Type → Type} [Monad n]

/-- Code on the scanner's state that touches the scanner only by asking for collections on it:
its own effects, collections whose collectors' calls are such code, and sequences of these. -/
inductive SharesScanner : {α : Type} → StateT RootScanner n α → Prop
  /-- An effect of the monad below, which cannot see the scanner. -/
  | lift {α : Type} (x : n α) : SharesScanner (StateT.lift x)
  /-- One piece of such code after another. -/
  | bind {α β : Type} {x : StateT RootScanner n β} {f : β → StateT RootScanner n α} :
      SharesScanner x → (∀ b, SharesScanner (f b)) → SharesScanner (x >>= f)
  /-- A collection on the shared scanner, with a collector whose calls are such code. -/
  | collect (c : RootCollector (StateT RootScanner n)) (snapshot : RegisterSnapshot) :
      SharesScanner c.collectStart → (∀ words, SharesScanner (c.collectRoots words)) →
      (∀ start len, SharesScanner (c.collectRootRange start len)) → SharesScanner c.collectEnd →
      SharesScanner (@collectFrom n _ c snapshot)

/-- A collector whose every call touches the scanner only by asking for collections. -/
structure CallsShareScanner (c : RootCollector (StateT RootScanner n)) : Prop where
  collectStart : SharesScanner c.collectStart
  collectRoots : ∀ words, SharesScanner (c.collectRoots words)
  collectRootRange : ∀ start len, SharesScanner (c.collectRootRange start len)
  collectEnd : SharesScanner c.collectEnd

/-- `x` leaves the scanner as it found it, whatever it found. -/
def KeepsScanner {α : Type} (x : StateT RootScanner n α) : Prop :=
  ∀ s, x.run s = (fun a => (a, s)) <$> x.run' s

variable [LawfulMonad n]

namespace KeepsScanner

theorem lift {α : Type} (x : n α) : KeepsScanner (StateT.lift x : StateT RootScanner n α) := by
  intro s
  simp [StateT.run'_eq, StateT.run_lift]

theorem bind {α β : Type} {x : StateT RootScanner n β} {f : β → StateT RootScanner n α}
    (hx : KeepsScanner x) (hf : ∀ b, KeepsScanner (f b)) : KeepsScanner (x >>= f) := by
  intro s
  -- after `x` the scanner is `s` again, so `f` starts from `s` too
  have hrun : (x >>= f).run s = x.run' s >>= fun b => (fun a => (a, s)) <$> (f b).run' s := by
    rw [StateT.run_bind, hx s, bind_map_left]
    exact bind_congr fun b => hf b s
  rw [StateT.run'_eq, hrun]
  simp

/-- The calls of a cycle, made by a collector whose calls keep the scanner, keep it. -/
theorem cycle {c : RootCollector (StateT RootScanner n)}
    (hstart : KeepsScanner c.collectStart) (hroots : ∀ words, KeepsScanner (c.collectRoots words))
    (hrange : ∀ start len, KeepsScanner (c.collectRootRange start len))
    (hend : KeepsScanner c.collectEnd) (snapshot : RegisterSnapshot) (words : Nat) :
    KeepsScanner (@RootCollector.cycle _ _ c snapshot words) := by
  unfold RootCollector.cycle
  refine hstart.bind fun _ => (hroots _).bind fun _ => ?_
  split
  · exact (hrange _ _).bind fun _ => hend
  · exact hend

end KeepsScanner

/-- **A collection on an idle scanner, by a collector that keeps it.** The cycle's calls run with
the flag up and leave it up; the call returns normally with the flag down, the scanner as it was. -/
theorem collectFrom_run_of_keeps {c : RootCollector (StateT RootScanner n)}
    (hcycle : ∀ snapshot words, KeepsScanner (@RootCollector.cycle _ _ c snapshot words))
    (snapshot : RegisterSnapshot) {s : RootScanner} (hs : s.scanning = false) :
    (@collectFrom n _ c snapshot).run s =
      (fun _ => (.ok (), s)) <$>
        (@RootCollector.cycle _ _ c snapshot (s.stackWords snapshot.stackPointer)).run'
          { s with scanning := true } := by
  rw [collectFrom_run_of_idle snapshot hs, hcycle, Functor.map_map]
  simp only [lower_raise hs]

/-- A collection keeps the scanner, when its collector's calls do: refused, it changes nothing;
accepted, it lowers the flag it raised. -/
theorem KeepsScanner.collectFrom {c : RootCollector (StateT RootScanner n)}
    (hcycle : ∀ snapshot words, KeepsScanner (@RootCollector.cycle _ _ c snapshot words))
    (snapshot : RegisterSnapshot) : KeepsScanner (@RootScanner.collectFrom n _ c snapshot) := by
  intro s
  cases hs : s.scanning with
  | true => simp [StateT.run'_eq, collectFrom_busy snapshot s hs]
  | false =>
    rw [StateT.run'_eq, collectFrom_run_of_keeps hcycle snapshot hs]
    simp

/-- **Code that shares the scanner leaves it as it found it**, by induction over how the code is
built: effects of the monad below cannot see the scanner, sequences keep what their parts keep,
and a collection keeps it when its collector's calls do. -/
theorem SharesScanner.keepsScanner {α : Type} {x : StateT RootScanner n α}
    (hx : SharesScanner x) : KeepsScanner x := by
  induction hx with
  | lift x => exact KeepsScanner.lift x
  | bind _ _ ihx ihf => exact ihx.bind ihf
  | collect c snapshot _ _ _ _ ihstart ihroots ihrange ihend =>
    exact KeepsScanner.collectFrom (KeepsScanner.cycle ihstart ihroots ihrange ihend) snapshot

/-- **One cycle at a time.** Let the calls of a collector ask for collections on the scanner they
share, with collectors of their own, any number of times and to any depth. A collection on a busy
scanner is refused: no collector call, the flag as it was. A collection on an idle scanner runs the
cycle's calls with the flag up; every piece of code built that way leaves the flag as it found it,
so it stays up through the calls and every collection they ask for is refused; the call then
returns normally with the flag down and the scanner ready for the next cycle. -/
theorem collectFrom_one_cycle_at_a_time (c : RootCollector (StateT RootScanner n))
    (hc : CallsShareScanner c) (snapshot : RegisterSnapshot) (s : RootScanner) :
    (@collectFrom n _ c snapshot).run s =
        (if s.scanning then Pure.pure (.error .reentrant, s)
        else (fun _ => (.ok (), s)) <$>
          (@RootCollector.cycle _ _ c snapshot (s.stackWords snapshot.stackPointer)).run'
            { s with scanning := true }) ∧
      ∀ {α : Type} (x : StateT RootScanner n α), SharesScanner x →
        ∀ s', x.run s' = (fun a => (a, s')) <$> x.run' s' := by
  have hcycle : ∀ snapshot words, KeepsScanner (@RootCollector.cycle _ _ c snapshot words) :=
    KeepsScanner.cycle hc.collectStart.keepsScanner (fun _ => (hc.collectRoots _).keepsScanner)
      (fun _ _ => (hc.collectRootRange _ _).keepsScanner) hc.collectEnd.keepsScanner
  refine ⟨?_, fun x hx => hx.keepsScanner⟩
  cases hs : s.scanning with
  | true => exact collectFrom_busy snapshot s hs
  | false => exact collectFrom_run_of_keeps hcycle snapshot hs

theorem SharesScanner.pure {α : Type} (a : α) :
    SharesScanner (Pure.pure a : StateT RootScanner n α) := by
  have hlift : (Pure.pure a : StateT RootScanner n α) = StateT.lift (Pure.pure a) := by
    ext s
    simp [StateT.run_lift]
  rw [hlift]
  exact .lift _

theorem SharesScanner.forM {α : Type} (l : List α) {f : α → StateT RootScanner n PUnit}
    (hf : ∀ a, SharesScanner (f a)) : SharesScanner (l.forM f) := by
  induction l with
  | nil => exact .pure _
  | cons a rest ih => exact .bind (hf a) fun _ => ih

end RootScanner

namespace ScanRecorder

/-- The recorder's batch call shares the scanner: besides its log, it only asks for a collection. -/
theorem sharesScanner_takeBatch (words : List Word) :
    RootScanner.SharesScanner (takeBatch words) := by
  refine .bind (.lift _) fun _ => .bind (.lift get) fun r => ?_
  split
  · refine .bind (.collect _ _ (.lift _) (fun _ => .lift _) (fun _ _ => .lift _) (.lift _))
      fun _ => .lift _
  · exact .pure _

theorem callsShareScanner : RootScanner.CallsShareScanner collector where
  collectStart := .lift (modify fun (r : ScanRecorder) => { r with log := r.log ++ [.start] })
  collectRoots := sharesScanner_takeBatch
  collectRootRange _ _ := .bind (.lift get) fun _ => .forM _ sharesScanner_takeBatch
  collectEnd := .lift (modify fun (r : ScanRecorder) => { r with log := r.log ++ [.finish] })

end ScanRecorder

/-- The bench's recorder, armed, asks for a collection from inside its first batch: the cycle
runs whole, the nested request is refused, and the scanner is idle again. -/
theorem recorder_nested_request_refused :
    RootScanner.CallsShareScanner ScanRecorder.collector ∧
      ((RootScanner.collectFrom ⟨[1, 2], 64⟩ : StateT RootScanner (StateM ScanRecorder) _).run
          ⟨64, false⟩).run { memory := fun _ => 0, reentrant := true } =
        ((.ok (), ⟨64, false⟩),
          { memory := fun _ => 0, reentrant := true, nestedDone := true,
            log := [.start, .roots [1, 2], .nested (some .reentrant), .finish] }) := by
  refine ⟨ScanRecorder.callsShareScanner, ?_⟩
  rw [(RootScanner.collectFrom_one_cycle_at_a_time _ ScanRecorder.callsShareScanner _ _).1]
  rfl

end DeviceBoot
