import DeviceBoot.Proofs.Bundle.Layout
/-!
# What parsing a bundle decides

`Bundle.check` is the reference decision, written over the layout of `Bundle.Layout` with
unbounded numbers: the five checks in their order (short header, magic, short header again, room
for the length records, every module inside the bundle), the last one naming the first record
that overruns. `parse_eq_check` shows that `Bundle.parse`, with its running cursors, decides exactly
this, and `parse_iff` reads the accepted bundles off it.

A parsed bundle then answers every question from its layout: it yields module `i` for every record
`i`, in order (`modules_of_parse`); `find` and `entryModule` take the least matching index; and
`selectEntry` falls back to the built-in program exactly when the linked bytes have no magic.
-/

namespace DeviceBoot

namespace Bundle

@[simp] theorem error_bind {ε α β : Type} (e : ε) (f : α → Except ε β) :
    (Except.error e >>= f) = .error e := rfl

@[simp] theorem ok_bind {ε α β : Type} (a : α) (f : α → Except ε β) :
    (Except.ok a >>= f) = f a := rfl

@[simp] theorem throw_eq {ε α : Type} (e : ε) : (throw e : Except ε α) = .error e := rfl

@[simp] theorem pure_eq {ε α : Type} (a : α) : (pure a : Except ε α) = .ok a := rfl

/-- **The reference decision.** The header checks in their order, then the first record whose name
or bytecode does not lie inside the bundle; a bundle that passes is its header. -/
def check (bytes : Bytes) : Except TableError Bundle :=
  if bytes.length < 4 then .error (.truncated bytes.length)
  else if wordAt bytes 0 ≠ bundleMagic then .error (.badMagic bundleMagic (wordAt bytes 0))
  else if bytes.length < headerLen then .error (.truncated bytes.length)
  else if (wordAt bytes 12).toNat > (bytes.length - headerLen) / recordLen then
    .error (.tooManyModules (wordAt bytes 12) ((bytes.length - headerLen) / recordLen))
  else
    match (header bytes).firstOverrun with
    | some i => .error ((header bytes).overrunError i)
    | none => .ok (header bytes)

/-- A bundle the device can use: a whole header with the magic, room for every length record, and
every module's name and bytecode inside the bytes. -/
def Accepts (bytes : Bytes) : Prop :=
  headerLen ≤ bytes.length ∧ wordAt bytes 0 = bundleMagic ∧ (header bytes).HasRoom ∧
    (header bytes).Fits

instance (bytes : Bytes) : Decidable (Accepts bytes) := inferInstanceAs (Decidable (_ ∧ _ ∧ _ ∧ _))

theorem word_of_le {bytes : Bytes} {k : Nat} (h : k + 4 ≤ bytes.length) :
    word bytes k = .ok (wordAt bytes k) := by
  simp [word, read32?_of_le h]

theorem word_of_lt {bytes : Bytes} {k : Nat} (h : bytes.length < k + 4) :
    word bytes k = .error (.truncated bytes.length) := by
  simp [word, read32?_of_lt h]

@[simp] theorem header_bytes (bytes : Bytes) : (header bytes).bytes = bytes := rfl

@[simp] theorem header_count (bytes : Bytes) : (header bytes).count = wordAt bytes 12 := rfl

/-- **Parsing is the reference decision.** -/
theorem parse_eq_check (bytes : Bytes) : parse bytes = check bytes := by
  by_cases h4 : bytes.length < 4
  · simp [parse, check, h4, word_of_lt h4]
  rw [parse, word_of_le (by omega)]
  by_cases hmagic : wordAt bytes 0 ≠ bundleMagic
  · simp [check, h4, hmagic]
  rw [Decidable.not_not] at hmagic
  by_cases h16 : bytes.length < headerLen
  · simp [check, h4, hmagic, h16]
  have h16' : 16 ≤ bytes.length := by simp only [headerLen] at h16; omega
  have hpools : word bytes 4 = .ok (wordAt bytes 4) ∧ word bytes 8 = .ok (wordAt bytes 8) ∧
      word bytes 12 = .ok (wordAt bytes 12) :=
    ⟨word_of_le (by omega), word_of_le (by omega), word_of_le (by omega)⟩
  have hheader : (⟨bytes, (wordAt bytes 4).toNat, (wordAt bytes 8).toNat, wordAt bytes 12⟩ : Bundle) =
      header bytes := rfl
  simp only [hmagic, h16, hpools, ok_bind, ne_eq, not_true_eq_false, if_false, hheader]
  by_cases hroom : (header bytes).HasRoom
  · have hroom' : ¬ (wordAt bytes 12).toNat > (bytes.length - headerLen) / recordLen :=
      Nat.not_lt.mpr hroom
    rw [walk_error_eq hroom]
    simp only [check, h4, hmagic, h16, hroom', if_false, ne_eq, not_true_eq_false]
    cases (header bytes).firstOverrun <;> rfl
  · have hroom' : (wordAt bytes 12).toNat > (bytes.length - headerLen) / recordLen := by
      simpa [HasRoom] using hroom
    simp [check, h4, hmagic, h16, hroom']

/-- The bytes a bundle parses to are its header, and only accepted bytes parse. -/
theorem check_eq_ok_iff (bytes : Bytes) (t : Bundle) :
    check bytes = .ok t ↔ Accepts bytes ∧ t = header bytes := by
  unfold check Accepts
  by_cases h4 : bytes.length < 4
  · have : ¬ headerLen ≤ bytes.length := by simp only [headerLen]; omega
    simp [h4, this]
  by_cases hmagic : wordAt bytes 0 ≠ bundleMagic
  · simp [h4, hmagic]
  rw [Decidable.not_not] at hmagic
  by_cases h16 : bytes.length < headerLen
  · simp [h4, hmagic, h16, Nat.not_le.mpr h16]
  by_cases hroom : (header bytes).HasRoom
  · have hroom' : ¬ (wordAt bytes 12).toNat > (bytes.length - headerLen) / recordLen :=
      Nat.not_lt.mpr hroom
    simp only [h4, hmagic, h16, hroom', hroom, if_false, ne_eq, not_true_eq_false, true_and,
      Nat.not_lt.mp h16]
    -- the verdict is the first overrun, which is absent exactly when every module fits
    cases hfirst : (header bytes).firstOverrun with
    | some i =>
      have hbad : ¬ (header bytes).Fits := fun h => by
        rw [← firstOverrun_eq_none_iff, hfirst] at h
        cases h
      simp [hbad]
    | none =>
      have hfit : (header bytes).Fits := firstOverrun_eq_none_iff.mp hfirst
      simp only [Except.ok.injEq, hfit, true_and]
      exact eq_comm
  · have hroom' : (wordAt bytes 12).toNat > (bytes.length - headerLen) / recordLen := by
      simpa [HasRoom] using hroom
    simp [h4, hmagic, h16, hroom', hroom]

theorem parse_eq_ok_iff (bytes : Bytes) (t : Bundle) :
    parse bytes = .ok t ↔ Accepts bytes ∧ t = header bytes := by
  rw [parse_eq_check, check_eq_ok_iff]

/-- **Parsing against the reference.** `parse` decides what `check` decides, with unbounded
numbers; so it accepts exactly the bundles whose every name and bytecode lies inside the bytes. -/
theorem parse_eq_reference (bytes : Bytes) :
    parse bytes = check bytes ∧ ((∃ t, parse bytes = .ok t) ↔ Accepts bytes) := by
  refine ⟨parse_eq_check bytes, ?_⟩
  constructor
  · rintro ⟨t, ht⟩
    exact ((parse_eq_ok_iff bytes t).mp ht).1
  · intro h
    exact ⟨header bytes, (parse_eq_ok_iff bytes _).mpr ⟨h, rfl⟩⟩

/-! ## A parsed bundle -/

variable {b : Bundle}

/-- The least index of a module with this name. -/
def firstNamed (b : Bundle) (name : Bytes) : Option Nat :=
  (List.range b.count.toNat).find? fun i => (b.moduleAt i).name == name

/-- `firstNamed` is the least index with the name. -/
theorem firstNamed_eq_some_iff {name : Bytes} {i : Nat} :
    b.firstNamed name = some i ↔
      i < b.count.toNat ∧ (b.moduleAt i).name = name ∧ ∀ j < i, (b.moduleAt j).name ≠ name := by
  unfold firstNamed
  rw [List.find?_range_eq_some]
  simp only [beq_iff_eq, List.mem_range, Bool.not_eq_true', beq_eq_false_iff_ne, ne_eq]
  constructor
  · rintro ⟨hname, hi, hbefore⟩
    exact ⟨hi, hname, hbefore⟩
  · rintro ⟨hi, hname, hbefore⟩
    exact ⟨hname, hi, hbefore⟩

/-- A bundle whose records all fit yields every module, in record order. -/
theorem modules_of_fits (hroom : b.HasRoom) (hfit : b.Fits) :
    b.modules = (List.range b.count.toNat).map b.moduleAt := by
  rw [modules_eq hroom, List.takeWhile_eq_self_iff.mpr]
  intro i hi
  have hi' : i < b.count.toNat := List.mem_range.mp hi
  simpa using overruns_eq_false_iff.mpr (hfit i hi')

theorem find?_modules_of_fits (hroom : b.HasRoom) (hfit : b.Fits) (name : Bytes) :
    b.modules.find? (·.name == name) = (b.firstNamed name).map b.moduleAt := by
  rw [modules_of_fits hroom hfit, List.find?_map]
  rfl

theorem find_of_fits (hroom : b.HasRoom) (hfit : b.Fits) (name : Bytes) :
    b.find name = (b.firstNamed name).map fun i => (b.moduleAt i).bytecode := by
  rw [find, find?_modules_of_fits hroom hfit, Option.map_map]
  rfl

/-- The entry: the first module named after the first entry record's bytecode. -/
theorem entryModule_of_fits (hroom : b.HasRoom) (hfit : b.Fits) :
    b.entryModule =
      match b.firstNamed entryRecordName with
      | none => .error .noEntryRecord
      | some r =>
        match b.firstNamed (b.moduleAt r).bytecode with
        | some i => .ok (b.moduleAt i)
        | none => .error .missingEntry := by
  rw [entryModule, find_of_fits hroom hfit]
  cases b.firstNamed entryRecordName with
  | none => rfl
  | some r =>
    simp only [Option.map_some]
    rw [find?_modules_of_fits hroom hfit]
    cases b.firstNamed (b.moduleAt r).bytecode <;> rfl

/-- Whatever a bundle is rejected for after its magic, it is not a wrong magic. -/
theorem check_ne_badMagic {bytes : Bytes} (h4 : 4 ≤ bytes.length)
    (hmagic : wordAt bytes 0 = bundleMagic) (expected found : UInt32) :
    check bytes ≠ .error (.badMagic expected found) := by
  unfold check
  have h4' : ¬ bytes.length < 4 := by omega
  by_cases h16 : bytes.length < headerLen
  · simp [h4', hmagic, h16]
  by_cases hroom : (wordAt bytes 12).toNat > (bytes.length - headerLen) / recordLen
  · simp [h4', hmagic, h16, hroom]
  simp only [h4', hmagic, h16, hroom, if_false, ne_eq, not_true_eq_false]
  cases (header bytes).firstOverrun with
  | none => simp
  | some i =>
    simp only [Except.error.injEq, overrunError]
    split <;> simp

/-- **Choosing the program to boot.** The built-in program runs exactly when the linked bytes
hold a whole first word that is not the magic; otherwise the parse decides, and a parsed bundle
gives its entry module's bytecode. -/
theorem selectEntry_eq (linked builtin : Bytes) :
    selectEntry linked builtin =
      if 4 ≤ linked.length ∧ wordAt linked 0 ≠ bundleMagic then .ok builtin
      else parse linked >>= fun t => t.entryModule.map (·.bytecode) := by
  by_cases h4 : linked.length < 4
  · have hparse : parse linked = .error (.truncated linked.length) := by
      rw [parse_eq_check]; simp [check, h4]
    simp [selectEntry, hparse, Nat.not_le.mpr h4]
  by_cases hmagic : wordAt linked 0 ≠ bundleMagic
  · have hparse : parse linked = .error (.badMagic bundleMagic (wordAt linked 0)) := by
      rw [parse_eq_check]; simp [check, h4, hmagic]
    simp [selectEntry, hparse, Nat.not_lt.mp h4, hmagic]
  rw [Decidable.not_not] at hmagic
  simp only [hmagic, ne_eq, not_true_eq_false, and_false, if_false]
  unfold selectEntry
  -- past the magic, every outcome of the parse is passed on
  cases hparse : parse linked with
  | ok t => rfl
  | error e =>
    cases e with
    | badMagic expected found =>
      rw [parse_eq_check] at hparse
      exact absurd hparse (check_ne_badMagic (by omega) hmagic expected found)
    | _ => rfl

/-- **A parsed bundle, read through its layout.** It is the header its bytes declare; it yields
module `i`, as the layout places it, for every record `i` in order, so none is dropped or
repeated; its length is the declared count; `find` answers the bytecode of the least index with
the name; and the entry is the first module named after the first entry record's bytecode. The
choice between the linked entry and the built-in program is then decided by the magic alone. -/
theorem parsed_bundle_contents :
    (∀ {bytes : Bytes} {t : Bundle}, parse bytes = .ok t →
      t = header bytes ∧
      t.modules = (List.range t.count.toNat).map t.moduleAt ∧
      t.len = wordAt bytes 12 ∧ (t.isEmpty = true ↔ wordAt bytes 12 = 0) ∧
      (∀ name, t.find name = (t.firstNamed name).map fun i => (t.moduleAt i).bytecode) ∧
      t.entryModule =
        match t.firstNamed entryRecordName with
        | none => .error .noEntryRecord
        | some r =>
          match t.firstNamed (t.moduleAt r).bytecode with
          | some i => .ok (t.moduleAt i)
          | none => .error .missingEntry) ∧
    ∀ linked builtin : Bytes, selectEntry linked builtin =
      if 4 ≤ linked.length ∧ wordAt linked 0 ≠ bundleMagic then .ok builtin
      else parse linked >>= fun t => t.entryModule.map (·.bytecode) := by
  refine ⟨fun {bytes t} h => ?_, selectEntry_eq⟩
  obtain ⟨⟨-, -, hroom, hfit⟩, rfl⟩ := (parse_eq_ok_iff bytes t).mp h
  refine ⟨rfl, modules_of_fits hroom hfit, rfl, ?_, find_of_fits hroom hfit,
    entryModule_of_fits hroom hfit⟩
  simp [isEmpty]

/-- The bundle of the library's own tests: `lib`, `app` and an entry record naming `app`. -/
def appBundle : Bytes :=
  [bundleMagic, 40, 62, 3, 3, 12, 3, 8, 16, 3].flatMap LittleEndian.word32 ++
    "libapp__mpboot_entry__library codeapp codeapp".toUTF8.toList

theorem appBundle_contents :
    parse appBundle = .ok (header appBundle) ∧
      (header appBundle).modules = (List.range 3).map (header appBundle).moduleAt ∧
      (header appBundle).entryModule = .ok ((header appBundle).moduleAt 1) := by
  have h : parse appBundle = .ok (header appBundle) :=
    (parse_eq_ok_iff _ _).mpr ⟨by decide +kernel, rfl⟩
  obtain ⟨-, hmodules, -, -, -, hentry⟩ := parsed_bundle_contents.1 h
  have hrecord : (header appBundle).firstNamed entryRecordName = some 2 := by decide +kernel
  have happ : (header appBundle).firstNamed ((header appBundle).moduleAt 2).bytecode = some 1 := by
    decide +kernel
  refine ⟨h, hmodules, ?_⟩
  rw [hentry, hrecord]
  simp only [happ]

end Bundle

end DeviceBoot
