import DeviceBoot.Bundle.Pack
import DeviceBoot.Proofs.Bundle.Parse
import DeviceBoot.Proofs.Text.Utf8
/-!
# Packing and parsing agree

The build tool and the device compute a bundle's offsets independently: the packer from the
lengths it writes, the parser from the length records it reads. `packed` is the format's layout
of a list of records (header words, one length record each, every name, every bytecode), and the
packer writes exactly that whenever every count, length and pool offset fits a 32-bit word
(`pack_eq_ok_iff`). Parsing `packed recs` accepts it and yields the records back, in order
(`parse_packed`, `modules_packed`), for every list of records of every size.

Which module boots is a question of names. The entry record is appended after the modules and
lookups take the first match, so a module that is itself named like the entry record shadows it;
with pairwise distinct names, the packed bundle boots its declared entry exactly when no such
module names something else (`entryModule_packed_iff`).
-/

namespace DeviceBoot

namespace Bundle

open LittleEndian

/-! ## The packed layout -/

/-- The name pool's offset: after the header and one length record per record. -/
def namePoolOf (recs : List (Bytes × Bytes)) : Nat := headerLen + recs.length * recordLen

/-- The bytecode pool's offset: after every name. -/
def codePoolOf (recs : List (Bytes × Bytes)) : Nat :=
  namePoolOf recs + (recs.map fun r => r.1.length).sum

/-- Each record's name and bytecode lengths, in order. -/
def recordFields (recs : List (Bytes × Bytes)) : List Nat :=
  recs.flatMap fun r => [r.1.length, r.2.length]

/-- The 32-bit fields of a packed bundle, in order: the four header words, then each record's
name and bytecode lengths. -/
def packedFields (recs : List (Bytes × Bytes)) : List Nat :=
  [bundleMagic.toNat, namePoolOf recs, codePoolOf recs, recs.length] ++ recordFields recs

/-- The bundle laying out `recs`: its fields, every name, every bytecode. -/
def packed (recs : List (Bytes × Bytes)) : Bytes :=
  (packedFields recs).flatMap (split · 4) ++ (recs.map Prod.fst).flatten ++
    (recs.map Prod.snd).flatten

/-- Every count, length and pool offset written for `recs` fits a 32-bit word. -/
def WordsFit (recs : List (Bytes × Bytes)) : Prop :=
  namePoolOf recs < 2 ^ 32 ∧ codePoolOf recs < 2 ^ 32 ∧ recs.length < 2 ^ 32 ∧
    ∀ r ∈ recs, r.1.length < 2 ^ 32 ∧ r.2.length < 2 ^ 32

instance (recs : List (Bytes × Bytes)) : Decidable (WordsFit recs) :=
  inferInstanceAs (Decidable (_ ∧ _ ∧ _ ∧ ∀ r ∈ recs, _))

/-! ## Reading the fields back -/

theorem wordAt_append (pre rest : Bytes) (k : Nat) :
    wordAt (pre ++ rest) (pre.length + k) = wordAt rest k := by
  have hpre : pre.drop (pre.length + k) = [] := List.drop_eq_nil_of_le (by omega)
  simp [wordAt, List.drop_append, hpre]

/-- A field is read back as written, modulo the word size. -/
theorem wordAt_split (x : Nat) (rest : Bytes) : wordAt (split x 4 ++ rest) 0 = UInt32.ofNat x := by
  have hfield : ((split x 4 ++ rest).drop 0).take 4 = split x 4 := by
    rw [List.drop_zero, List.take_left' (length_split x 4)]
  have hmod : x % Nat.pow 256 4 = x % 2 ^ 32 := rfl
  rw [wordAt, hfield, ofWord32, combine_split, hmod, UInt32.ofNat_mod_size]

/-- **Field `j` of a run of fields** is read at byte `4 * j`. -/
theorem wordAt_fields (xs : List Nat) (rest : Bytes) (j : Nat) (hj : j < xs.length) :
    wordAt (xs.flatMap (split · 4) ++ rest) (4 * j) = UInt32.ofNat xs[j] := by
  induction xs generalizing j with
  | nil => cases hj
  | cons x xs ih =>
    rw [List.flatMap_cons, List.append_assoc]
    cases j with
    | zero => exact wordAt_split x _
    | succ j =>
      have hat : 4 * (j + 1) = (split x 4).length + 4 * j := by rw [length_split]; omega
      rw [hat, wordAt_append, ih j (by simpa using hj)]
      rfl

theorem length_recordFields (recs : List (Bytes × Bytes)) :
    (recordFields recs).length = 2 * recs.length := by
  induction recs with
  | nil => rfl
  | cons r recs ih =>
    rw [recordFields, List.flatMap_cons, List.length_append, ← recordFields, ih, List.length_cons]
    simp only [List.length_cons, List.length_nil]
    omega

theorem length_packedFields (recs : List (Bytes × Bytes)) :
    (packedFields recs).length = 4 + 2 * recs.length := by
  rw [packedFields, List.length_append, length_recordFields]
  rfl

theorem length_fields_bytes (xs : List Nat) : (xs.flatMap (split · 4)).length = 4 * xs.length := by
  induction xs with
  | nil => rfl
  | cons x xs ih =>
    rw [List.flatMap_cons, List.length_append, length_split, ih, List.length_cons]
    omega

/-- Record `i`'s two lengths are its fields `2 * i` and `2 * i + 1`. -/
theorem getElem?_recordFields (recs : List (Bytes × Bytes)) (i : Nat) (hi : i < recs.length) :
    (recordFields recs)[2 * i]? = some recs[i].1.length ∧
      (recordFields recs)[2 * i + 1]? = some recs[i].2.length := by
  induction recs generalizing i with
  | nil => cases hi
  | cons r recs ih =>
    cases i with
    | zero => exact ⟨rfl, rfl⟩
    | succ i =>
      obtain ⟨h1, h2⟩ := ih i (by simpa using hi)
      have hshift : ∀ k, (recordFields (r :: recs))[k + 2]? = (recordFields recs)[k]? := by
        intro k
        simp [recordFields]
      refine ⟨?_, ?_⟩
      · rw [show 2 * (i + 1) = 2 * i + 2 by omega, hshift, h1, List.getElem_cons_succ]
      · rw [show 2 * (i + 1) + 1 = 2 * i + 1 + 2 by omega, hshift, h2, List.getElem_cons_succ]

/-- The slice of a flattened list that starts after the first `i` pieces is piece `i`. -/
theorem extract_flatten {α : Type} (pre post : List α) (L : List (List α)) (i : Nat)
    (hi : i < L.length) :
    (pre ++ L.flatten ++ post).extract (pre.length + ((L.map List.length).take i).sum)
      (pre.length + ((L.map List.length).take i).sum + L[i].length) = L[i] := by
  have hle : ((L.map List.length).take i).sum ≤ L.flatten.length := by
    rw [List.length_flatten, ← List.sum_take_add_sum_drop (L.map List.length) i]
    omega
  have hpre : pre.drop (pre.length + ((L.map List.length).take i).sum) = [] :=
    List.drop_eq_nil_of_le (by omega)
  rw [List.extract_eq_take_drop, Nat.add_sub_cancel_left, List.append_assoc, List.drop_append, hpre,
    List.nil_append, Nat.add_sub_cancel_left, List.drop_append_of_le_length hle,
    List.drop_sum_flatten, List.drop_eq_getElem_cons hi, List.flatten_cons, List.append_assoc,
    List.take_left' rfl]

/-! ## What a packed bundle declares -/

theorem wordAt_packed (recs : List (Bytes × Bytes)) (j : Nat) (hj : j < (packedFields recs).length) :
    wordAt (packed recs) (4 * j) = UInt32.ofNat (packedFields recs)[j] := by
  rw [packed, List.append_assoc]
  exact wordAt_fields _ _ j hj

theorem length_packed_fields (recs : List (Bytes × Bytes)) :
    ((packedFields recs).flatMap (split · 4)).length = namePoolOf recs := by
  rw [length_fields_bytes, length_packedFields, namePoolOf, headerLen, recordLen]
  omega

theorem length_packed (recs : List (Bytes × Bytes)) :
    (packed recs).length = codePoolOf recs + (recs.map fun r => r.2.length).sum := by
  rw [packed, List.length_append, List.length_append, length_packed_fields, codePoolOf,
    List.length_flatten, List.length_flatten, List.map_map, List.map_map]
  rfl

variable {recs : List (Bytes × Bytes)}

/-- The header of a packed bundle: both pool offsets and the record count, as written. -/
theorem header_packed (hfit : WordsFit recs) :
    header (packed recs) =
      ⟨packed recs, namePoolOf recs, codePoolOf recs, UInt32.ofNat recs.length⟩ := by
  obtain ⟨hname, hcode, -, -⟩ := hfit
  have hlen : 3 < (packedFields recs).length := by rw [length_packedFields]; omega
  have h4 := wordAt_packed recs 1 (by omega)
  have h8 := wordAt_packed recs 2 (by omega)
  have h12 := wordAt_packed recs 3 (by omega)
  simp only [packedFields, Nat.mul_one] at h4 h8 h12
  simp only [header, h4, h8, h12]
  simp [UInt32.toNat_ofNat_of_lt' hname, UInt32.toNat_ofNat_of_lt' hcode]

theorem wordAt_packed_magic : wordAt (packed recs) 0 = bundleMagic := by
  have h0 := wordAt_packed recs 0 (by rw [length_packedFields]; omega)
  simpa [packedFields] using h0

/-- The record fields come after the four header fields. -/
theorem getElem?_packedFields (recs : List (Bytes × Bytes)) (k : Nat) :
    (packedFields recs)[4 + k]? = (recordFields recs)[k]? := by
  have hidx : 4 + k = k + 1 + 1 + 1 + 1 := by omega
  simp only [packedFields, List.cons_append, List.nil_append, hidx, List.getElem?_cons_succ]

/-- Record `i` of a packed bundle declares the lengths of record `i` of the list. -/
theorem recordLens_packed (hfit : WordsFit recs) {i : Nat} (hi : i < recs.length) :
    ((header (packed recs)).nameLen i).toNat = recs[i].1.length ∧
      ((header (packed recs)).codeLen i).toNat = recs[i].2.length := by
  obtain ⟨-, -, -, hlens⟩ := hfit
  obtain ⟨hn, hc⟩ := hlens recs[i] (List.getElem_mem hi)
  obtain ⟨hf1, hf2⟩ := getElem?_recordFields recs i hi
  have hb1 : 4 + 2 * i < (packedFields recs).length := by rw [length_packedFields]; omega
  have hb2 : 4 + (2 * i + 1) < (packedFields recs).length := by rw [length_packedFields]; omega
  have hat1 : recordAt i = 4 * (4 + 2 * i) := by simp only [recordAt, headerLen, recordLen]; omega
  have hat2 : recordAt i + 4 = 4 * (4 + (2 * i + 1)) := by rw [hat1]; omega
  have hw1 := wordAt_packed recs (4 + 2 * i) hb1
  have hw2 := wordAt_packed recs (4 + (2 * i + 1)) hb2
  -- record `i`'s fields come after the four header fields
  have hg1 : (packedFields recs)[4 + 2 * i] = recs[i].1.length := by
    have h := (List.getElem?_eq_getElem hb1).symm.trans ((getElem?_packedFields recs _).trans hf1)
    exact Option.some.inj h
  have hg2 : (packedFields recs)[4 + (2 * i + 1)] = recs[i].2.length := by
    have h := (List.getElem?_eq_getElem hb2).symm.trans ((getElem?_packedFields recs _).trans hf2)
    exact Option.some.inj h
  rw [hg1] at hw1
  rw [hg2] at hw2
  refine ⟨?_, ?_⟩
  · rw [nameLen, header_bytes, hat1, hw1, UInt32.toNat_ofNat_of_lt' hn]
  · rw [codeLen, header_bytes, hat2, hw2, UInt32.toNat_ofNat_of_lt' hc]

theorem pools_packed (hfit : WordsFit recs) :
    (header (packed recs)).namePool = namePoolOf recs ∧
      (header (packed recs)).bytecodePool = codePoolOf recs ∧
      (header (packed recs)).count = UInt32.ofNat recs.length := by
  rw [header_packed hfit]
  exact ⟨rfl, rfl, rfl⟩

/-- Summing `f` over the first `i` indices sums the first `i` entries of a list it agrees with. -/
theorem sum_map_range_eq_sum_take {f : Nat → Nat} {L : List Nat} {i : Nat} (hi : i ≤ L.length)
    (hf : ∀ j (hj : j < i), f j = L[j]) : ((List.range i).map f).sum = (L.take i).sum := by
  induction i with
  | zero => simp
  | succ i ih =>
    rw [List.range_succ, List.map_append, List.sum_append, ih (by omega) fun j hj => hf j (by omega),
      List.sum_take_succ L i (by omega), List.map_singleton, List.sum_singleton, hf i (by omega)]

/-- The names before record `i` of a packed bundle are those of the list. -/
theorem namesBefore_packed (hfit : WordsFit recs) {i : Nat} (hi : i ≤ recs.length) :
    (header (packed recs)).namesBefore i = (((recs.map Prod.fst).map List.length).take i).sum :=
  sum_map_range_eq_sum_take (by simpa using hi) fun j hj => by
    simp [(recordLens_packed hfit (by omega : j < recs.length)).1]

theorem codeBefore_packed (hfit : WordsFit recs) {i : Nat} (hi : i ≤ recs.length) :
    (header (packed recs)).codeBefore i = (((recs.map Prod.snd).map List.length).take i).sum :=
  sum_map_range_eq_sum_take (by simpa using hi) fun j hj => by
    simp [(recordLens_packed hfit (by omega : j < recs.length)).2]

/-- **Module `i` of a packed bundle is record `i`.** -/
theorem moduleAt_packed (hfit : WordsFit recs) {i : Nat} (hi : i < recs.length) :
    (header (packed recs)).moduleAt i = ⟨recs[i].1, recs[i].2⟩ := by
  obtain ⟨hnl, hcl⟩ := recordLens_packed hfit hi
  obtain ⟨hnp, hcp, -⟩ := pools_packed hfit
  have hi' : i < (recs.map Prod.fst).length := by simpa using hi
  have hi'' : i < (recs.map Prod.snd).length := by simpa using hi
  let fields := (packedFields recs).flatMap (split · 4)
  have hnames := extract_flatten fields (recs.map Prod.snd).flatten (recs.map Prod.fst) i hi'
  have hcodes := extract_flatten (fields ++ (recs.map Prod.fst).flatten) [] (recs.map Prod.snd) i hi''
  have hfields : fields.length = namePoolOf recs := length_packed_fields recs
  have hnamesLen : (fields ++ (recs.map Prod.fst).flatten).length = codePoolOf recs := by
    rw [List.length_append, hfields, List.length_flatten, List.map_map, codePoolOf]
    rfl
  rw [List.getElem_map, hfields, ← namesBefore_packed hfit (by omega)] at hnames
  rw [List.getElem_map, hnamesLen, ← codeBefore_packed hfit (by omega), List.append_nil] at hcodes
  have hpacked : packed recs = fields ++ (recs.map Prod.fst).flatten ++ (recs.map Prod.snd).flatten :=
    rfl
  rw [← hpacked] at hnames hcodes
  simp only [moduleAt, header_bytes, nameStart, codeStart, hnp, hcp, hnl, hcl]
  rw [hnames, hcodes]

theorem sum_take_add_le (L : List Nat) (i : Nat) (hi : i < L.length) :
    (L.take i).sum + L[i] ≤ L.sum := by
  rw [← List.sum_take_succ L i hi, ← List.sum_take_add_sum_drop L (i + 1)]
  omega

theorem count_packed (hfit : WordsFit recs) : (header (packed recs)).count.toNat = recs.length := by
  rw [(pools_packed hfit).2.2, UInt32.toNat_ofNat_of_lt' hfit.2.2.1]

/-- Every module of a packed bundle lies inside it. -/
theorem fits_packed (hfit : WordsFit recs) : (header (packed recs)).Fits := by
  intro i hi
  rw [count_packed hfit] at hi
  obtain ⟨hnl, hcl⟩ := recordLens_packed hfit hi
  obtain ⟨hnp, hcp, -⟩ := pools_packed hfit
  have hnames := sum_take_add_le ((recs.map Prod.fst).map List.length) i (by simpa using hi)
  have hcodes := sum_take_add_le ((recs.map Prod.snd).map List.length) i (by simpa using hi)
  simp only [List.getElem_map] at hnames hcodes
  have hpool : codePoolOf recs = namePoolOf recs + ((recs.map Prod.fst).map List.length).sum := by
    rw [codePoolOf, List.map_map]
    rfl
  have hlen : (packed recs).length = codePoolOf recs + ((recs.map Prod.snd).map List.length).sum := by
    rw [length_packed, List.map_map]
    rfl
  rw [nameStart, codeStart, hnp, hcp, hnl, hcl, namesBefore_packed hfit hi.le,
    codeBefore_packed hfit hi.le, header_bytes, hlen]
  omega

/-- A packed bundle has room for all its length records. -/
theorem hasRoom_packed (hfit : WordsFit recs) : (header (packed recs)).HasRoom := by
  have hlen : namePoolOf recs ≤ (packed recs).length := by
    rw [length_packed, codePoolOf]
    omega
  unfold HasRoom
  rw [count_packed hfit, header_bytes, Nat.le_div_iff_mul_le (by decide)]
  simp only [namePoolOf, headerLen, recordLen] at hlen ⊢
  omega

/-- **A packed bundle parses**, to the header it was written with. -/
theorem parse_packed (hfit : WordsFit recs) : parse (packed recs) = .ok (header (packed recs)) := by
  have h16 : headerLen ≤ (packed recs).length := by
    rw [length_packed, codePoolOf, namePoolOf]
    omega
  exact (parse_eq_ok_iff _ _).mpr
    ⟨⟨h16, wordAt_packed_magic, hasRoom_packed hfit, fits_packed hfit⟩, rfl⟩

/-- **A packed bundle yields the records it was packed from**, in order. -/
theorem modules_packed (hfit : WordsFit recs) :
    (header (packed recs)).modules = recs.map fun r => ⟨r.1, r.2⟩ := by
  rw [modules_of_fits (hasRoom_packed hfit) (fits_packed hfit), count_packed hfit]
  apply List.ext_getElem (by simp)
  intro i h1 h2
  simp only [List.getElem_map, List.getElem_range]
  exact moduleAt_packed hfit (by simpa using h1)

/-- A packed bundle whose entry resolves boots that entry's bytecode, whatever is built in: its
magic word marks it as a bundle. -/
theorem selectEntry_packed (hfit : WordsFit recs) {m : BundleModule}
    (hentry : (header (packed recs)).entryModule = .ok m) (builtin : Bytes) :
    selectEntry (packed recs) builtin = .ok m.bytecode := by
  rw [selectEntry_eq, if_neg (by simp [wordAt_packed_magic]), parse_packed hfit, ok_bind, hentry]
  rfl

/-! ## What the packer writes -/

theorem packWord_eq (n : Nat) :
    packWord n = if n < 2 ^ 32 then .ok (split n 4) else .error tooLarge := rfl

theorem foldl_add_length (recs : List (Bytes × Bytes)) (init : Nat) :
    recs.foldl (fun pool r => pool + r.1.length) init = init + (recs.map fun r => r.1.length).sum := by
  induction recs generalizing init with
  | nil => simp
  | cons r recs ih =>
    rw [List.foldl_cons, ih, List.map_cons, List.sum_cons]
    omega

/-- The length records are written in full exactly when every length fits a word. -/
theorem mapM_packWord (recs : List (Bytes × Bytes)) :
    recs.mapM (fun r => do
        let a ← packWord r.1.length
        let b ← packWord r.2.length
        pure (a ++ b)) =
      if ∀ r ∈ recs, r.1.length < 2 ^ 32 ∧ r.2.length < 2 ^ 32 then
        .ok (recs.map fun r => split r.1.length 4 ++ split r.2.length 4)
      else .error tooLarge := by
  induction recs with
  | nil => rfl
  | cons r recs ih =>
    rw [List.mapM_cons, ih, packWord_eq, packWord_eq]
    by_cases h1 : r.1.length < 2 ^ 32
    · rw [if_pos h1, ok_bind]
      by_cases h2 : r.2.length < 2 ^ 32
      · rw [if_pos h2, ok_bind, pure_eq, ok_bind]
        by_cases hrest : ∀ r ∈ recs, r.1.length < 2 ^ 32 ∧ r.2.length < 2 ^ 32
        · rw [if_pos hrest, ok_bind, if_pos (List.forall_mem_cons.mpr ⟨⟨h1, h2⟩, hrest⟩)]
          rfl
        · rw [if_neg hrest, error_bind, if_neg fun h => hrest (List.forall_mem_cons.mp h).2]
      · rw [if_neg h2, error_bind, error_bind, if_neg fun h => h2 (List.forall_mem_cons.mp h).1.2]
    · rw [if_neg h1, error_bind, error_bind, if_neg fun h => h1 (List.forall_mem_cons.mp h).1.1]

theorem recordFields_bytes (recs : List (Bytes × Bytes)) :
    (recordFields recs).flatMap (split · 4) =
      (recs.map fun r => split r.1.length 4 ++ split r.2.length 4).flatten := by
  induction recs with
  | nil => rfl
  | cons r recs ih =>
    rw [recordFields, List.flatMap_cons, List.flatMap_append, ← recordFields, ih]
    simp

/-- **The packer, in one equation.** It refuses an entry that is not among the modules, then any
count, length or offset too large for a word, and otherwise writes the packed layout of the
modules followed by the entry record. -/
theorem pack_eq (modules : List (String × Bytes)) (entry : String) :
    pack modules entry =
      if ∃ m ∈ modules, m.1 = entry then
        if WordsFit (records modules entry) then .ok (packed (records modules entry))
        else .error tooLarge
      else .error s!"entry module '{entry}' is not in the bundle" := by
  have hany : (modules.any fun m => m.1 == entry) = true ↔ ∃ m ∈ modules, m.1 = entry := by
    simp
  unfold pack
  by_cases hentry : ¬ ∃ m ∈ modules, m.1 = entry
  · simp [hany, hentry]
  rw [Decidable.not_not] at hentry
  have hpool : headerLen + (records modules entry).length * recordLen =
      namePoolOf (records modules entry) := rfl
  simp only [hany.mpr hentry, hentry, if_true, hpool, foldl_add_length, mapM_packWord]
  rw [← codePoolOf, packWord_eq, packWord_eq, packWord_eq]
  -- the words are written in order, and the first that does not fit stops the packer
  by_cases h1 : namePoolOf (records modules entry) < 2 ^ 32
  · rw [if_pos h1, ok_bind]
    by_cases h2 : codePoolOf (records modules entry) < 2 ^ 32
    · rw [if_pos h2, ok_bind]
      by_cases h3 : (records modules entry).length < 2 ^ 32
      · rw [if_pos h3, ok_bind]
        by_cases h4 : ∀ r ∈ records modules entry, r.1.length < 2 ^ 32 ∧ r.2.length < 2 ^ 32
        · rw [if_pos h4, ok_bind, pure_eq, if_pos ⟨h1, h2, h3, h4⟩]
          simp [packed, packedFields, recordFields_bytes, word32]
        · rw [if_neg h4, error_bind, if_neg fun h => h4 h.2.2.2]
      · rw [if_neg h3, error_bind, if_neg fun h => h3 h.2.2.1]
    · rw [if_neg h2, error_bind, if_neg fun h => h2 h.2.1]
  · rw [if_neg h1, error_bind, if_neg fun h => h1 h.1]

theorem pack_eq_ok_iff {modules : List (String × Bytes)} {entry : String} {raw : Bytes} :
    pack modules entry = .ok raw ↔
      (∃ m ∈ modules, m.1 = entry) ∧ WordsFit (records modules entry) ∧
        raw = packed (records modules entry) := by
  rw [pack_eq]
  by_cases hentry : ∃ m ∈ modules, m.1 = entry
  · by_cases hfit : WordsFit (records modules entry)
    · rw [if_pos hentry, if_pos hfit]
      constructor
      · intro h
        exact ⟨hentry, hfit, (Except.ok.inj h).symm⟩
      · rintro ⟨-, -, rfl⟩
        rfl
    · rw [if_pos hentry, if_neg hfit]
      simp [hfit]
  · rw [if_neg hentry]
    simp [hentry]

/-! ## Which module a packed bundle boots -/

/-- No module is named like the entry record, unless its bytecode names the entry as well. A
module so named comes before the entry record the packer appends, and lookups take the first
match. -/
def EntryRecordUnshadowed (modules : List (String × Bytes)) (entry : String) : Prop :=
  ∀ m ∈ modules, m.1.toUTF8.toList = entryRecordName → m.2 = entry.toUTF8.toList

variable {modules : List (String × Bytes)} {entry : String}

/-- The modules a packed bundle yields: the given modules, then the entry record. -/
theorem records_modules (modules : List (String × Bytes)) (entry : String) :
    (records modules entry).map (fun r => (⟨r.1, r.2⟩ : BundleModule)) =
      modules.map (fun m => ⟨m.1.toUTF8.toList, m.2⟩) ++ [⟨entryRecordName, entry.toUTF8.toList⟩] := by
  simp [records]

/-- With distinct names, a module's name finds that module first. -/
theorem find?_named (hnodup : (modules.map Prod.fst).Nodup) {name : String} {code : Bytes}
    (hmem : (name, code) ∈ modules) (tail : List BundleModule) :
    (modules.map (fun m => (⟨m.1.toUTF8.toList, m.2⟩ : BundleModule)) ++ tail).find?
        (·.name == name.toUTF8.toList) = some ⟨name.toUTF8.toList, code⟩ := by
  have hsome : ((modules.map fun m => (⟨m.1.toUTF8.toList, m.2⟩ : BundleModule)).find?
      (·.name == name.toUTF8.toList)).isSome := by
    rw [List.find?_isSome]
    exact ⟨⟨name.toUTF8.toList, code⟩, List.mem_map.mpr ⟨(name, code), hmem, rfl⟩, by simp⟩
  obtain ⟨found, hfound⟩ := Option.isSome_iff_exists.mp hsome
  have hname := List.find?_some hfound
  obtain ⟨m, hm, rfl⟩ := List.mem_map.mp (List.mem_of_find?_eq_some hfound)
  -- the module found has the name, so it is the one named, names being distinct
  have hsame : m.1 = name := toUTF8_toList_inj.mp (by simpa using hname)
  have hm' : m = (name, code) := List.inj_on_of_nodup_map hnodup hm hmem hsame
  rw [List.find?_append, hfound, hm']
  rfl

theorem find?_unnamed {name : Bytes} (hnone : ∀ m ∈ modules, m.1.toUTF8.toList ≠ name)
    (tail : List BundleModule) :
    (modules.map (fun m => (⟨m.1.toUTF8.toList, m.2⟩ : BundleModule)) ++ tail).find?
        (·.name == name) = tail.find? (·.name == name) := by
  have hfirst : (modules.map fun m => (⟨m.1.toUTF8.toList, m.2⟩ : BundleModule)).find?
      (·.name == name) = none := by
    rw [List.find?_eq_none]
    intro x hx
    obtain ⟨m, hm, rfl⟩ := List.mem_map.mp hx
    simpa using hnone m hm
  rw [List.find?_append, hfirst, Option.none_or]

/-- The packer fails exactly when the entry is missing or some word does not fit. -/
theorem pack_fails_iff :
    (∃ e, pack modules entry = .error e) ↔
      (¬ ∃ m ∈ modules, m.1 = entry) ∨ ¬ WordsFit (records modules entry) := by
  constructor
  · rintro ⟨e, he⟩
    by_cases hentry : ∃ m ∈ modules, m.1 = entry
    · right
      intro hfit
      have hgood := pack_eq_ok_iff.mpr ⟨hentry, hfit, rfl⟩
      rw [he] at hgood
      cases hgood
    · exact .inl hentry
  · intro hbad
    cases hpack : pack modules entry with
    | error e => exact ⟨e, rfl⟩
    | ok raw =>
      obtain ⟨hentry, hfit, -⟩ := pack_eq_ok_iff.mp hpack
      rcases hbad with h | h
      · exact absurd hentry h
      · exact absurd hfit h

/-- **The entry a packed bundle boots.** With distinct module names, the bundle's entry is the
declared entry module exactly when no module shadows the entry record. -/
theorem entryModule_packed_iff (hfit : WordsFit (records modules entry))
    (hnodup : (modules.map Prod.fst).Nodup) {code : Bytes} (hmem : (entry, code) ∈ modules) :
    (header (packed (records modules entry))).entryModule = .ok ⟨entry.toUTF8.toList, code⟩ ↔
      EntryRecordUnshadowed modules entry := by
  unfold entryModule find
  rw [modules_packed hfit, records_modules]
  by_cases hshadow : ∃ m ∈ modules, m.1.toUTF8.toList = entryRecordName
  · -- a module named like the entry record is found before the record itself
    obtain ⟨m, hm, hname⟩ := hshadow
    have hfirst := find?_named hnodup (show (m.1, m.2) ∈ modules from hm)
      [⟨entryRecordName, entry.toUTF8.toList⟩]
    rw [hname] at hfirst
    simp only [hfirst, Option.map_some]
    constructor
    · intro h m' hm' hname'
      have hsame : m'.1 = m.1 := toUTF8_toList_inj.mp (hname'.trans hname.symm)
      have hm'm : m' = m := List.inj_on_of_nodup_map hnodup hm' hm hsame
      subst hm'm
      -- the module found for the shadowing bytecode is the entry, so that bytecode names it
      split at h
      · rename_i found hfound
        cases h
        have hbeq := List.find?_some hfound
        simp only [beq_iff_eq] at hbeq
        exact hbeq.symm
      · cases h
    · intro hun
      rw [hun m hm hname, find?_named hnodup hmem]
  · have hnone : ∀ m ∈ modules, m.1.toUTF8.toList ≠ entryRecordName := fun m hm h =>
      hshadow ⟨m, hm, h⟩
    have hun : EntryRecordUnshadowed modules entry := fun m hm h => absurd h (hnone m hm)
    rw [find?_unnamed hnone]
    simp only [List.find?_cons, beq_self_eq_true, Option.map_some, find?_named hnodup hmem, hun]

/-- **Packing, then parsing.** The packer fails exactly when the entry is not among the modules or
some count, length or pool offset does not fit a 32-bit word. What it writes parses, holds one
more module than it was given, and yields the modules, names as UTF-8 bytes, then the entry
record. With distinct names, the bundle boots the declared entry, and so does every choice
between it and a built-in program, exactly when no module shadows the entry record. -/
theorem pack_parse_round_trip (modules : List (String × Bytes)) (entry : String) :
    ((∃ e, pack modules entry = .error e) ↔
      (¬ ∃ m ∈ modules, m.1 = entry) ∨
        ¬ WordsFit (modules.map (fun m => (m.1.toUTF8.toList, m.2)) ++
          [(entryRecordName, entry.toUTF8.toList)])) ∧
    ∀ raw, pack modules entry = .ok raw →
      ∃ t, parse raw = .ok t ∧ t.len.toNat = modules.length + 1 ∧
        t.modules = modules.map (fun m => ⟨m.1.toUTF8.toList, m.2⟩) ++
          [⟨entryRecordName, entry.toUTF8.toList⟩] ∧
        ((modules.map Prod.fst).Nodup → ∀ code, (entry, code) ∈ modules →
          (t.entryModule = .ok ⟨entry.toUTF8.toList, code⟩ ↔ EntryRecordUnshadowed modules entry) ∧
          (EntryRecordUnshadowed modules entry → ∀ builtin, selectEntry raw builtin = .ok code)) := by
  have hrecs : modules.map (fun m => (m.1.toUTF8.toList, m.2)) ++
      [(entryRecordName, entry.toUTF8.toList)] = records modules entry := rfl
  rw [hrecs]
  refine ⟨pack_fails_iff, fun raw hpack => ?_⟩
  obtain ⟨-, hfit, rfl⟩ := pack_eq_ok_iff.mp hpack
  refine ⟨header (packed (records modules entry)), parse_packed hfit, ?_, ?_, ?_⟩
  · rw [len, count_packed hfit]
    simp [records]
  · rw [modules_packed hfit, records_modules]
  · intro hnodup code hmem
    have hentry := entryModule_packed_iff hfit hnodup hmem
    exact ⟨hentry, fun hun => selectEntry_packed hfit (hentry.mpr hun)⟩

/-- The modules of the build tool's own test: `main` is the entry, `helper` a library. -/
def toolTestModules : List (String × Bytes) :=
  [("main", "entry".toUTF8.toList), ("helper", "helper module".toUTF8.toList)]

theorem toolTestModules_boot_main :
    (toolTestModules.map Prod.fst).Nodup ∧ ("main", "entry".toUTF8.toList) ∈ toolTestModules ∧
      EntryRecordUnshadowed toolTestModules "main" ∧
      ∃ raw, pack toolTestModules "main" = .ok raw ∧
        ∀ builtin, selectEntry raw builtin = .ok "entry".toUTF8.toList := by
  have hnodup : (toolTestModules.map Prod.fst).Nodup := by decide +kernel
  have hmem : ("main", "entry".toUTF8.toList) ∈ toolTestModules := List.mem_cons_self
  have hun : EntryRecordUnshadowed toolTestModules "main" := by
    intro m hm h
    simp only [toolTestModules, List.mem_cons, List.mem_nil_iff, or_false] at hm
    rcases hm with rfl | rfl
    · exact absurd h (by decide +kernel)
    · exact absurd h (by decide +kernel)
  have hpack : pack toolTestModules "main" = .ok (packed (records toolTestModules "main")) :=
    pack_eq_ok_iff.mpr ⟨⟨_, hmem, rfl⟩, by decide +kernel, rfl⟩
  obtain ⟨t, -, -, -, hboot⟩ := (pack_parse_round_trip toolTestModules "main").2 _ hpack
  exact ⟨hnodup, hmem, hun, _, hpack, (hboot hnodup _ hmem).2 hun⟩

end Bundle

end DeviceBoot
