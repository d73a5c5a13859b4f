import Mathlib
import DeviceBoot.Image.Header
/-!
# The signature header's wire form

A header is written field after field, each field as its four little-endian bytes; the device's
encoder writes byte `i` as byte `i % 4` of field `i / 4`, and the decoder reads field `k` at the
fixed offset `4k`. Both views are one list of fixed-width chunks: `drop_take_flatMap_of_length_eq`
finds chunk `j` at `k * j`, and `getElem?_flatMap_of_length_eq` finds byte `i` in chunk `i / k`.

With the two halves of the codec (`ofBytes_toBytes`, `toBytes_ofBytes`) and the split of an image
into header and payload (`parse_eq_error_iff`, `parse_of_le`), the codec is a bijection between
headers and 16-byte strings. The headers a build makes carry the signature magic, whose bytes
spell `XVX5`.

Main statement: `header_codec_is_a_bijection`.
-/

namespace DeviceBoot

section FixedWidth

variable {α β : Type} {f : α → List β} {k : Nat}

/-- In items written one after another, each `k` long, item `j` starts at `k * j`. -/
theorem drop_take_flatMap_of_length_eq (hk : ∀ x, (f x).length = k) (xs : List α) (d : α) (j : Nat)
    (hj : j < xs.length) : ((xs.flatMap f).drop (k * j)).take k = f (xs.getD j d) := by
  induction xs generalizing j with
  | nil => cases hj
  | cons x rest ih =>
    rw [List.flatMap_cons]
    cases j with
    | zero => simp [List.take_left' (hk x)]
    | succ j =>
      rw [show k * (j + 1) = (f x).length + k * j by rw [hk]; ring, ← List.drop_drop,
        List.drop_left, ih j (by simpa using hj)]
      rfl

/-- In items written one after another, each `k` long, element `i` is element `i % k` of item
`i / k`. -/
theorem getElem?_flatMap_of_length_eq (hk : ∀ x, (f x).length = k) (xs : List α) (d : α) (i : Nat)
    (hi : i < k * xs.length) : (xs.flatMap f)[i]? = (f (xs.getD (i / k) d))[i % k]? := by
  have hpos : 0 < k := by
    rcases Nat.eq_zero_or_pos k with h0 | h0
    · simp [h0] at hi
    · exact h0
  have hj : i / k < xs.length := by
    rw [Nat.div_lt_iff_lt_mul hpos]
    rwa [Nat.mul_comm]
  rw [← drop_take_flatMap_of_length_eq hk xs d (i / k) hj,
    List.getElem?_take_of_lt (Nat.mod_lt _ hpos), List.getElem?_drop, Nat.div_add_mod]

end FixedWidth

namespace SignatureHeader

/-- The four fields in wire order: the magic, the program type, the owner and the flags. -/
def fields (h : SignatureHeader) : List UInt32 :=
  [h.magic, h.programType.code, h.programOwner.code, h.programFlags.bits]

/-- The wire form is the fields, each as its four little-endian bytes. -/
theorem toBytes_eq_flatMap (h : SignatureHeader) : h.toBytes = h.fields.flatMap LittleEndian.word32 := by
  simp [toBytes, fields]

/-- Field `k` of a header is bytes `4k` to `4k + 4` of its wire form. -/
theorem toBytes_field (h : SignatureHeader) {k : Nat} (hk : k < 4) :
    (h.toBytes.drop (4 * k)).take 4 = LittleEndian.word32 (h.fields.getD k 0) := by
  rw [toBytes_eq_flatMap]
  exact drop_take_flatMap_of_length_eq LittleEndian.length_word32 _ _ _ hk

/-- Byte `i` of a header is byte `i % 4` of field `i / 4`, as the encoder's index loop writes it. -/
theorem getElem?_toBytes (h : SignatureHeader) {i : Nat} (hi : i < 16) :
    h.toBytes[i]? = (LittleEndian.word32 (h.fields.getD (i / 4) 0))[i % 4]? := by
  rw [toBytes_eq_flatMap]
  exact getElem?_flatMap_of_length_eq LittleEndian.length_word32 _ _ _ hi

/-- An image of a header's length or more splits into the header its first sixteen bytes hold
and the payload after them. -/
theorem parse_of_le {image : Bytes} (h : 16 ≤ image.length) :
    parse image = .ok (ofBytes (image.take 16), image.drop 16) := by
  simp [parse, size, Nat.not_lt.mpr h]

/-- The signature magic's bytes spell `XVX5`. -/
theorem word32_signatureMagic : LittleEndian.word32 signatureMagic = "XVX5".toUTF8.toList := by
  have hword : LittleEndian.word32 signatureMagic = [0x58, 0x56, 0x58, 0x35] := by decide
  have htext : "XVX5".toUTF8.toList = [0x58, 0x56, 0x58, 0x35] := by cbv
  rw [hword, htext]

theorem hasValidMagic_new (owner : ProgramOwner) (flags : ProgramFlags) :
    (new owner flags).hasValidMagic = true := by
  simp [new, hasValidMagic]

/-- A built header starts with the magic's bytes. -/
theorem take_toBytes_new (owner : ProgramOwner) (flags : ProgramFlags) :
    (new owner flags).toBytes.take 4 = "XVX5".toUTF8.toList := by
  rw [← word32_signatureMagic, toBytes, List.append_assoc, List.append_assoc,
    List.take_left' (LittleEndian.length_word32 _)]
  rfl

/-- **The header codec is a bijection.** Decoding undoes encoding for every header, and encoding
undoes decoding for every 16-byte string; field `k` is bytes `4k` to `4k + 4`, least significant
first, and byte `i` is byte `i % 4` of field `i / 4`. An image has no header exactly when it is
shorter than sixteen bytes, and is reported so with its length; otherwise it splits into the
header its first sixteen bytes hold and the rest, so a header followed by any payload parses back
into both. Every header a build makes, and the standard one, has the magic and starts with the
bytes `XVX5`. -/
theorem header_codec_is_a_bijection :
    (∀ h : SignatureHeader, ofBytes h.toBytes = h) ∧
    (∀ bytes : Bytes, bytes.length = 16 → (ofBytes bytes).toBytes = bytes) ∧
    (∀ (h : SignatureHeader) (k : Nat), k < 4 →
      (h.toBytes.drop (4 * k)).take 4 = LittleEndian.word32 (h.fields.getD k 0)) ∧
    (∀ (h : SignatureHeader) (i : Nat), i < 16 →
      h.toBytes[i]? = (LittleEndian.word32 (h.fields.getD (i / 4) 0))[i % 4]?) ∧
    (∀ (image : Bytes) (e : HeaderError),
      parse image = .error e ↔ image.length < 16 ∧ e = .truncated 16 image.length) ∧
    (∀ image : Bytes, 16 ≤ image.length →
      parse image = .ok (ofBytes (image.take 16), image.drop 16)) ∧
    (∀ (h : SignatureHeader) (payload : Bytes), parse (h.toBytes ++ payload) = .ok (h, payload)) ∧
    (∀ (owner : ProgramOwner) (flags : ProgramFlags),
      (new owner flags).hasValidMagic = true ∧ (new owner flags).toBytes.take 4 = "XVX5".toUTF8.toList) ∧
    standard.hasValidMagic = true ∧ standard.toBytes.take 4 = "XVX5".toUTF8.toList :=
  ⟨ofBytes_toBytes, toBytes_ofBytes, fun h _ hk => toBytes_field h hk,
    fun h _ hi => getElem?_toBytes h hi, parse_eq_error_iff, fun _ h => parse_of_le h,
    parse_toBytes_append, fun owner flags => ⟨hasValidMagic_new owner flags, take_toBytes_new owner flags⟩,
    hasValidMagic_new .partner .empty, take_toBytes_new .partner .empty⟩

/-- The header of a partner's program with two options set decodes from its sixteen bytes and
encodes back to them. -/
theorem partner_header_bytes :
    [0x58, 0x56, 0x58, 0x35, 0, 0, 0, 0, 2, 0, 0, 0, 3, 0, 0, 0].length = 16 ∧
      (ofBytes [0x58, 0x56, 0x58, 0x35, 0, 0, 0, 0, 2, 0, 0, 0, 3, 0, 0, 0]).toBytes =
        [0x58, 0x56, 0x58, 0x35, 0, 0, 0, 0, 2, 0, 0, 0, 3, 0, 0, 0] :=
  ⟨rfl, header_codec_is_a_bijection.2.1 _ rfl⟩

/-- The partner header with options one and two, on the wire. -/
example : (new .partner (.killTasksOnExit ||| .invertGraphics)).toBytes =
    [0x58, 0x56, 0x58, 0x35, 0, 0, 0, 0, 2, 0, 0, 0, 3, 0, 0, 0] := by
  decide

end SignatureHeader

end DeviceBoot
