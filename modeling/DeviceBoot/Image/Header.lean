import DeviceBoot.Config
/-!
# Signature header

A program image starts with a 16-byte signature header: four 32-bit little-endian fields, the
magic number, the program type, the owner and the flags. The rest of the image is the payload.

Main statements: `ofBytes_toBytes` and `toBytes_ofBytes` (the codec is a bijection between
headers and 16-byte strings), `parse_toBytes_append` and `parse_eq_error_iff`.
-/

namespace DeviceBoot

/-- The kind of program an image holds. -/
structure ProgramType where
  code : UInt32
  deriving DecidableEq, Repr

/-- A user program, the only kind this layer builds. -/
def ProgramType.user : ProgramType := ⟨0⟩

/-- Who a program image belongs to. -/
structure ProgramOwner where
  code : UInt32
  deriving DecidableEq, Repr

namespace ProgramOwner

/-- Owned by the firmware itself. -/
def system : ProgramOwner := ⟨0⟩
/-- Owned by the controller's vendor. -/
def vendor : ProgramOwner := ⟨1⟩
/-- Owned by a partner; this is what user builds claim. -/
def partner : ProgramOwner := ⟨2⟩

end ProgramOwner

/-- Option bits of a program image. -/
structure ProgramFlags where
  bits : UInt32
  deriving DecidableEq, Repr

namespace ProgramFlags

/-- No option set. -/
def empty : ProgramFlags := ⟨0⟩
/-- Draw with inverted colours. -/
def invertGraphics : ProgramFlags := ⟨1⟩
/-- Stop the program's tasks when it exits. -/
def killTasksOnExit : ProgramFlags := ⟨2⟩
/-- Draw with the firmware's theme. -/
def themedGraphics : ProgramFlags := ⟨4⟩

/-- Both sets of options. -/
instance : OrOp ProgramFlags := ⟨fun a b => ⟨a.bits ||| b.bits⟩⟩

/-- Every option of `other` is set in `self`. -/
def contains (self other : ProgramFlags) : Bool :=
  self.bits &&& other.bits == other.bits

@[simp] theorem bits_or (a b : ProgramFlags) : (a ||| b).bits = a.bits ||| b.bits := rfl

end ProgramFlags

/-- Why an image has no header. -/
inductive HeaderError where
  /-- The image is shorter than a header. -/
  | truncated (needed found : Nat)
  deriving DecidableEq, Repr

/-- The text a header error is reported with. -/
def HeaderError.message : HeaderError → String
  | .truncated needed found => s!"signature header needs {needed} bytes, found {found}"

/-- The four fields at the start of a program image. -/
structure SignatureHeader where
  magic : UInt32
  programType : ProgramType
  programOwner : ProgramOwner
  programFlags : ProgramFlags
  deriving DecidableEq, Repr

namespace SignatureHeader

/-- Bytes in a header. -/
def size : Nat := 16

/-- A user program's header for an owner and flags. -/
def new (owner : ProgramOwner) (flags : ProgramFlags) : SignatureHeader :=
  ⟨signatureMagic, .user, owner, flags⟩

/-- The header a user build carries unless told otherwise: owned by a partner, no options. -/
def standard : SignatureHeader := new .partner .empty

/-- The wire form: the four fields in order, each little-endian. -/
def toBytes (h : SignatureHeader) : Bytes :=
  LittleEndian.word32 h.magic ++ LittleEndian.word32 h.programType.code ++
    LittleEndian.word32 h.programOwner.code ++ LittleEndian.word32 h.programFlags.bits

/-- The header that sixteen bytes hold: field `k` is bytes `4k` to `4k + 4`. -/
def ofBytes (bytes : Bytes) : SignatureHeader :=
  ⟨LittleEndian.ofWord32 (bytes.take 4), ⟨LittleEndian.ofWord32 ((bytes.drop 4).take 4)⟩,
    ⟨LittleEndian.ofWord32 ((bytes.drop 8).take 4)⟩, ⟨LittleEndian.ofWord32 ((bytes.drop 12).take 4)⟩⟩

/-- Split an image into its header and payload. -/
def parse (image : Bytes) : Except HeaderError (SignatureHeader × Bytes) :=
  if image.length < size then .error (.truncated size image.length)
  else .ok (ofBytes (image.take size), image.drop size)

/-- The header starts with the signature magic. -/
def hasValidMagic (h : SignatureHeader) : Bool := h.magic == signatureMagic

@[simp] theorem length_toBytes (h : SignatureHeader) : h.toBytes.length = 16 := by
  simp [toBytes]

theorem ofBytes_toBytes (h : SignatureHeader) : ofBytes h.toBytes = h := by
  rcases h with ⟨m, ⟨t⟩, ⟨o⟩, ⟨f⟩⟩
  obtain ⟨m0, m1, m2, m3, hm⟩ := LittleEndian.exists_word32 m
  obtain ⟨t0, t1, t2, t3, ht⟩ := LittleEndian.exists_word32 t
  obtain ⟨o0, o1, o2, o3, ho⟩ := LittleEndian.exists_word32 o
  obtain ⟨f0, f1, f2, f3, hf⟩ := LittleEndian.exists_word32 f
  have em := LittleEndian.ofWord32_word32 m
  have et := LittleEndian.ofWord32_word32 t
  have eo := LittleEndian.ofWord32_word32 o
  have ef := LittleEndian.ofWord32_word32 f
  rw [hm] at em; rw [ht] at et; rw [ho] at eo; rw [hf] at ef
  simp [ofBytes, toBytes, hm, ht, ho, hf, em, et, eo, ef]

theorem toBytes_ofBytes (bytes : Bytes) (h : bytes.length = 16) : (ofBytes bytes).toBytes = bytes := by
  match bytes, h with
  | [b0, b1, b2, b3, b4, b5, b6, b7, b8, b9, b10, b11, b12, b13, b14, b15], _ =>
    have w : ∀ (l : Bytes), l.length = 4 → LittleEndian.word32 (LittleEndian.ofWord32 l) = l :=
      LittleEndian.word32_ofWord32
    simp [ofBytes, toBytes, w [b0, b1, b2, b3] rfl, w [b4, b5, b6, b7] rfl,
      w [b8, b9, b10, b11] rfl, w [b12, b13, b14, b15] rfl]

/-- **Reading what was written.** A header followed by any payload parses back into both. -/
theorem parse_toBytes_append (h : SignatureHeader) (payload : Bytes) :
    parse (h.toBytes ++ payload) = .ok (h, payload) := by
  have hl := length_toBytes h
  simp [parse, size, hl, ofBytes_toBytes]

/-- An image has no header exactly when it is shorter than sixteen bytes. -/
theorem parse_eq_error_iff (image : Bytes) (e : HeaderError) :
    parse image = .error e ↔ image.length < 16 ∧ e = .truncated 16 image.length := by
  unfold parse size
  split
  · constructor
    · intro h; cases h; exact ⟨by omega, rfl⟩
    · intro h; rw [h.2]
  · constructor
    · intro h; cases h
    · intro h; omega

end SignatureHeader

/-- A code signature: the header followed by four reserved words. -/
structure CodeSignature where
  header : SignatureHeader
  reserved : List UInt32 := [0, 0, 0, 0]
  deriving DecidableEq, Repr

/-- Bytes in a code signature. -/
def CodeSignature.size : Nat := 32

end DeviceBoot
