/-!
# Little-endian words

The device stores every multi-byte field least significant byte first. A field of `k` bytes is
`split n k`; reading bytes back is `combine`. Byte strings are lists of bytes, machine words are
64 bits wide (eight bytes), as on the host the library is tested on.

Main statements: `combine_split` and `split_combine` (the two halves of the codec),
`length_split`, and `read32?_eq_some_iff`.
-/

namespace DeviceBoot

/-- A byte string. -/
abbrev Bytes := List UInt8

/-- A machine word. -/
abbrev Word := UInt64

/-- Bytes in a machine word, which is also the alignment of a word. -/
def wordBytes : Nat := 8

namespace LittleEndian

/-- The value of a byte string read least significant byte first. -/
def combine : List UInt8 → Nat
  | [] => 0
  | b :: rest => b.toNat + 256 * combine rest

/-- The `k` low bytes of `n`, least significant first. -/
def split (n : Nat) : Nat → List UInt8
  | 0 => []
  | k + 1 => UInt8.ofNat (n % 256) :: split (n / 256) k

/-- The four bytes of a 32-bit field. -/
def word32 (x : UInt32) : Bytes := split x.toNat 4

/-- The two bytes of a 16-bit field. -/
def word16 (x : UInt16) : Bytes := split x.toNat 2

/-- The 32-bit field that four bytes hold. -/
def ofWord32 (bytes : Bytes) : UInt32 := UInt32.ofNat (combine bytes)

/-- The 32-bit field at byte offset `offset`, if four bytes are there. -/
def read32? (bytes : Bytes) (offset : Nat) : Option UInt32 :=
  if offset + 4 ≤ bytes.length then some (ofWord32 ((bytes.drop offset).take 4)) else none

/-- The bytes of a list of 16-bit words, each least significant byte first. -/
def words16 (words : List UInt16) : Bytes := words.flatMap word16

@[simp] theorem length_split (n k : Nat) : (split n k).length = k := by
  induction k generalizing n with
  | zero => rfl
  | succ k ih => simp [split, ih]

theorem combine_split (n k : Nat) : combine (split n k) = n % Nat.pow 256 k := by
  show combine (split n k) = n % 256 ^ k
  induction k generalizing n with
  | zero => simp [split, combine, Nat.mod_one]
  | succ k ih =>
    simp only [split, combine, ih]
    rw [Nat.pow_succ', Nat.mod_mul]
    simp

theorem combine_lt (bytes : List UInt8) : combine bytes < Nat.pow 256 bytes.length := by
  show combine bytes < 256 ^ bytes.length
  induction bytes with
  | nil => simp [combine]
  | cons b rest ih =>
    have := b.toNat_lt
    simp only [combine, List.length_cons, Nat.pow_succ]
    have : 256 * combine rest + 256 ≤ 256 * 256 ^ rest.length := by
      have := Nat.mul_le_mul_left 256 (Nat.succ_le_of_lt ih)
      omega
    rw [Nat.mul_comm (256 ^ rest.length)]
    omega

theorem split_combine (bytes : List UInt8) : split (combine bytes) bytes.length = bytes := by
  induction bytes with
  | nil => rfl
  | cons b rest ih =>
    have hb := b.toNat_lt
    have hmod : (b.toNat + 256 * combine rest) % 256 = b.toNat := by omega
    have hdiv : (b.toNat + 256 * combine rest) / 256 = combine rest := by omega
    simp only [combine, List.length_cons, split, hmod, hdiv, ih, UInt8.ofNat_toNat]

@[simp] theorem length_word32 (x : UInt32) : (word32 x).length = 4 := length_split _ _

/-- A 32-bit field is four bytes. -/
theorem exists_word32 (x : UInt32) : ∃ a b c d, word32 x = [a, b, c, d] := ⟨_, _, _, _, rfl⟩

theorem ofWord32_word32 (x : UInt32) : ofWord32 (word32 x) = x := by
  have hx := x.toNat_lt
  simp only [ofWord32, word32, combine_split]
  rw [Nat.mod_eq_of_lt (by simpa using hx)]
  exact UInt32.ofNat_toNat

theorem word32_ofWord32 (bytes : Bytes) (h : bytes.length = 4) : word32 (ofWord32 bytes) = bytes := by
  have hlt := combine_lt bytes
  rw [h] at hlt
  have hval : (UInt32.ofNat (combine bytes)).toNat = combine bytes := by
    rw [UInt32.toNat_ofNat']
    exact Nat.mod_eq_of_lt (by simpa using hlt)
  simp only [word32, ofWord32, hval]
  have := split_combine bytes
  rwa [h] at this

/-- A field is read exactly where four bytes remain. -/
theorem read32?_eq_some_iff (bytes : Bytes) (offset : Nat) (w : UInt32) :
    read32? bytes offset = some w ↔ offset + 4 ≤ bytes.length ∧ ofWord32 ((bytes.drop offset).take 4) = w := by
  unfold read32?
  split
  · simp_all
  · constructor
    · intro h; cases h
    · intro h; omega

end LittleEndian

end DeviceBoot
