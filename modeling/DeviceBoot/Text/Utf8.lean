/-!
# Reading UTF-8 leniently

Bytes are read as UTF-8, and every maximal ill-formed part (a byte that cannot start a sequence, or
a sequence cut short) stands for one replacement character `U+FFFD`. Well-formed text reads as
itself.

Main definition: `Utf8.decodeLossy`.
-/

namespace DeviceBoot

namespace Utf8

/-- The replacement character. -/
def replacement : Char := '�'

/-- The byte is a continuation byte in `[lo, hi]`. -/
def within (lo hi : UInt8) (b : UInt8) : Bool := lo ≤ b && b ≤ hi

/-- The range the second byte of a sequence must lie in, and the number of continuation bytes,
for a leading byte; `none` for a byte that starts no sequence. -/
def lead (b : UInt8) : Option (UInt8 × UInt8 × Nat) :=
  if b ≤ 0x7f then some (0, 0, 0)
  else if 0xc2 ≤ b ∧ b ≤ 0xdf then some (0x80, 0xbf, 1)
  else if b = 0xe0 then some (0xa0, 0xbf, 2)
  else if b = 0xed then some (0x80, 0x9f, 2)
  else if 0xe1 ≤ b ∧ b ≤ 0xef then some (0x80, 0xbf, 2)
  else if b = 0xf0 then some (0x90, 0xbf, 3)
  else if 0xf1 ≤ b ∧ b ≤ 0xf3 then some (0x80, 0xbf, 3)
  else if b = 0xf4 then some (0x80, 0x8f, 3)
  else none

/-- The code point of a leading byte's payload bits. -/
def leadBits (b : UInt8) (more : Nat) : Nat :=
  match more with
  | 0 => b.toNat
  | 1 => b.toNat % 32
  | 2 => b.toNat % 16
  | _ => b.toNat % 8

/-- Read continuation bytes: `need` more are expected, the first in `[lo, hi]`, the others in
`[0x80, 0xbf]`. Answers the code point and the rest, or how many bytes were consumed before the
sequence broke off. -/
def continuation (lo hi : UInt8) (acc : Nat) : Nat → List UInt8 → Nat ⊕ (Nat × List UInt8)
  | 0, rest => .inr (acc, rest)
  | _ + 1, [] => .inl 0
  | need + 1, b :: rest =>
    if within lo hi b then
      match continuation 0x80 0xbf (acc * 64 + b.toNat % 64) need rest with
      | .inl k => .inl (k + 1)
      | .inr r => .inr r
    else .inl 0

theorem continuation_rest_length (lo hi : UInt8) (acc : Nat) :
    ∀ (need : Nat) (bytes : List UInt8) (c : Nat) (rest : List UInt8),
      continuation lo hi acc need bytes = .inr (c, rest) → rest.length ≤ bytes.length
  | 0, bytes, c, rest, h => by
    simp only [continuation, Sum.inr.injEq, Prod.mk.injEq] at h
    exact Nat.le_of_eq (congrArg List.length h.2.symm)
  | need + 1, [], c, rest, h => by simp [continuation] at h
  | need + 1, b :: bs, c, rest, h => by
    simp only [continuation] at h
    split at h
    · split at h
      · cases h
      · rename_i r hr
        cases h
        have := continuation_rest_length 0x80 0xbf _ need bs _ _ hr
        simp only [List.length_cons]
        omega
    · cases h

theorem continuation_inl_le (lo hi : UInt8) (acc : Nat) :
    ∀ (need : Nat) (bytes : List UInt8) (k : Nat),
      continuation lo hi acc need bytes = .inl k → k ≤ bytes.length
  | 0, bytes, k, h => by simp [continuation] at h
  | need + 1, [], k, h => by
    simp only [continuation, Sum.inl.injEq] at h
    omega
  | need + 1, b :: bs, k, h => by
    simp only [continuation] at h
    split at h
    · split at h
      · rename_i k' hk
        cases h
        have := continuation_inl_le 0x80 0xbf _ need bs k' hk
        simp only [List.length_cons]
        omega
      · cases h
    · cases h; simp

/-- One character off the front, and the bytes after it. -/
def next (b : UInt8) (rest : List UInt8) : Char × List UInt8 :=
  match lead b with
  | none => (replacement, rest)
  | some (lo, hi, more) =>
    match continuation lo hi (leadBits b more) more rest with
    | .inr (c, rest') => (Char.ofNat c, rest')
    | .inl k => (replacement, rest.drop k)

theorem next_length (b : UInt8) (rest : List UInt8) : (next b rest).2.length ≤ rest.length := by
  unfold next
  split
  · exact Nat.le_refl _
  · split
    · rename_i c rest' h
      exact continuation_rest_length _ _ _ _ _ _ _ h
    · simp

/-- Read bytes as UTF-8, replacing each ill-formed part by `U+FFFD`. -/
def decodeChars : List UInt8 → List Char
  | [] => []
  | b :: rest =>
    match h : next b rest with
    | (c, rest') =>
      have : rest'.length < rest.length + 1 := by
        have := next_length b rest
        rw [h] at this
        exact Nat.lt_succ_of_le this
      c :: decodeChars rest'
termination_by bytes => bytes.length

/-- The text bytes spell, with ill-formed parts replaced. -/
def decodeLossy (bytes : List UInt8) : String := String.ofList (decodeChars bytes)

end Utf8

end DeviceBoot
