/-!
# Hexadecimal text

Bytes travel as lowercase hexadecimal text, two digits a byte, high half first. Numbers in
messages are written `0x` followed by their lowercase digits, either as they come or zero
padded to a total width.

Main statements: `decode_encode` (reading the text of a byte string gives it back) and
`length_encode` (two characters a byte).
-/

namespace DeviceBoot

namespace Hex

/-- The lowercase digit of a value below sixteen. -/
def digit (n : Nat) : Char :=
  if n < 10 then Char.ofNat (48 + n) else Char.ofNat (87 + n)

/-- The value of a hexadecimal digit, either case. -/
def value? (c : Char) : Option Nat :=
  if '0' ≤ c ∧ c ≤ '9' then some (c.toNat - 48)
  else if 'a' ≤ c ∧ c ≤ 'f' then some (c.toNat - 87)
  else if 'A' ≤ c ∧ c ≤ 'F' then some (c.toNat - 55)
  else none

/-- The digits of `n` in base sixteen, most significant first; zero has the one digit `0`. -/
def digits (n : Nat) : List Char :=
  if n < 16 then [digit n] else digits (n / 16) ++ [digit (n % 16)]
termination_by n
decreasing_by omega

/-- `n` in the alternate form `0x…`, with no padding. -/
def prefixed (n : Nat) : String :=
  "0x" ++ String.ofList (digits n)

/-- `n` in the alternate form padded with zeros after `0x` to `width` characters in all. -/
def padded (width n : Nat) : String :=
  let ds := digits n
  "0x" ++ String.ofList (List.replicate (width - 2 - ds.length) '0' ++ ds)

/-- The two digits of one byte. -/
def byteDigits (b : UInt8) : List Char :=
  [digit (b.toNat / 16), digit (b.toNat % 16)]

/-- The lowercase text of a byte string. -/
def encode (bytes : List UInt8) : String :=
  String.ofList (bytes.flatMap byteDigits)

/-- Why a text is not the hexadecimal form of a byte string. -/
inductive DecodeError where
  /-- An odd number of digits cannot pair up into bytes. -/
  | oddLength
  /-- A character that is no hexadecimal digit. -/
  | badDigit
  deriving DecidableEq, Repr

/-- Pair digits into bytes, high half first. -/
def decodeDigits : List Char → Except DecodeError (List UInt8)
  | [] => .ok []
  | [_] => .error .oddLength
  | hi :: lo :: rest =>
    match value? hi, value? lo with
    | some h, some l => (decodeDigits rest).map (fun tail => UInt8.ofNat (16 * h + l) :: tail)
    | _, _ => .error .badDigit

/-- Read hexadecimal text; an odd length is reported before any bad digit. -/
def decode (text : String) : Except DecodeError (List UInt8) :=
  if text.length % 2 = 1 then .error .oddLength else decodeDigits text.toList

theorem digit_lt (n : Nat) (h : n < 16) : value? (digit n) = some n := by
  rcases n with _ | _ | _ | _ | _ | _ | _ | _ | _ | _ | _ | _ | _ | _ | _ | _ | n
  all_goals first | rfl | omega

theorem decodeDigits_byteDigits (bytes : List UInt8) :
    decodeDigits (bytes.flatMap byteDigits) = .ok bytes := by
  induction bytes with
  | nil => rfl
  | cons b rest ih =>
    have hb := b.toNat_lt
    have hhi : value? (digit (b.toNat / 16)) = some (b.toNat / 16) := digit_lt _ (by omega)
    have hlo : value? (digit (b.toNat % 16)) = some (b.toNat % 16) := digit_lt _ (by omega)
    have hbyte : UInt8.ofNat (16 * (b.toNat / 16) + b.toNat % 16) = b := by
      rw [show 16 * (b.toNat / 16) + b.toNat % 16 = b.toNat by omega]
      exact UInt8.ofNat_toNat
    simp [byteDigits, decodeDigits, hhi, hlo, ih, hbyte, Except.map]

/-- **Two characters a byte.** -/
theorem length_encode (bytes : List UInt8) : (encode bytes).length = 2 * bytes.length := by
  induction bytes with
  | nil => rfl
  | cons b rest ih =>
    simp only [encode, String.length_ofList, List.flatMap_cons, List.length_append] at ih ⊢
    simp [byteDigits, ih]
    omega

/-- **Reading back.** The text of a byte string reads back as that byte string. -/
theorem decode_encode (bytes : List UInt8) : decode (encode bytes) = .ok bytes := by
  have hlen := length_encode bytes
  unfold decode
  rw [if_neg (by omega)]
  simpa [encode] using decodeDigits_byteDigits bytes

end Hex

end DeviceBoot
