import DeviceBoot.Text.Hex
import DeviceBoot.Word.LittleEndian
/-!
# SHA-256

The digest the build tool writes into checksum lists and the manifest. A message is padded with a
one bit, zeros and its bit length to whole 64-byte blocks; each block is compressed into the running
state of eight words by sixty-four rounds over a schedule of sixty-four words, the first sixteen
read big-endian from the block.

Main definitions: `Sha256.digest`, `Sha256.hexDigest`.
-/

namespace DeviceBoot

namespace Sha256

/-- The round constants. -/
def roundConstants : Array UInt32 := #[
  0x428a2f98, 0x71374491, 0xb5c0fbcf, 0xe9b5dba5, 0x3956c25b, 0x59f111f1, 0x923f82a4, 0xab1c5ed5,
  0xd807aa98, 0x12835b01, 0x243185be, 0x550c7dc3, 0x72be5d74, 0x80deb1fe, 0x9bdc06a7, 0xc19bf174,
  0xe49b69c1, 0xefbe4786, 0x0fc19dc6, 0x240ca1cc, 0x2de92c6f, 0x4a7484aa, 0x5cb0a9dc, 0x76f988da,
  0x983e5152, 0xa831c66d, 0xb00327c8, 0xbf597fc7, 0xc6e00bf3, 0xd5a79147, 0x06ca6351, 0x14292967,
  0x27b70a85, 0x2e1b2138, 0x4d2c6dfc, 0x53380d13, 0x650a7354, 0x766a0abb, 0x81c2c92e, 0x92722c85,
  0xa2bfe8a1, 0xa81a664b, 0xc24b8b70, 0xc76c51a3, 0xd192e819, 0xd6990624, 0xf40e3585, 0x106aa070,
  0x19a4c116, 0x1e376c08, 0x2748774c, 0x34b0bcb5, 0x391c0cb3, 0x4ed8aa4a, 0x5b9cca4f, 0x682e6ff3,
  0x748f82ee, 0x78a5636f, 0x84c87814, 0x8cc70208, 0x90befffa, 0xa4506ceb, 0xbef9a3f7, 0xc67178f2]

/-- The state before the first block. -/
def initialState : Array UInt32 :=
  #[0x6a09e667, 0xbb67ae85, 0x3c6ef372, 0xa54ff53a, 0x510e527f, 0x9b05688c, 0x1f83d9ab, 0x5be0cd19]

/-- Rotate a word right. -/
def rotr (x : UInt32) (n : UInt32) : UInt32 := (x >>> n) ||| (x <<< (32 - n))

/-- The word read big-endian from four bytes. -/
def word (b0 b1 b2 b3 : UInt8) : UInt32 :=
  (b0.toUInt32 <<< 24) ||| (b1.toUInt32 <<< 16) ||| (b2.toUInt32 <<< 8) ||| b3.toUInt32

/-- The big-endian bytes of a word. -/
def wordBytes (w : UInt32) : Bytes :=
  [(w >>> 24).toUInt8, (w >>> 16).toUInt8, (w >>> 8).toUInt8, w.toUInt8]

/-- The words of a block, read big-endian four bytes at a time. -/
def blockWords : Bytes → List UInt32
  | b0 :: b1 :: b2 :: b3 :: rest => word b0 b1 b2 b3 :: blockWords rest
  | _ => []

/-- The message schedule of a block: its sixteen words, extended to sixty-four. -/
def schedule (block : Bytes) : Array UInt32 :=
  (List.range 48).foldl (fun w i =>
    let t := i + 16
    let a := w.getD (t - 15) 0
    let b := w.getD (t - 2) 0
    let s0 := rotr a 7 ^^^ rotr a 18 ^^^ (a >>> 3)
    let s1 := rotr b 17 ^^^ rotr b 19 ^^^ (b >>> 10)
    w.push (w.getD (t - 16) 0 + s0 + w.getD (t - 7) 0 + s1)) (blockWords block).toArray

/-- One round on the working words `a` to `h`. -/
def round (w : Array UInt32) (v : Array UInt32) (i : Nat) : Array UInt32 :=
  let a := v.getD 0 0
  let b := v.getD 1 0
  let c := v.getD 2 0
  let d := v.getD 3 0
  let e := v.getD 4 0
  let f := v.getD 5 0
  let g := v.getD 6 0
  let h := v.getD 7 0
  let s1 := rotr e 6 ^^^ rotr e 11 ^^^ rotr e 25
  let ch := (e &&& f) ^^^ (~~~e &&& g)
  let t1 := h + s1 + ch + roundConstants.getD i 0 + w.getD i 0
  let s0 := rotr a 2 ^^^ rotr a 13 ^^^ rotr a 22
  let maj := (a &&& b) ^^^ (a &&& c) ^^^ (b &&& c)
  let t2 := s0 + maj
  #[t1 + t2, a, b, c, d + t1, e, f, g]

/-- Compress one block into the state. -/
def compress (state : Array UInt32) (block : Bytes) : Array UInt32 :=
  let w := schedule block
  let v := (List.range 64).foldl (round w) state
  (List.range 8).toArray.map fun i => state.getD i 0 + v.getD i 0

/-- The blocks of a padded message. -/
def blocks (msg : Bytes) : List Bytes :=
  (List.range (msg.length / 64)).map fun i => (msg.drop (64 * i)).take 64

/-- The message padded to whole blocks: a one bit, zeros, and the bit length as eight bytes. -/
def pad (msg : Bytes) : Bytes :=
  let zeros := (119 - msg.length % 64) % 64
  let bits : Bytes := (List.range 8).reverse.map fun i => ((8 * msg.length) >>> (8 * i)).toUInt8
  let fill : Bytes := 0x80 :: List.replicate zeros 0
  msg ++ fill ++ bits

/-- The SHA-256 digest of a message: thirty-two bytes. -/
def digest (msg : Bytes) : Bytes :=
  ((blocks (pad msg)).foldl compress initialState).toList.flatMap wordBytes

/-- The digest in lowercase hex. -/
def hexDigest (msg : Bytes) : String := Hex.encode (digest msg)

end Sha256

end DeviceBoot
