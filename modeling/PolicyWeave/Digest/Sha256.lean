/-!
# SHA-256

The digest of a run of bytes, as a fold of one compression step over the
sixteen-word blocks of the padded message.

* `pad` appends the end mark, the fill and the bit length.
* `schedule` extends the sixteen words of a block to sixty-four.
* `compress` runs the sixty-four rounds and adds the result to the state.
* `digest` and `hexDigest` are the digest as bytes and as text.
-/

namespace PolicyWeave.Digest

/-- The eight words that the rounds transform. -/
structure HashState where
  a : UInt32
  b : UInt32
  c : UInt32
  d : UInt32
  e : UInt32
  f : UInt32
  g : UInt32
  h : UInt32

/-- The constants of the sixty-four rounds. -/
def roundConstants : List UInt32 :=
  [0x428a2f98, 0x71374491, 0xb5c0fbcf, 0xe9b5dba5, 0x3956c25b, 0x59f111f1,
    0x923f82a4, 0xab1c5ed5, 0xd807aa98, 0x12835b01, 0x243185be, 0x550c7dc3,
    0x72be5d74, 0x80deb1fe, 0x9bdc06a7, 0xc19bf174, 0xe49b69c1, 0xefbe4786,
    0x0fc19dc6, 0x240ca1cc, 0x2de92c6f, 0x4a7484aa, 0x5cb0a9dc, 0x76f988da,
    0x983e5152, 0xa831c66d, 0xb00327c8, 0xbf597fc7, 0xc6e00bf3, 0xd5a79147,
    0x06ca6351, 0x14292967, 0x27b70a85, 0x2e1b2138, 0x4d2c6dfc, 0x53380d13,
    0x650a7354, 0x766a0abb, 0x81c2c92e, 0x92722c85, 0xa2bfe8a1, 0xa81a664b,
    0xc24b8b70, 0xc76c51a3, 0xd192e819, 0xd6990624, 0xf40e3585, 0x106aa070,
    0x19a4c116, 0x1e376c08, 0x2748774c, 0x34b0bcb5, 0x391c0cb3, 0x4ed8aa4a,
    0x5b9cca4f, 0x682e6ff3, 0x748f82ee, 0x78a5636f, 0x84c87814, 0x8cc70208,
    0x90befffa, 0xa4506ceb, 0xbef9a3f7, 0xc67178f2]

/-- The state before the first block. -/
def initialState : HashState :=
  ⟨0x6a09e667, 0xbb67ae85, 0x3c6ef372, 0xa54ff53a,
    0x510e527f, 0x9b05688c, 0x1f83d9ab, 0x5be0cd19⟩

/-- A word turned right. -/
def rotateRight (x : UInt32) (n : UInt32) : UInt32 :=
  (x >>> n) ||| (x <<< (32 - n))

/-! ## Padding -/

/-- The big-endian bytes of a 64-bit length. -/
def lengthBytes (n : Nat) : List UInt8 :=
  (List.range 8).map fun i => UInt8.ofNat (n >>> (8 * (7 - i)))

/-- The message with its end mark, fill and length in bits. -/
def pad (bytes : List UInt8) : List UInt8 :=
  let n := bytes.length
  bytes ++ 0x80 :: List.replicate ((119 - n % 64) % 64) 0
    ++ lengthBytes (8 * n)

/-- Bytes as big-endian words. -/
def wordsOf : List UInt8 → List UInt32
  | a :: b :: c :: d :: rest =>
    ((a.toUInt32 <<< 24) ||| (b.toUInt32 <<< 16) ||| (c.toUInt32 <<< 8)
      ||| d.toUInt32) :: wordsOf rest
  | _ => []

/-! ## Blocks -/

/-- The words of the schedule after a window of sixteen. -/
def extendSchedule : Nat → List UInt32 → List UInt32
  | 0, _ => []
  | n + 1, window =>
    match window with
    | w0 :: w1 :: rest =>
      let w9 := window.getD 9 0
      let w14 := window.getD 14 0
      let s0 := rotateRight w1 7 ^^^ rotateRight w1 18 ^^^ (w1 >>> 3)
      let s1 := rotateRight w14 17 ^^^ rotateRight w14 19 ^^^ (w14 >>> 10)
      let w := w0 + s0 + w9 + s1
      w :: extendSchedule n (w1 :: rest ++ [w])
    | _ => []

/-- The sixty-four words of a block. -/
def schedule (block : List UInt32) : List UInt32 :=
  block ++ extendSchedule 48 block

/-- One round. -/
def hashRound (s : HashState) (kw : UInt32 × UInt32) : HashState :=
  let s1 := rotateRight s.e 6 ^^^ rotateRight s.e 11 ^^^ rotateRight s.e 25
  let ch := (s.e &&& s.f) ^^^ ((~~~ s.e) &&& s.g)
  let t1 := s.h + s1 + ch + kw.1 + kw.2
  let s0 := rotateRight s.a 2 ^^^ rotateRight s.a 13 ^^^ rotateRight s.a 22
  let maj := (s.a &&& s.b) ^^^ (s.a &&& s.c) ^^^ (s.b &&& s.c)
  ⟨t1 + (s0 + maj), s.a, s.b, s.c, s.d + t1, s.e, s.f, s.g⟩

/-- One block. -/
def compress (s : HashState) (block : List UInt32) : HashState :=
  let r := (roundConstants.zip (schedule block)).foldl hashRound s
  ⟨s.a + r.a, s.b + r.b, s.c + r.c, s.d + r.d,
    s.e + r.e, s.f + r.f, s.g + r.g, s.h + r.h⟩

/-- The blocks of a message, one after another. -/
def compressBlocks : Nat → HashState → List UInt32 → HashState
  | 0, s, _ => s
  | n + 1, s, words =>
    compressBlocks n (compress s (words.take 16)) (words.drop 16)

/-! ## Digests -/

/-- The big-endian bytes of a word. -/
def wordBytes (w : UInt32) : List UInt8 :=
  [(w >>> 24).toUInt8, (w >>> 16).toUInt8, (w >>> 8).toUInt8, w.toUInt8]

/-- The thirty-two bytes of the digest. -/
def digest (bytes : List UInt8) : List UInt8 :=
  let words := wordsOf (pad bytes)
  let s := compressBlocks (words.length / 16) initialState words
  [s.a, s.b, s.c, s.d, s.e, s.f, s.g, s.h].flatMap wordBytes

/-- Two hexadecimal digits of a byte. -/
def hexByte (b : UInt8) : List Char :=
  let digit (n : Nat) : Char :=
    if n < 10 then Char.ofNat (48 + n) else Char.ofNat (87 + n)
  [digit (b.toNat / 16), digit (b.toNat % 16)]

/-- The digest of a text as sixty-four hexadecimal digits. -/
def hexDigest (s : String) : String :=
  String.ofList ((digest s.toUTF8.toList).flatMap hexByte)

end PolicyWeave.Digest
