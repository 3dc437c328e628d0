/-!
# SHA-256 and HMAC

The digest of a byte list, and the keyed digest that is built on it. Messages are short here, so
that byte lists do.
-/

namespace LifeStory.Digest

/-- The round constants of SHA-256. -/
def roundConstants : List UInt32 :=
  [0x428a2f98, 0x71374491, 0xb5c0fbcf, 0xe9b5dba5, 0x3956c25b, 0x59f111f1, 0x923f82a4, 0xab1c5ed5,
   0xd807aa98, 0x12835b01, 0x243185be, 0x550c7dc3, 0x72be5d74, 0x80deb1fe, 0x9bdc06a7, 0xc19bf174,
   0xe49b69c1, 0xefbe4786, 0x0fc19dc6, 0x240ca1cc, 0x2de92c6f, 0x4a7484aa, 0x5cb0a9dc, 0x76f988da,
   0x983e5152, 0xa831c66d, 0xb00327c8, 0xbf597fc7, 0xc6e00bf3, 0xd5a79147, 0x06ca6351, 0x14292967,
   0x27b70a85, 0x2e1b2138, 0x4d2c6dfc, 0x53380d13, 0x650a7354, 0x766a0abb, 0x81c2c92e, 0x92722c85,
   0xa2bfe8a1, 0xa81a664b, 0xc24b8b70, 0xc76c51a3, 0xd192e819, 0xd6990624, 0xf40e3585, 0x106aa070,
   0x19a4c116, 0x1e376c08, 0x2748774c, 0x34b0bcb5, 0x391c0cb3, 0x4ed8aa4a, 0x5b9cca4f, 0x682e6ff3,
   0x748f82ee, 0x78a5636f, 0x84c87814, 0x8cc70208, 0x90befffa, 0xa4506ceb, 0xbef9a3f7, 0xc67178f2]

/-- The eight words that the rounds work on. -/
structure Words where
  a : UInt32
  b : UInt32
  c : UInt32
  d : UInt32
  e : UInt32
  f : UInt32
  g : UInt32
  h : UInt32
deriving DecidableEq, Repr

/-- The words before the first block. -/
def initial : Words :=
  ⟨0x6a09e667, 0xbb67ae85, 0x3c6ef372, 0xa54ff53a, 0x510e527f, 0x9b05688c, 0x1f83d9ab, 0x5be0cd19⟩

/-- Rotates the bits of a word to the right. -/
def rotateRight (x : UInt32) (k : UInt32) : UInt32 := (x >>> k) ||| (x <<< (32 - k))

/-- One round with its constant and its word of the schedule. -/
def round (w : Words) (constant scheduled : UInt32) : Words :=
  let s1 := rotateRight w.e 6 ^^^ rotateRight w.e 11 ^^^ rotateRight w.e 25
  let ch := (w.e &&& w.f) ^^^ (~~~w.e &&& w.g)
  let t1 := w.h + s1 + ch + constant + scheduled
  let s0 := rotateRight w.a 2 ^^^ rotateRight w.a 13 ^^^ rotateRight w.a 22
  let maj := (w.a &&& w.b) ^^^ (w.a &&& w.c) ^^^ (w.b &&& w.c)
  ⟨t1 + (s0 + maj), w.a, w.b, w.c, w.d + t1, w.e, w.f, w.g⟩

/-- The word of the schedule that follows sixteen others. -/
def scheduleNext (last : List UInt32) : UInt32 :=
  let w15 := last.getD 1 0
  let w2 := last.getD 14 0
  let s0 := rotateRight w15 7 ^^^ rotateRight w15 18 ^^^ (w15 >>> 3)
  let s1 := rotateRight w2 17 ^^^ rotateRight w2 19 ^^^ (w2 >>> 10)
  last.getD 0 0 + s0 + last.getD 9 0 + s1

/-- The rounds over the constants that are left; the next sixteen words of the schedule are at
hand. -/
def rounds : List UInt32 → List UInt32 → Words → Words
  | [], _, w => w
  | constant :: constants, window, w =>
    let scheduled := window.getD 0 0
    rounds constants (window.drop 1 ++ [scheduleNext window]) (round w constant scheduled)

/-- Four bytes as a word, the high one first. -/
def word (b0 b1 b2 b3 : UInt8) : UInt32 :=
  (b0.toUInt32 <<< 24) ||| (b1.toUInt32 <<< 16) ||| (b2.toUInt32 <<< 8) ||| b3.toUInt32

/-- Bytes as words. -/
def wordsOfBytes : List UInt8 → List UInt32
  | b0 :: b1 :: b2 :: b3 :: rest => word b0 b1 b2 b3 :: wordsOfBytes rest
  | _ => []

/-- The bytes of a word, the high one first. -/
def bytesOfWord (w : UInt32) : List UInt8 :=
  [(w >>> 24).toUInt8, (w >>> 16).toUInt8, (w >>> 8).toUInt8, w.toUInt8]

/-- Takes in one block of sixteen words. -/
def absorb (w : Words) (block : List UInt32) : Words :=
  let r := rounds roundConstants block w
  ⟨w.a + r.a, w.b + r.b, w.c + r.c, w.d + r.d, w.e + r.e, w.f + r.f, w.g + r.g, w.h + r.h⟩

/-- Takes in the blocks of a list of words. -/
def absorbAll (w : Words) (words : List UInt32) : Words :=
  if words.length < 16 then w
  else absorbAll (absorb w (words.take 16)) (words.drop 16)
termination_by words.length
decreasing_by
  have := List.length_drop (i := 16) (l := words)
  omega

/-- The bytes of a length, the high one first. -/
def lengthBytes (bits : Nat) : List UInt8 :=
  (List.range 8).map fun i ↦ (bits >>> (8 * (7 - i))).toUInt8

/-- The message with the bit that ends it, zeros up to a whole number of blocks, and its length. -/
def padded (message : List UInt8) : List UInt8 :=
  let fill := (55 + 64 - message.length % 64) % 64
  message ++ [0x80] ++ List.replicate fill 0 ++ lengthBytes (8 * message.length)

/-- The SHA-256 digest of a message. -/
def sha256 (message : List UInt8) : List UInt8 :=
  let w := absorbAll initial (wordsOfBytes (padded message))
  [w.a, w.b, w.c, w.d, w.e, w.f, w.g, w.h].flatMap bytesOfWord

/-- The keyed digest of a message, for a key of at most one block. -/
def hmac (key message : List UInt8) : List UInt8 :=
  let block := key ++ List.replicate (64 - key.length) 0
  let inner := sha256 (block.map (· ^^^ 0x36) ++ message)
  sha256 (block.map (· ^^^ 0x5C) ++ inner)

end LifeStory.Digest
