import LifeStory.Text.Digit

/-!
# Ids of offered choices

Each choice that a manual turn offers gets an id of sixteen random bytes, of which six bits are
fixed to mark the id as random. An id is written as hexadecimal digits in groups of 8, 4, 4, 4
and 12. It is read from that form, also between braces or behind `urn:uuid:`, and from the digits
alone, in both cases of letters.
-/

namespace LifeStory

/-- The id of an offered choice. -/
structure CandidateId where
  bytes : List UInt8
  /-- An id has sixteen bytes. -/
  length_bytes : bytes.length = 16
deriving DecidableEq

namespace CandidateId

/-- The id with the given bytes; missing ones are zero and surplus ones are dropped. -/
def ofBytes (bytes : List UInt8) : CandidateId :=
  ⟨(List.range 16).map fun i ↦ bytes.getD i 0, by simp⟩

/-- The id of zeros, which no offered choice has. -/
def zero : CandidateId := ofBytes []

/-- The bits that mark a random id: the high half of the seventh byte is four, and the two high bits
of the ninth are one and zero. -/
def markByte (index : Nat) (byte : UInt8) : UInt8 :=
  if index = 6 then (byte &&& 0x0F) ||| 0x40
  else if index = 8 then (byte &&& 0x3F) ||| 0x80
  else byte

/-- The id that is made of random bytes. -/
def ofRandom (bytes : List UInt8) : CandidateId := ofBytes (bytes.mapIdx markByte)

/-- The two hexadecimal digits of a byte. -/
def byteDigits (byte : UInt8) : List Char :=
  [Nat.digitChar (byte.toNat / 16), Nat.digitChar (byte.toNat % 16)]

/-- The written form of an id. -/
def toChars (id : CandidateId) : List Char :=
  let digits (low high : Nat) := ((id.bytes.take high).drop low).flatMap byteDigits
  digits 0 4 ++ '-' :: digits 4 6 ++ '-' :: digits 6 8 ++ '-' :: digits 8 10 ++ '-' :: digits 10 16

/-- The written form of an id. -/
def text (id : CandidateId) : String := String.ofList id.toChars

/-- Reads pairs of hexadecimal digits as bytes. -/
def bytes? : List Char → Option (List UInt8)
  | [] => some []
  | [_] => none
  | high :: low :: rest => do
    let high ← Text.hexValue? high
    let low ← Text.hexValue? low
    let rest ← bytes? rest
    return (high * 16 + low).toUInt8 :: rest

/-- Reads the digits of an id without hyphens. -/
def ofDigits? (digits : List Char) : Option CandidateId :=
  (bytes? digits).bind fun bytes ↦
    if h : bytes.length = 16 then some ⟨bytes, h⟩ else none

/-- Reads the digits of an id with hyphens at their places. -/
def ofHyphenated? (cs : List Char) : Option CandidateId :=
  if cs.length = 36 ∧ [8, 13, 18, 23].all fun i ↦ cs[i]? = some '-' then
    ofDigits? (cs.take 8 ++ (cs.drop 9).take 4 ++ (cs.drop 14).take 4 ++ (cs.drop 19).take 4
      ++ cs.drop 24)
  else none

/-- The id that a text is a written form of. -/
def ofText? (s : String) : Option CandidateId :=
  let cs := s.toList
  let urn := "urn:uuid:".toList
  if cs.length = 32 then ofDigits? cs
  else if cs.length = 38 ∧ cs.head? = some '\x7b' ∧ cs.getLast? = some '\x7d' then
    ofHyphenated? ((cs.drop 1).take 36)
  else if urn.isPrefixOf cs then ofHyphenated? (cs.drop urn.length)
  else ofHyphenated? cs

end CandidateId

end LifeStory
