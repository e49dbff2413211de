import KeyCustody.Cipher.Aes256

/-!
# AES-256-GCM

The authenticated cipher with 256-bit keys, nonces of twelve bytes and no associated data. Sealing adds
a key stream to the plaintext and appends a tag of sixteen bytes, a polynomial in the ciphertext over
the field of `2^128` elements. Opening recomputes the tag before it gives anything back.
-/

namespace KeyCustody

namespace Gcm

/-- The number of bytes of a tag. -/
def tagSize : Nat := 16

/-- The number of bytes of a nonce. -/
def nonceSize : Nat := 12

/-- An element of the field of `2^128` elements, its first coefficient in the highest bit. -/
structure Element where
  /-- The first 64 coefficients. -/
  high : UInt64
  /-- The last 64 coefficients. -/
  low : UInt64
deriving DecidableEq, Inhabited

/-- The sum of two elements. -/
def Element.add (left right : Element) : Element :=
  ⟨left.high ^^^ right.high, left.low ^^^ right.low⟩

/-- Adds to `(sumHigh, sumLow)` the product of the first `steps` coefficients of one factor, kept in
the highest bits, with the other factor, which is multiplied by `x` at each step. -/
def Element.mulSteps :
    Nat → UInt64 → UInt64 → UInt64 → UInt64 → UInt64 → UInt64 → Element
  | 0, _, _, _, _, sumHigh, sumLow => ⟨sumHigh, sumLow⟩
  | steps + 1, high, low, factorHigh, factorLow, sumHigh, sumLow =>
    let isSet := high >>> 63 != 0
    let carry : UInt64 := if factorLow &&& 1 = 0 then 0 else 0xE100000000000000
    Element.mulSteps steps ((high <<< 1) ||| (low >>> 63)) (low <<< 1)
      ((factorHigh >>> 1) ^^^ carry) ((factorLow >>> 1) ||| (factorHigh <<< 63))
      (if isSet then sumHigh ^^^ factorHigh else sumHigh)
      (if isSet then sumLow ^^^ factorLow else sumLow)

/-- The product of two elements. -/
def Element.mul (left right : Element) : Element :=
  Element.mulSteps 128 left.high left.low right.high right.low 0 0

/-- The number whose digits are the first eight bytes, missing ones read as zero. -/
def wordAt (bytes : ByteString) : UInt64 :=
  let filled : ByteString := (bytes ++ List.replicate (8 - bytes.length) 0).take 8
  filled.foldl (fun word byte => (word <<< 8) ||| byte.toUInt64) 0

/-- The element of the first sixteen bytes, filled with zeros. -/
def Element.ofBytes (bytes : ByteString) : Element :=
  ⟨wordAt (bytes.take 8), wordAt ((bytes.drop 8).take 8)⟩

/-- Absorbs the first `count` blocks of a byte string into a sum: each is added and the sum multiplied
by the hash key. -/
def absorb (hashKey : Element) : Nat → Element → ByteString → Element
  | 0, sum, _ => sum
  | count + 1, sum, bytes =>
    absorb hashKey count ((sum.add (Element.ofBytes bytes)).mul hashKey) (bytes.drop 16)

/-- The number of blocks of sixteen bytes that hold `length` bytes. -/
def blockCount (length : Nat) : Nat :=
  (length + 15) / 16

/-- The polynomial hash of a ciphertext and its length. -/
def polynomialHash (hashKey : Element) (ciphertext : ByteString) : Element :=
  let sum := absorb hashKey (blockCount ciphertext.length) ⟨0, 0⟩ ciphertext
  (sum.add ⟨0, (8 * ciphertext.length).toUInt64⟩).mul hashKey

/-- The block that the cipher makes of a nonce and a counter. -/
def counterBlock (words : Array UInt32) (nonce : ByteString) (counter : UInt32) : Aes256.State :=
  match Aes256.wordsOf nonce with
  | n0 :: n1 :: n2 :: _ => Aes256.encrypt words ⟨n0, n1, n2, counter⟩
  | _ => Aes256.encrypt words ⟨0, 0, 0, counter⟩

/-- The key stream under a nonce: the blocks of the counters from two on, cut to `length` bytes. -/
def keyStream (words : Array UInt32) (nonce : ByteString) (length : Nat) : ByteString :=
  ((List.range (blockCount length)).flatMap fun position =>
    (counterBlock words nonce (position + 2).toUInt32).toBytes).take length

/-- Adds the key stream; a second time takes it away again. -/
def applyKeyStream (words : Array UInt32) (nonce : ByteString) (text : ByteString) : ByteString :=
  ByteString.xor text (keyStream words nonce text.length)

/-- The tag of a ciphertext. -/
def tag (words : Array UInt32) (nonce : ByteString) (ciphertext : ByteString) : ByteString :=
  let zeroBlock := (Aes256.encrypt words ⟨0, 0, 0, 0⟩).toBytes
  let hash := polynomialHash (Element.ofBytes zeroBlock) ciphertext
  ByteString.xor
    (ByteString.bigEndian 8 hash.high.toNat ++ ByteString.bigEndian 8 hash.low.toNat)
    (counterBlock words nonce 1).toBytes

/-- Seals a plaintext: the encrypted text followed by its tag. -/
def encrypt (key nonce plaintext : ByteString) : ByteString :=
  let words := Aes256.schedule key
  let ciphertext := applyKeyStream words nonce plaintext
  ciphertext ++ tag words nonce ciphertext

/-- Opens a sealed byte string: the plaintext if the tag at its end is right. -/
def decrypt? (key nonce sealed : ByteString) : Option ByteString :=
  if sealed.length < tagSize then none
  else
    let words := Aes256.schedule key
    let ciphertext := sealed.take (sealed.length - tagSize)
    if sealed.drop (sealed.length - tagSize) = tag words nonce ciphertext then
      some (applyKeyStream words nonce ciphertext)
    else none

end Gcm

end KeyCustody
