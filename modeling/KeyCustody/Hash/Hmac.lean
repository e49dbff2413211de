import KeyCustody.Hash.Sha256

/-!
# HMAC-SHA-256 and PBKDF2

The keyed hash over SHA-256, an inner digest of the padded key and the message inside an outer one, and
the password-based key derivation that repeats it and adds up the results. A key is kept as the two
chaining values after the inner and the outer pad, so that each further keyed hash of a digest costs
two compressions.
-/

namespace KeyCustody

namespace Hmac

/-- A key of the keyed hash: the chaining values after its inner and its outer pad. -/
structure Key where
  inner : Sha256.Chain
  outer : Sha256.Chain

/-- The key made from a byte string: one longer than a block is hashed first, a shorter one is filled
with zeros. -/
def Key.ofBytes (bytes : ByteString) : Key :=
  let short := if bytes.length > 64 then Sha256.digest bytes else bytes
  let block := short ++ List.replicate (64 - short.length) 0
  let chainAfter (pad : UInt8) := Sha256.absorb 1 Sha256.Chain.initial (block.map (· ^^^ pad))
  ⟨chainAfter 0x36, chainAfter 0x5C⟩

/-- The block that ends a message of one pad and one digest: the digest, a one bit, zeros, and the
length of 768 bits. -/
def digestBlock (digest : Sha256.Chain) : Array UInt32 :=
  #[digest.a, digest.b, digest.c, digest.d, digest.e, digest.f, digest.g, digest.h,
    0x80000000, 0, 0, 0, 0, 0, 0, 768]

/-- The keyed hash of a byte string. -/
def mac (key : Key) (message : ByteString) : Sha256.Chain :=
  Sha256.compress key.outer (digestBlock (Sha256.finish 64 key.inner message))

/-- The keyed hash of a digest. -/
def macDigest (key : Key) (digest : Sha256.Chain) : Sha256.Chain :=
  Sha256.compress key.outer (digestBlock (Sha256.compress key.inner (digestBlock digest)))

end Hmac

namespace Pbkdf2

/-- The exclusive or of `sum` with the next `count` iterates of the keyed hash. -/
def iterate (key : Hmac.Key) : Nat → Sha256.Chain → Sha256.Chain → Sha256.Chain
  | 0, _, sum => sum
  | count + 1, digest, sum =>
    let next := Hmac.macDigest key digest
    iterate key count next (sum.xor next)

/-- The first block of 32 bytes that PBKDF2 derives from a password and a salt. -/
def derive (password salt : ByteString) (iterations : Nat) : ByteString :=
  let key := Hmac.Key.ofBytes password
  let first := Hmac.mac key (salt ++ [0, 0, 0, 1])
  (iterate key (iterations - 1) first first).toBytes

@[simp]
theorem length_derive (password salt : ByteString) (iterations : Nat) :
    (derive password salt iterations).length = 32 := by
  simp [derive]

end Pbkdf2

end KeyCustody
