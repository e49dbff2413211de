import KeyCustody.Hash.Argon2
import Mathlib.Tactic.Common

/-!
# The size of a password hash

A digest has the size that is asked for, and so has a hash of any size, which is one digest or a chain
of them.
-/

namespace KeyCustody

namespace Blake2b

@[simp]
theorem size_compress (chain block : Array UInt64) (taken : Nat) (isLast : Bool) :
    (compress chain block taken isLast).size = chain.size := by
  simp [compress]

@[simp]
theorem size_absorb (blocks : Nat) (chain : Array UInt64) (taken : Nat) (bytes : ByteString) :
    (absorb blocks chain taken bytes).size = chain.size := by
  induction blocks generalizing chain taken bytes with
  | zero => simp [absorb]
  | succ blocks ih => simp [absorb, ih]

theorem length_digest {size : Nat} (size_le : size ≤ 64) (message : ByteString) :
    (digest size message).length = size := by
  have bytes_length (words : List UInt64) :
      (words.flatMap ByteString.ofUInt64LE).length = words.length * 8 := by
    simp [List.length_flatMap, List.map_const']
  simp only [digest, List.length_take, bytes_length, Array.length_toList, size_absorb,
    Array.size_mapIdx]
  change min size (8 * 8) = size
  omega

end Blake2b

namespace Argon2

/-- A chain of digests gives 32 bytes for each of them, and the last one is whole. -/
theorem length_halves (first : ByteString) (first_length : first.length = 64) (count : Nat) :
    let halves := (List.range count).foldl
      (fun (bytes, last) _ =>
        let next := Blake2b.digest 64 last
        (bytes ++ next.take 32, next))
      (first.take 32, first)
    halves.1.length = 32 * (count + 1) := by
  induction count with
  | zero => simp [first_length]
  | succ count ih =>
      simp only [List.range_succ, List.foldl_append, List.foldl_cons, List.foldl_nil,
        List.length_append, List.length_take, Blake2b.length_digest (Nat.le_refl 64)]
      simp only at ih
      omega

theorem length_stretch (size : Nat) (message : ByteString) :
    (stretch size message).length = size := by
  unfold stretch
  split_ifs with isShort
  · exact Blake2b.length_digest isShort _
  · have last_le : size - 32 * ((size + 31) / 32 - 2) ≤ 64 := by omega
    have halves_length := length_halves
      (Blake2b.digest 64 (ByteString.littleEndian 4 size ++ message))
      (Blake2b.length_digest (Nat.le_refl 64) _) ((size + 31) / 32 - 2 - 1)
    simp only at halves_length
    simp only [List.length_append, Blake2b.length_digest last_le, halves_length]
    omega

theorem length_hash (parameters : Parameters) (password salt : ByteString) :
    (hash parameters password salt).length = parameters.size :=
  length_stretch _ _

end Argon2

end KeyCustody
