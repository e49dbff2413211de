import KeyCustody.Proofs.Cipher.Gcm
import KeyCustody.Proofs.Hexadecimal
import KeyCustody.WrappedKey

/-!
# Wrapping and unwrapping keys

A wrapped key is the nonce that was drawn and the key sealed under it, so unwrapping with the same
wrapping key gives the key back. Nothing else unwraps: bytes that do are a nonce followed by what
sealing under it makes of the key that comes out. The hexadecimal text of a wrapped key reads back as
the wrapped key.
-/

namespace KeyCustody

@[simp]
theorem length_generateKey {Supply : Type} [ByteSupply Supply] (supply : Supply) :
    (generateKey supply).1.length = keySize :=
  ByteSupply.length_draw keySize supply

namespace WrappedKey

/-- The hexadecimal text of a wrapped key reads back as this wrapped key. -/
@[simp]
theorem ofHexadecimal_toHexadecimal (wrapped : WrappedKey) :
    ofHexadecimal wrapped.toHexadecimal = .ok wrapped := by
  rw [ofHexadecimal, toHexadecimal, Hexadecimal.decode?_encode]

theorem wrap_eq {Supply : Type} [ByteSupply Supply] {wrappingKey payloadKey : ByteString}
    (wrappingKey_length : wrappingKey.length = keySize)
    (payloadKey_length : payloadKey.length = keySize) (supply : Supply) :
    wrap wrappingKey payloadKey supply =
      (.ok ⟨(ByteSupply.draw Gcm.nonceSize supply).1 ++
          Gcm.encrypt wrappingKey (ByteSupply.draw Gcm.nonceSize supply).1 payloadKey⟩,
        (ByteSupply.draw Gcm.nonceSize supply).2) := by
  rw [wrap, if_neg (not_not_intro wrappingKey_length), if_neg (not_not_intro payloadKey_length)]

theorem wrap_of_length_ne {Supply : Type} [ByteSupply Supply] {wrappingKey : ByteString}
    (length_ne : wrappingKey.length ≠ keySize) (payloadKey : ByteString) (supply : Supply) :
    wrap wrappingKey payloadKey supply =
      (.error (.invalidKeySize wrappingKey.length), supply) := by
  rw [wrap, if_pos length_ne]

theorem unwrap_of_length_ne {wrappingKey : ByteString} (length_ne : wrappingKey.length ≠ keySize)
    (wrapped : WrappedKey) :
    unwrap wrappingKey wrapped = .error (.invalidKeySize wrappingKey.length) := by
  rw [unwrap, if_pos length_ne]

section

variable {wrappingKey key otherKey : ByteString} {wrapped other : WrappedKey}

/-- The wrapped key is a nonce and the key sealed under it. -/
def Seals (wrapped : WrappedKey) (wrappingKey key : ByteString) : Prop :=
  wrapped.bytes = wrapped.bytes.take Gcm.nonceSize ++
    Gcm.encrypt wrappingKey (wrapped.bytes.take Gcm.nonceSize) key

theorem eq_of_bytes_eq (bytes_eq : other.bytes = wrapped.bytes) : other = wrapped := by
  cases other
  cases wrapped
  exact congrArg mk bytes_eq

theorem seals_iff_drop : wrapped.Seals wrappingKey key ↔
    wrapped.bytes.drop Gcm.nonceSize =
      Gcm.encrypt wrappingKey (wrapped.bytes.take Gcm.nonceSize) key := by
  constructor
  · intro isSealed
    apply (List.append_right_inj (wrapped.bytes.take Gcm.nonceSize)).mp
    rw [List.take_append_drop]
    exact isSealed
  · intro rest_eq
    rw [Seals, ← rest_eq, List.take_append_drop]

theorem seals_append {nonce : ByteString} (nonce_length : nonce.length = Gcm.nonceSize)
    (wrappingKey key : ByteString) :
    Seals ⟨nonce ++ Gcm.encrypt wrappingKey nonce key⟩ wrappingKey key := by
  rw [Seals, List.take_left' nonce_length]

/-- There are a nonce, the key and a tag, so a wrapped key is never shorter than a nonce and a tag. -/
theorem Seals.length_eq (isSealed : wrapped.Seals wrappingKey key) :
    wrapped.bytes.length = Gcm.nonceSize + (key.length + Gcm.tagSize) := by
  have rest_length := congrArg List.length (seals_iff_drop.mp isSealed)
  rw [List.length_drop, Gcm.length_encrypt, Gcm.tagSize] at rest_length
  rw [Gcm.tagSize]
  omega

/-- Under one nonce different wrapped keys hold different keys. -/
theorem Seals.key_ne (isSealed : wrapped.Seals wrappingKey key)
    (otherSealed : other.Seals wrappingKey otherKey) (differs : other ≠ wrapped)
    (sameNonce : other.bytes.take Gcm.nonceSize = wrapped.bytes.take Gcm.nonceSize) :
    otherKey ≠ key := by
  rintro rfl
  rw [Seals, sameNonce, ← isSealed] at otherSealed
  exact differs (eq_of_bytes_eq otherSealed)

/-- A wrapped key is told by its nonce and the rest. -/
theorem parts_ne (differs : other ≠ wrapped) :
    (other.bytes.take Gcm.nonceSize, other.bytes.drop Gcm.nonceSize) ≠
      (wrapped.bytes.take Gcm.nonceSize, wrapped.bytes.drop Gcm.nonceSize) := by
  intro same
  rcases Prod.mk.inj same with ⟨nonce_eq, rest_eq⟩
  apply differs
  apply eq_of_bytes_eq
  rw [← List.take_append_drop Gcm.nonceSize other.bytes, nonce_eq, rest_eq, List.take_append_drop]

theorem unwrap_of_short (wrappingKey_length : wrappingKey.length = keySize)
    (isShort : wrapped.bytes.length < Gcm.nonceSize) :
    unwrap wrappingKey wrapped = .error (.invalidInput
      s!"wrapped key must be at least {Gcm.nonceSize} bytes, got {wrapped.bytes.length}") := by
  rw [unwrap, if_neg (not_not_intro wrappingKey_length), if_pos isShort]

theorem unwrap_of_seals (wrappingKey_length : wrappingKey.length = keySize)
    (isSealed : wrapped.Seals wrappingKey key) : unwrap wrappingKey wrapped = .ok key := by
  have notShort : ¬wrapped.bytes.length < Gcm.nonceSize := by
    rw [isSealed.length_eq]
    omega
  rw [unwrap, if_neg (not_not_intro wrappingKey_length), if_neg notShort,
    Gcm.decrypt?_eq_some_iff.mpr (seals_iff_drop.mp isSealed)]

/-- A nonce followed by a key sealed under it unwraps to the key. -/
theorem unwrap_append {nonce : ByteString} (wrappingKey_length : wrappingKey.length = keySize)
    (nonce_length : nonce.length = Gcm.nonceSize) (payloadKey : ByteString) :
    unwrap wrappingKey ⟨nonce ++ Gcm.encrypt wrappingKey nonce payloadKey⟩ = .ok payloadKey :=
  unwrap_of_seals wrappingKey_length (seals_append nonce_length wrappingKey payloadKey)

/-- Bytes that are long enough but hold no key of theirs fail to open. -/
theorem unwrap_of_not_seals (wrappingKey_length : wrappingKey.length = keySize)
    (notShort : Gcm.nonceSize ≤ wrapped.bytes.length)
    (notSealed : ∀ key, ¬wrapped.Seals wrappingKey key) :
    unwrap wrappingKey wrapped = .error .decryptFailed := by
  have notOpened : Gcm.decrypt? wrappingKey (wrapped.bytes.take Gcm.nonceSize)
      (wrapped.bytes.drop Gcm.nonceSize) = none := by
    rw [Option.eq_none_iff_forall_ne_some]
    intro key opened
    exact notSealed key (seals_iff_drop.mpr (Gcm.decrypt?_eq_some_iff.mp opened))
  rw [unwrap, if_neg (not_not_intro wrappingKey_length), if_neg (Nat.not_lt_of_ge notShort),
    notOpened]

/-- What unwrapping bytes can come to. -/
inductive Unwrapping (wrappingKey : ByteString) (wrapped : WrappedKey) :
    Except KeyError ByteString → Prop where
  | wrongKeySize (length_ne : wrappingKey.length ≠ keySize) :
      Unwrapping wrappingKey wrapped (.error (.invalidKeySize wrappingKey.length))
  | short (wrappingKey_length : wrappingKey.length = keySize)
      (isShort : wrapped.bytes.length < Gcm.nonceSize) :
      Unwrapping wrappingKey wrapped (.error (.invalidInput
        s!"wrapped key must be at least {Gcm.nonceSize} bytes, got {wrapped.bytes.length}"))
  | opened {key : ByteString} (wrappingKey_length : wrappingKey.length = keySize)
      (isSealed : wrapped.Seals wrappingKey key) : Unwrapping wrappingKey wrapped (.ok key)
  | refused (wrappingKey_length : wrappingKey.length = keySize)
      (notShort : Gcm.nonceSize ≤ wrapped.bytes.length)
      (notSealed : ∀ key, ¬wrapped.Seals wrappingKey key) :
      Unwrapping wrappingKey wrapped (.error .decryptFailed)

theorem unwrapping_unwrap (wrappingKey : ByteString) (wrapped : WrappedKey) :
    Unwrapping wrappingKey wrapped (unwrap wrappingKey wrapped) := by
  by_cases wrappingKey_length : wrappingKey.length = keySize
  · by_cases isShort : wrapped.bytes.length < Gcm.nonceSize
    · rw [unwrap_of_short wrappingKey_length isShort]
      exact .short wrappingKey_length isShort
    · by_cases sealsSome : ∃ key, wrapped.Seals wrappingKey key
      · rcases sealsSome with ⟨key, isSealed⟩
        rw [unwrap_of_seals wrappingKey_length isSealed]
        exact .opened wrappingKey_length isSealed
      · have notShort := Nat.le_of_not_lt isShort
        have notSealed := not_exists.mp sealsSome
        rw [unwrap_of_not_seals wrappingKey_length notShort notSealed]
        exact .refused wrappingKey_length notShort notSealed
  · rw [unwrap_of_length_ne wrappingKey_length]
    exact .wrongKeySize wrappingKey_length

/-- A key comes out of exactly the bytes that hold it. -/
theorem unwrap_eq_ok_iff :
    unwrap wrappingKey wrapped = .ok key ↔
      wrappingKey.length = keySize ∧ wrapped.Seals wrappingKey key := by
  constructor
  · intro unwrapped
    have unwrapping := unwrapping_unwrap wrappingKey wrapped
    rw [unwrapped] at unwrapping
    cases unwrapping with
    | opened wrappingKey_length isSealed => exact ⟨wrappingKey_length, isSealed⟩
  · rintro ⟨wrappingKey_length, isSealed⟩
    exact unwrap_of_seals wrappingKey_length isSealed

/-- Lengths are checked before anything is opened, the one of the wrapping key first. -/
theorem unwrap_eq_error_iff {error : KeyError} :
    unwrap wrappingKey wrapped = .error error ↔
      wrappingKey.length ≠ keySize ∧ error = .invalidKeySize wrappingKey.length ∨
      wrappingKey.length = keySize ∧ wrapped.bytes.length < Gcm.nonceSize ∧ error = .invalidInput
        s!"wrapped key must be at least {Gcm.nonceSize} bytes, got {wrapped.bytes.length}" ∨
      wrappingKey.length = keySize ∧ Gcm.nonceSize ≤ wrapped.bytes.length ∧
        (∀ key, ¬wrapped.Seals wrappingKey key) ∧ error = .decryptFailed := by
  constructor
  · intro failed
    have unwrapping := unwrapping_unwrap wrappingKey wrapped
    rw [failed] at unwrapping
    cases unwrapping with
    | wrongKeySize length_ne => exact Or.inl ⟨length_ne, rfl⟩
    | short wrappingKey_length isShort => exact Or.inr (Or.inl ⟨wrappingKey_length, isShort, rfl⟩)
    | refused wrappingKey_length notShort notSealed =>
        exact Or.inr (Or.inr ⟨wrappingKey_length, notShort, notSealed, rfl⟩)
  · rintro (⟨length_ne, rfl⟩ | ⟨wrappingKey_length, isShort, rfl⟩ |
      ⟨wrappingKey_length, notShort, notSealed, rfl⟩)
    · exact unwrap_of_length_ne length_ne wrapped
    · exact unwrap_of_short wrappingKey_length isShort
    · exact unwrap_of_not_seals wrappingKey_length notShort notSealed

end

section

variable {Supply : Type} [ByteSupply Supply] {wrappingKey payloadKey : ByteString} {supply : Supply}

/-- Keys of the right size are wrapped under the nonce that is drawn, and no others are wrapped. -/
theorem wrap_eq_ok_iff {wrapped : WrappedKey} :
    (wrap wrappingKey payloadKey supply).1 = .ok wrapped ↔
      wrappingKey.length = keySize ∧ payloadKey.length = keySize ∧
        wrapped.bytes = (ByteSupply.draw Gcm.nonceSize supply).1 ++
          Gcm.encrypt wrappingKey (ByteSupply.draw Gcm.nonceSize supply).1 payloadKey := by
  constructor
  · intro wrapped_eq
    unfold wrap at wrapped_eq
    split at wrapped_eq
    · cases wrapped_eq
    · rename_i wrappingKey_length
      split at wrapped_eq
      · cases wrapped_eq
      · rename_i payloadKey_length
        cases wrapped_eq
        exact ⟨not_not.mp wrappingKey_length, not_not.mp payloadKey_length, rfl⟩
  · rintro ⟨wrappingKey_length, payloadKey_length, bytes_eq⟩
    rw [wrap_eq wrappingKey_length payloadKey_length, ← bytes_eq]

/-- A key that was wrapped is held under the nonce that was drawn. -/
theorem seals_of_wrap {wrapped : WrappedKey}
    (wrapped_eq : (wrap wrappingKey payloadKey supply).1 = .ok wrapped) :
    wrapped.bytes.take Gcm.nonceSize = (ByteSupply.draw Gcm.nonceSize supply).1 ∧
      wrapped.Seals wrappingKey payloadKey := by
  rcases wrap_eq_ok_iff.mp wrapped_eq with ⟨_, _, bytes_eq⟩
  have nonce_eq : wrapped.bytes.take Gcm.nonceSize = (ByteSupply.draw Gcm.nonceSize supply).1 := by
    rw [bytes_eq, List.take_left' (ByteSupply.length_draw _ _)]
  refine ⟨nonce_eq, ?_⟩
  rw [Seals, nonce_eq]
  exact bytes_eq

/-- What wrapping a key gives unwraps to this key. -/
theorem unwrap_of_wrap {wrapped : WrappedKey}
    (wrapped_eq : (wrap wrappingKey payloadKey supply).1 = .ok wrapped) :
    unwrap wrappingKey wrapped = .ok payloadKey :=
  unwrap_of_seals (wrap_eq_ok_iff.mp wrapped_eq).1 (seals_of_wrap wrapped_eq).2

/-- Nothing is drawn when nothing is wrapped. -/
theorem supply_of_wrap_error {error : KeyError}
    (failed : (wrap wrappingKey payloadKey supply).1 = .error error) :
    (wrap wrappingKey payloadKey supply).2 = supply := by
  unfold wrap at failed ⊢
  split at failed
  · rename_i wrongSize
    rw [if_pos wrongSize]
  · rename_i rightSize
    rw [if_neg rightSize]
    split at failed
    · rename_i payloadKey_wrongSize
      rw [if_pos payloadKey_wrongSize]
    · cases failed

end

/-- A key comes out of exactly the bytes that are a nonce and this key sealed under it; all other
bytes, and all under a wrapping key of another size, fail with the error that says why. Keys are
wrapped exactly if both have the right size: the wrapped key is the drawn nonce and 48 bytes more, it
unwraps to the key, also by way of its text, and whatever else unwraps differs from it in the nonce or
in the rest, and under the same nonce gives another key. -/
theorem unwraps_what_wrapping_seals {Supply : Type} [ByteSupply Supply]
    (wrappingKey payloadKey : ByteString) (supply : Supply) :
    (∀ wrapped key, unwrap wrappingKey wrapped = .ok key ↔
      wrappingKey.length = 32 ∧
        wrapped.bytes = wrapped.bytes.take 12 ++
          Gcm.encrypt wrappingKey (wrapped.bytes.take 12) key) ∧
    (∀ wrapped error, unwrap wrappingKey wrapped = .error error ↔
      wrappingKey.length ≠ 32 ∧ error = .invalidKeySize wrappingKey.length ∨
      wrappingKey.length = 32 ∧ wrapped.bytes.length < 12 ∧ error = .invalidInput
        s!"wrapped key must be at least 12 bytes, got {wrapped.bytes.length}" ∨
      wrappingKey.length = 32 ∧ 12 ≤ wrapped.bytes.length ∧
        (∀ key, wrapped.bytes ≠ wrapped.bytes.take 12 ++
          Gcm.encrypt wrappingKey (wrapped.bytes.take 12) key) ∧ error = .decryptFailed) ∧
    (∀ wrapped, wrappingKey.length = 32 → 12 ≤ wrapped.bytes.length → wrapped.bytes.length < 28 →
      unwrap wrappingKey wrapped = .error .decryptFailed) ∧
    ((∃ wrapped, (wrap wrappingKey payloadKey supply).1 = .ok wrapped) ↔
      wrappingKey.length = 32 ∧ payloadKey.length = 32) ∧
    ∀ wrapped, (wrap wrappingKey payloadKey supply).1 = .ok wrapped →
      wrapped.bytes.take 12 = (ByteSupply.draw 12 supply).1 ∧
      (wrapped.bytes.drop 12).length = 48 ∧
      unwrap wrappingKey wrapped = .ok payloadKey ∧
      (ofHexadecimal wrapped.toHexadecimal).bind (unwrap wrappingKey) = .ok payloadKey ∧
      ∀ other key, other ≠ wrapped → unwrap wrappingKey other = .ok key →
        (other.bytes.take 12, other.bytes.drop 12) ≠ (wrapped.bytes.take 12, wrapped.bytes.drop 12) ∧
        (other.bytes.take 12 = wrapped.bytes.take 12 → key ≠ payloadKey) := by
  refine ⟨fun _ _ => unwrap_eq_ok_iff, fun _ _ => unwrap_eq_error_iff, ?_, ?_, ?_⟩
  · intro wrapped wrappingKey_length notShort noTag
    apply unwrap_of_not_seals wrappingKey_length notShort
    intro key isSealed
    have length_eq := isSealed.length_eq
    rw [Gcm.nonceSize, Gcm.tagSize] at length_eq
    omega
  · constructor
    · rintro ⟨wrapped, wrapped_eq⟩
      rcases wrap_eq_ok_iff.mp wrapped_eq with ⟨wrappingKey_length, payloadKey_length, _⟩
      exact ⟨wrappingKey_length, payloadKey_length⟩
    · rintro ⟨wrappingKey_length, payloadKey_length⟩
      exact ⟨⟨_⟩, wrap_eq_ok_iff.mpr ⟨wrappingKey_length, payloadKey_length, rfl⟩⟩
  · intro wrapped wrapped_eq
    rcases seals_of_wrap wrapped_eq with ⟨nonce_eq, isSealed⟩
    have unwrapped := unwrap_of_wrap wrapped_eq
    refine ⟨nonce_eq, ?_, unwrapped, ?_, ?_⟩
    · have payloadKey_length := (wrap_eq_ok_iff.mp wrapped_eq).2.1
      have length_eq := isSealed.length_eq
      rw [payloadKey_length, Gcm.nonceSize, keySize, Gcm.tagSize] at length_eq
      rw [List.length_drop]
      omega
    · rw [ofHexadecimal_toHexadecimal]
      exact unwrapped
    · intro other key differs otherUnwrapped
      have otherSealed := (unwrap_eq_ok_iff.mp otherUnwrapped).2
      exact ⟨parts_ne differs, isSealed.key_ne otherSealed differs⟩

end WrappedKey

end KeyCustody
