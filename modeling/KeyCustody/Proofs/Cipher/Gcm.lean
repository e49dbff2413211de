import KeyCustody.Cipher.Gcm

/-!
# Opening undoes sealing, and nothing else opens

A key stream taken twice cancels, and the tag depends on the encrypted text alone. So a byte string
opens to a text exactly if it is what sealing makes of this text under the same key and nonce.
-/

namespace KeyCustody

theorem ByteString.xor_comm (left right : ByteString) : xor left right = xor right left :=
  List.zipWith_comm_of_comm UInt8.xor_comm

namespace Gcm

theorem length_flatMap_toBytes (counters : List Nat) (block : Nat → Aes256.State) :
    (counters.flatMap fun counter => (block counter).toBytes).length = 16 * counters.length := by
  induction counters with
  | nil => rfl
  | cons counter rest ih =>
      rw [List.flatMap_cons, List.length_append, ih, Aes256.State.length_toBytes, List.length_cons]
      omega

@[simp]
theorem length_keyStream (words : Array UInt32) (nonce : ByteString) (length : Nat) :
    (keyStream words nonce length).length = length := by
  rw [keyStream, List.length_take, length_flatMap_toBytes, List.length_range, blockCount]
  omega

@[simp]
theorem length_applyKeyStream (words : Array UInt32) (nonce text : ByteString) :
    (applyKeyStream words nonce text).length = text.length := by
  simp [applyKeyStream]

theorem applyKeyStream_applyKeyStream (words : Array UInt32) (nonce text : ByteString) :
    applyKeyStream words nonce (applyKeyStream words nonce text) = text := by
  rw [applyKeyStream, length_applyKeyStream]
  exact ByteString.xor_xor_cancel (length_keyStream words nonce text.length).symm

@[simp]
theorem length_tag (words : Array UInt32) (nonce ciphertext : ByteString) :
    (tag words nonce ciphertext).length = tagSize := by
  simp [tag, tagSize]

@[simp]
theorem length_encrypt (key nonce plaintext : ByteString) :
    (encrypt key nonce plaintext).length = plaintext.length + tagSize := by
  simp [encrypt]

theorem decrypt?_encrypt (key nonce plaintext : ByteString) :
    decrypt? key nonce (encrypt key nonce plaintext) = some plaintext := by
  have notShort : ¬(encrypt key nonce plaintext).length < tagSize := by
    rw [length_encrypt]
    omega
  have size_eq : (encrypt key nonce plaintext).length - tagSize =
      (applyKeyStream (Aes256.schedule key) nonce plaintext).length := by
    simp
  rw [decrypt?, if_neg notShort]
  dsimp only
  rw [size_eq, encrypt, List.take_left, List.drop_left, if_pos rfl, applyKeyStream_applyKeyStream]

theorem eq_encrypt_of_decrypt? {key nonce sealed plaintext : ByteString}
    (opened : decrypt? key nonce sealed = some plaintext) :
    sealed = encrypt key nonce plaintext := by
  unfold decrypt? at opened
  split at opened
  · cases opened
  · dsimp only at opened
    split at opened
    · rename_i tag_eq
      cases opened
      rw [encrypt, applyKeyStream_applyKeyStream, ← tag_eq, List.take_append_drop]
    · cases opened

/-- A byte string opens to a text if and only if it is the text sealed under the same key and nonce. -/
theorem decrypt?_eq_some_iff {key nonce sealed plaintext : ByteString} :
    decrypt? key nonce sealed = some plaintext ↔ sealed = encrypt key nonce plaintext := by
  constructor
  · exact eq_encrypt_of_decrypt?
  · rintro rfl
    exact decrypt?_encrypt key nonce plaintext

/-- One ciphertext has the same tag under two nonces only if these put the same mask on tags. -/
theorem mask_eq_of_tag_eq {words : Array UInt32} {nonce other ciphertext : ByteString}
    (same : tag words nonce ciphertext = tag words other ciphertext) :
    (counterBlock words nonce 1).toBytes = (counterBlock words other 1).toBytes := by
  unfold tag at same
  dsimp only at same
  generalize hash_eq : ByteString.bigEndian 8 _ ++ ByteString.bigEndian 8 _ = hash at same
  have hash_length : hash.length = 16 := by
    rw [← hash_eq, List.length_append, ByteString.length_bigEndian, ByteString.length_bigEndian]
  have unmasked := congrArg (ByteString.xor · hash) same
  rw [ByteString.xor_comm hash, ByteString.xor_comm hash,
    ByteString.xor_xor_cancel (by simp [hash_length]),
    ByteString.xor_xor_cancel (by simp [hash_length])] at unmasked
  exact unmasked

/-- What is sealed under one nonce does not open under another with a different mask. -/
theorem decrypt?_encrypt_of_mask_ne {key nonce other : ByteString}
    (masks_ne : (counterBlock (Aes256.schedule key) nonce 1).toBytes ≠
      (counterBlock (Aes256.schedule key) other 1).toBytes) (plaintext : ByteString) :
    decrypt? key other (encrypt key nonce plaintext) = none := by
  rw [Option.eq_none_iff_forall_ne_some]
  intro text opened
  have same := eq_encrypt_of_decrypt? opened
  unfold encrypt at same
  dsimp only at same
  rcases List.append_inj' same (by simp) with ⟨ciphertext_eq, tag_eq⟩
  rw [← ciphertext_eq] at tag_eq
  exact masks_ne (mask_eq_of_tag_eq tag_eq)

end Gcm

end KeyCustody
