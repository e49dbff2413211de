import KeyCustody.Credential
import KeyCustody.Proofs.Credential.PhcString
import KeyCustody.Proofs.Hash.Argon2
import Mathlib.Data.Option.Basic

/-!
# Keys behind a password

The key of a user depends on the password and the salt of the key alone, and is handed out exactly if
the password matches the stored hash. Hashing the password again therefore leaves the key as it is: any
text that a new hash of the same password is stored as gives the same key.
-/

namespace KeyCustody

namespace Credential

theorem isValue_encode {salt : ByteString} (length_le : salt.length ≤ 48) :
    PhcString.IsValue (Base64.encode salt) := by
  refine ⟨?_, ?_⟩
  · rw [← String.length_toList, Base64.encode, String.toList_ofList, Base64.length_digits]
    omega
  · intro character isMem
    rw [Base64.encode, String.toList_ofList] at isMem
    rcases Base64.exists_eq_digit_of_mem_digits isMem with ⟨value, value_lt, rfl⟩
    exact PhcString.isValueChar_digit value (List.mem_range.mpr value_lt)

/-- The parameters that a new hash is stored with. -/
def standardParameters : List (String × String) :=
  [("m", toString Cost.standard.memory), ("t", toString Cost.standard.passes),
    ("p", toString Cost.standard.lanes)]

theorem parameters?_standard :
    PhcString.parameters? "m=19456,t=2,p=1".toList = some standardParameters := by
  decide +kernel

theorem adjust_standard :
    standardParameters.foldlM Cost.adjust? Cost.standard = some Cost.standard := by
  decide +kernel

theorem wellFormed_storedHash {salt : ByteString} (length_eq : salt.length = saltSize)
    (password : ByteString) : (storedHash password salt).IsWellFormed := by
  have salt_length : (Base64.encode salt).length = 22 := by
    rw [← String.length_toList, Base64.encode, String.toList_ofList, Base64.length_digits, length_eq]
    rfl
  have name_eq : PhcString.IsName "argon2id" ∧ "argon2id".toList = "argon2id".toList :=
    PhcString.name?_eq_some_iff.mp (by decide)
  rcases PhcString.parameters?_eq_some_iff.mp parameters?_standard with
    ⟨-, areParameters, length_le, -⟩
  constructor
  case algorithm => exact name_eq.1
  case version =>
    rintro number ⟨⟩
    decide
  case notVersion => rintro ⟨⟩
  case parameters => exact areParameters
  case parameters_length_le => exact length_le
  case salt =>
    rintro text ⟨⟩
    refine ⟨isValue_encode (by rw [length_eq]; decide), ?_⟩
    omega
  case hash =>
    rintro bytes ⟨⟩
    rw [Argon2.length_hash]
    decide
  case noHash => rintro ⟨⟩

theorem isMatch_storedHash {password salt : ByteString} (length_eq : salt.length = saltSize)
    (isShort : password.length ≤ passwordLimit) :
    isMatch password (storedHash password salt) = true := by
  have saltRead : saltBytes? (Base64.encode salt) = some salt := by
    rw [saltBytes?, Base64.decode?_eq_some_iff.mpr rfl]
    exact if_pos (by rw [length_eq]; decide)
  have recomputed : recompute? password (storedHash password salt) =
      (storedHash password salt).hash := by
    have adjusted : (storedHash password salt).parameters.foldlM Cost.adjust? Cost.standard =
        some Cost.standard := adjust_standard
    have usable : Cost.standard.isUsable = true := by decide
    have noData : Cost.standard.data = [] := rfl
    unfold recompute?
    simp only [adjusted]
    simp [storedHash, saltRead, Argon2.length_hash, usable, noData, isShort, variant?, version?]
  rw [isMatch, recomputed]
  exact beq_self_eq_true (storedHash password salt).hash

theorem verify_eq_ok_iff {password text : String} {answer : Bool} :
    verify password text = .ok answer ↔
      ∃ stored : PhcString, stored.IsWellFormed ∧ text = stored.toText ∧
        isMatch (ByteString.ofText password) stored = answer := by
  unfold verify
  split
  case h_1 stored read =>
    constructor
    · rintro ⟨⟩
      rcases PhcString.ofText?_eq_some_iff.mp read with ⟨wellFormed, text_eq⟩
      exact ⟨stored, wellFormed, text_eq, rfl⟩
    · rintro ⟨other, wellFormed, text_eq, rfl⟩
      rw [PhcString.ofText?_eq_some_iff.mpr ⟨wellFormed, text_eq⟩] at read
      cases read
      rfl
  case h_2 read =>
    constructor
    · rintro ⟨⟩
    · rintro ⟨stored, wellFormed, text_eq, -⟩
      rw [PhcString.ofText?_eq_some_iff.mpr ⟨wellFormed, text_eq⟩] at read
      cases read

/-- A hash of a password is checked successfully against the same password. -/
theorem verify_issued {Supply : Type} [ByteSupply Supply] {password : String}
    (isShort : (ByteString.ofText password).length ≤ passwordLimit) (supply : Supply) :
    ∃ text, (issue password supply).1 = .ok text ∧ verify password text = .ok true := by
  have length_eq : (generateSalt supply).1.length = saltSize := ByteSupply.length_draw saltSize supply
  refine ⟨(hash password supply).1, ?_, ?_⟩
  · rw [issue]
    exact if_pos isShort
  · rw [verify_eq_ok_iff]
    exact ⟨_, wellFormed_storedHash length_eq _, rfl, isMatch_storedHash length_eq isShort⟩

theorem deriveKey_eq_ok_iff {password text : String} {salt key : ByteString} :
    deriveKey password salt text = .ok key ↔
      salt ≠ [] ∧ verify password text = .ok true ∧
        key = Pbkdf2.derive (ByteString.ofText password) salt derivationIterations := by
  unfold deriveKey
  split_ifs with isEmpty
  · simp [isEmpty]
  · cases verify password text with
    | error error => simp
    | ok answer => cases answer <;> simp [isEmpty, eq_comm]

theorem verify_eq_error {password text : String}
    (malformed : ¬∃ stored : PhcString, stored.IsWellFormed ∧ text = stored.toText) :
    verify password text = .error (.internal "invalid credential hash format") := by
  unfold verify
  split
  case h_1 stored read =>
    exact absurd ⟨stored, PhcString.ofText?_eq_some_iff.mp read⟩ malformed
  case h_2 => rfl

/-- Any hash of a password that is short enough gives the key, and every text that the password matches
gives the same key; without a match the error says what is missing. -/
theorem key_behind_password (Supply : Type) [ByteSupply Supply] (password : String)
    (salt : ByteString) :
    ((ByteString.ofText password).length < 2 ^ 32 → salt ≠ [] → ∀ supply : Supply, ∃ text key,
      (issue password supply).1 = .ok text ∧ verify password text = .ok true ∧
        deriveKey password salt text = .ok key ∧ key.length = 32) ∧
    (∀ text, (∃ key, deriveKey password salt text = .ok key) ↔
      salt ≠ [] ∧ verify password text = .ok true) ∧
    (∀ first second firstKey secondKey, deriveKey password salt first = .ok firstKey →
      deriveKey password salt second = .ok secondKey → firstKey = secondKey) ∧
    ∀ text,
      (salt = [] →
        deriveKey password salt text = .error (.invalidInput "salt must not be empty")) ∧
      (salt ≠ [] → (¬∃ stored : PhcString, stored.IsWellFormed ∧ text = stored.toText) →
        deriveKey password salt text = .error (.internal "invalid credential hash format")) ∧
      (salt ≠ [] → (∃ stored : PhcString, stored.IsWellFormed ∧ text = stored.toText) →
        verify password text ≠ .ok true →
          deriveKey password salt text = .error .invalidCredential) := by
  refine ⟨?_, ?_, ?_, fun text => ⟨?_, ?_, ?_⟩⟩
  · intro isShort nonempty supply
    have withinLimit : (ByteString.ofText password).length ≤ passwordLimit := by
      rw [passwordLimit]
      omega
    rcases verify_issued withinLimit supply with ⟨text, issued, verified⟩
    exact ⟨text, _, issued, verified, deriveKey_eq_ok_iff.mpr ⟨nonempty, verified, rfl⟩,
      Pbkdf2.length_derive _ _ _⟩
  · intro text
    constructor
    · rintro ⟨key, derived⟩
      rcases deriveKey_eq_ok_iff.mp derived with ⟨nonempty, verified, -⟩
      exact ⟨nonempty, verified⟩
    · rintro ⟨nonempty, verified⟩
      exact ⟨_, deriveKey_eq_ok_iff.mpr ⟨nonempty, verified, rfl⟩⟩
  · intro first second firstKey secondKey firstDerived secondDerived
    rw [(deriveKey_eq_ok_iff.mp firstDerived).2.2, (deriveKey_eq_ok_iff.mp secondDerived).2.2]
  · intro isEmpty
    rw [deriveKey, if_pos isEmpty]
  · intro nonempty malformed
    rw [deriveKey, if_neg nonempty, verify_eq_error malformed]
  · rintro nonempty ⟨stored, wellFormed, text_eq⟩ notVerified
    have verified : verify password text = .ok (isMatch (ByteString.ofText password) stored) :=
      verify_eq_ok_iff.mpr ⟨stored, wellFormed, text_eq, rfl⟩
    cases answer : isMatch (ByteString.ofText password) stored with
    | true => exact absurd (answer ▸ verified) notVerified
    | false => rw [deriveKey, if_neg nonempty, verified, answer]

/-- Two hashes of one password give the same key, and a text that is no stored hash gives none. -/
theorem key_behind_password_of_two_hashes :
    ∃ first second key,
      (issue "correct horse" (⟨[1, 2, 3]⟩ : ByteTape)).1 = .ok first ∧
      (issue "correct horse" (⟨[4, 5, 6]⟩ : ByteTape)).1 = .ok second ∧
      deriveKey "correct horse" [7] first = .ok key ∧
      deriveKey "correct horse" [7] second = .ok key ∧
      deriveKey "correct horse" [7] "a word" =
        .error (.internal "invalid credential hash format") ∧
      deriveKey "correct horse" [7] "$argon2id" = .error .invalidCredential := by
  rcases key_behind_password ByteTape "correct horse" [7] with
    ⟨issued, -, same, refused⟩
  have isShort : (ByteString.ofText "correct horse").length < 2 ^ 32 := by decide
  rcases issued isShort (by decide) ⟨[1, 2, 3]⟩ with ⟨first, key, firstIssued, -, firstDerived, -⟩
  rcases issued isShort (by decide) ⟨[4, 5, 6]⟩ with
    ⟨second, secondKey, secondIssued, -, secondDerived, -⟩
  have keys_eq := same first second key secondKey firstDerived secondDerived
  refine ⟨first, second, key, firstIssued, secondIssued, firstDerived, keys_eq ▸ secondDerived,
    ?_, ?_⟩
  · apply (refused "a word").2.1 (by decide)
    rintro ⟨stored, isText⟩
    have read := PhcString.ofText?_eq_some_iff.mpr isText
    have unread : PhcString.ofText? "a word" = none := by decide
    simp [unread] at read
  · apply (refused "$argon2id").2.2 (by decide)
    · refine ⟨⟨"argon2id", none, [], none, none⟩, ?_⟩
      rw [← PhcString.ofText?_eq_some_iff]
      decide
    · decide

end Credential

end KeyCustody
