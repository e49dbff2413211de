import KeyCustody.Base64
import KeyCustody.Proofs.Text
import Mathlib.Tactic.Common

/-!
# Reading back base 64

Four digits stand for three bytes, and a shorter group at the end for one or two. Reading takes no other
digits than those that writing gives: the bits that such a group has to spare are zero. So a text is
read as a byte string exactly if it is the text of this byte string.
-/

namespace KeyCustody

namespace Base64

theorem value?_digit_of_mem_range :
    ∀ value ∈ List.range 64, value? (digit value) = some value := by
  decide

theorem value?_eq_some_iff {character : Char} {value : Nat} :
    value? character = some value ↔ value < 64 ∧ character = digit value := by
  constructor
  · intro read
    have char_eq : character = Char.ofNat character.toNat := (Char.ofNat_toNat character).symm
    unfold value? at read
    simp only [Char.le_def, UInt32.le_iff_toNat_le] at read
    split_ifs at read with upper lower number plus slash
    · cases read
      change 65 ≤ character.toNat ∧ character.toNat ≤ 90 at upper
      refine ⟨by omega, ?_⟩
      rw [digit, if_pos (by omega), Nat.add_sub_cancel' upper.1]
      exact char_eq
    · cases read
      change 97 ≤ character.toNat ∧ character.toNat ≤ 122 at lower
      refine ⟨by omega, ?_⟩
      rw [digit, if_neg (by omega), if_pos (by omega), Nat.add_sub_cancel' (by omega)]
      exact char_eq
    · cases read
      change 48 ≤ character.toNat ∧ character.toNat ≤ 57 at number
      refine ⟨by omega, ?_⟩
      rw [digit, if_neg (by omega), if_neg (by omega), if_pos (by omega), Nat.add_sub_cancel]
      exact char_eq
    · cases read
      exact ⟨by decide, plus⟩
    · cases read
      exact ⟨by decide, slash⟩
  · rintro ⟨value_lt, rfl⟩
    exact value?_digit_of_mem_range value (List.mem_range.mpr value_lt)

/-- The numbers that the digits of a byte string stand for. -/
def values : ByteString → List Nat
  | [] => []
  | [b0] =>
    let bits := b0.toNat
    [bits / 4, bits % 4 * 16]
  | [b0, b1] =>
    let bits := b0.toNat * 256 + b1.toNat
    [bits / 1024, bits / 16 % 64, bits % 16 * 4]
  | b0 :: b1 :: b2 :: rest =>
    let bits := b0.toNat * 65536 + b1.toNat * 256 + b2.toNat
    bits / 262144 :: bits / 4096 % 64 :: bits / 64 % 64 :: bits % 64 :: values rest

theorem digits_eq (bytes : ByteString) : digits bytes = (values bytes).map digit := by
  fun_induction digits bytes with
  | case4 b0 b1 b2 rest bits ih => simp only [values, List.map_cons, ih, bits]
  | _ => rfl

theorem lt_of_mem_values {bytes : ByteString} : ∀ value ∈ values bytes, value < 64 := by
  fun_induction values bytes with
  | case1 => simp
  | case2 b0 bits =>
      have := b0.toNat_lt
      simp [bits]
      omega
  | case3 b0 b1 bits =>
      have := b0.toNat_lt
      have := b1.toNat_lt
      simp [bits]
      omega
  | case4 b0 b1 b2 rest bits ih =>
      have := b0.toNat_lt
      have := b1.toNat_lt
      have := b2.toNat_lt
      simp only [List.mem_cons, forall_eq_or_imp, bits]
      refine ⟨by omega, by omega, by omega, by omega, ih⟩

theorem toUInt8_eq_of_toNat_eq {value : Nat} (byte : UInt8) (value_eq : value = byte.toNat) :
    value.toUInt8 = byte := by
  rw [value_eq, Nat.toUInt8_eq, UInt8.ofNat_toNat]

theorem bytes?_values (bytes : ByteString) : bytes? (values bytes) = some bytes := by
  fun_induction values bytes with
  | case1 => rfl
  | case2 b0 bits =>
      have := b0.toNat_lt
      rw [bytes?, if_pos (by omega), toUInt8_eq_of_toNat_eq b0 (by omega)]
  | case3 b0 b1 bits =>
      have := b0.toNat_lt
      have := b1.toNat_lt
      rw [bytes?, if_pos (by omega), toUInt8_eq_of_toNat_eq b0 (by omega),
        toUInt8_eq_of_toNat_eq b1 (by omega)]
  | case4 b0 b1 b2 rest bits ih =>
      have := b0.toNat_lt
      have := b1.toNat_lt
      have := b2.toNat_lt
      rw [bytes?, ih, Option.map_some, toUInt8_eq_of_toNat_eq b0 (by omega),
        toUInt8_eq_of_toNat_eq b1 (by omega), toUInt8_eq_of_toNat_eq b2 (by omega)]

theorem values_of_bytes? {numbers : List Nat} {bytes : ByteString}
    (numbers_lt : ∀ number ∈ numbers, number < 64) (read : bytes? numbers = some bytes) :
    values bytes = numbers := by
  fun_induction bytes? numbers generalizing bytes with
  | case1 =>
      cases read
      rfl
  | case2 => cases read
  | case3 v0 v1 spare =>
      cases read
      simp only [List.mem_cons, List.not_mem_nil, or_false, forall_eq_or_imp, forall_eq] at numbers_lt
      simp [values]
      omega
  | case4 => cases read
  | case5 v0 v1 v2 spare =>
      cases read
      simp only [List.mem_cons, List.not_mem_nil, or_false, forall_eq_or_imp, forall_eq] at numbers_lt
      simp [values]
      omega
  | case6 => cases read
  | case7 v0 v1 v2 v3 rest ih =>
      simp only [List.mem_cons, forall_eq_or_imp] at numbers_lt
      rcases numbers_lt with ⟨v0_lt, v1_lt, v2_lt, v3_lt, rest_lt⟩
      rcases Option.map_eq_some_iff.mp read with ⟨restBytes, restRead, rfl⟩
      rw [values, ih rest_lt restRead]
      simp
      omega

/-- A text is read as a byte string if and only if it is the text of this byte string. -/
theorem decode?_eq_some_iff {text : String} {bytes : ByteString} :
    decode? text = some bytes ↔ text = encode bytes := by
  rw [← String.toList_inj, encode, String.toList_ofList, digits_eq, decode?, Option.bind_eq_some_iff]
  simp only [Text.mapM_eq_some_iff value?_eq_some_iff]
  constructor
  · rintro ⟨numbers, ⟨numbers_lt, text_eq⟩, read⟩
    rw [text_eq, values_of_bytes? numbers_lt read]
  · intro text_eq
    exact ⟨values bytes, ⟨lt_of_mem_values, text_eq⟩, bytes?_values bytes⟩

theorem exists_eq_digit_of_mem_digits {bytes : ByteString} {character : Char}
    (character_mem : character ∈ digits bytes) : ∃ value < 64, character = digit value := by
  rw [digits_eq] at character_mem
  rcases List.mem_map.mp character_mem with ⟨value, value_mem, rfl⟩
  exact ⟨value, lt_of_mem_values value value_mem, rfl⟩

theorem length_digits (bytes : ByteString) :
    (digits bytes).length = (4 * bytes.length + 2) / 3 := by
  fun_induction digits bytes with
  | case4 b0 b1 b2 rest bits ih =>
      simp only [List.length_cons, ih]
      omega
  | _ => simp

end Base64

end KeyCustody
