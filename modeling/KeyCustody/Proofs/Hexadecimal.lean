import KeyCustody.Hexadecimal
import Mathlib.Algebra.Group.Nat.Even
import Mathlib.Data.List.Basic
import Mathlib.Data.List.Induction
import Mathlib.Tactic.IntervalCases

/-!
# Reading back hexadecimal text

The two digits of a byte stand for its high and its low four bits, so the text of a byte string reads
back as this byte string. What can be read at all are the characters that spell a byte string, two
digits of either case for each byte (`Spells`), and written again they are in lower case.
-/

namespace KeyCustody

namespace Hexadecimal

theorem value?_digit_of_mem :
    ∀ value ∈ List.range 16, value? (digit value.toUInt8) = some value.toUInt8 := by
  decide

theorem value?_digit {value : UInt8} (value_lt : value.toNat < 16) :
    value? (digit value) = some value := by
  have digit_read := value?_digit_of_mem value.toNat (List.mem_range.mpr value_lt)
  rwa [Nat.toUInt8_eq, UInt8.ofNat_toNat] at digit_read

theorem toNat_shiftRight_four_lt (byte : UInt8) : (byte >>> 4).toNat < 16 := by
  have byte_lt := byte.toNat_lt
  have shifted_eq : (byte >>> 4).toNat = byte.toNat / 16 := by
    simp [Nat.shiftRight_eq_div_pow]
  omega

theorem toNat_and_fifteen_lt (byte : UInt8) : (byte &&& 15).toNat < 16 := by
  rw [UInt8.toNat_and]
  exact Nat.lt_succ_of_le Nat.and_le_right

/-- A byte is put together again from its high and its low four bits. -/
theorem shiftLeft_or_and (byte : UInt8) : ((byte >>> 4) <<< 4) ||| (byte &&& 15) = byte := by
  rw [← UInt8.toBitVec_inj]
  ext position position_lt
  simp only [UInt8.toBitVec_or, UInt8.toBitVec_shiftLeft, UInt8.toBitVec_shiftRight,
    UInt8.toBitVec_and, BitVec.getElem_or, BitVec.getElem_and]
  interval_cases position <;> simp

@[simp]
theorem bytes?_digits (bytes : ByteString) : bytes? (digits bytes) = some bytes := by
  induction bytes with
  | nil => rfl
  | cons byte rest ih =>
      rw [digits, bytes?, value?_digit (toNat_shiftRight_four_lt byte),
        value?_digit (toNat_and_fifteen_lt byte), ih]
      exact congrArg some (congrArg (· :: rest) (shiftLeft_or_and byte))

/-- The hexadecimal text of a byte string reads back as this byte string. -/
@[simp]
theorem decode?_encode (bytes : ByteString) : decode? (encode bytes) = some bytes := by
  rw [decode?, encode, String.toList_ofList, bytes?_digits]

/-- One of the sixteen digits, in either case. -/
def IsDigit (character : Char) : Prop := character ∈ "0123456789abcdefABCDEF".toList

instance : DecidablePred IsDigit :=
  fun character => inferInstanceAs (Decidable (character ∈ "0123456789abcdefABCDEF".toList))

/-- The number that a digit stands for: its place among the digits. -/
def worth (character : Char) : Nat := "0123456789abcdef".toList.idxOf character.toLower

/-- Characters spell bytes: two digits for each byte, the high one first. -/
inductive Spells : List Char → ByteString → Prop where
  | nil : Spells [] []
  | cons {high low : Char} {byte : UInt8} {characters : List Char} {bytes : ByteString}
      (high_isDigit : IsDigit high) (low_isDigit : IsDigit low)
      (byte_eq : byte.toNat = 16 * worth high + worth low) (rest : Spells characters bytes) :
      Spells (high :: low :: characters) (byte :: bytes)

theorem isDigit_iff {character : Char} :
    IsDigit character ↔
      48 ≤ character.toNat ∧ character.toNat ≤ 57 ∨ 97 ≤ character.toNat ∧ character.toNat ≤ 102 ∨
        65 ≤ character.toNat ∧ character.toNat ≤ 70 := by
  have digits_eq : "0123456789abcdefABCDEF".toList =
      ['0', '1', '2', '3', '4', '5', '6', '7', '8', '9', 'a', 'b', 'c', 'd', 'e', 'f', 'A', 'B', 'C',
        'D', 'E', 'F'] := rfl
  rw [IsDigit, digits_eq]
  simp only [List.mem_cons, List.not_mem_nil, or_false, ← Char.toNat_inj, Char.reduceToNat]
  omega

/-- The digits are few enough to be looked at one by one. -/
theorem read_of_mem_digits :
    ∀ character ∈ "0123456789abcdefABCDEF".toList, worth character < 16 ∧
      value? character = some (worth character).toUInt8 ∧
      digit (worth character).toUInt8 = character.toLower := by
  rw [← List.forall_iff_forall_mem]
  decide

theorem isSome_value?_iff {character : Char} :
    (value? character).isSome = true ↔ IsDigit character := by
  rw [isDigit_iff, value?]
  simp only [Char.le_def, UInt32.le_iff_toNat_le]
  change _ ↔ 48 ≤ character.val.toNat ∧ character.val.toNat ≤ 57 ∨ _
  split_ifs <;> simp_all

theorem value?_eq_some_iff {character : Char} {value : UInt8} :
    value? character = some value ↔ IsDigit character ∧ value = (worth character).toUInt8 := by
  constructor
  · intro read
    have isDigit : IsDigit character := isSome_value?_iff.mp (by simp [read])
    rcases read_of_mem_digits character isDigit with ⟨_, value_eq, _⟩
    exact ⟨isDigit, by simpa [read] using value_eq⟩
  · rintro ⟨isDigit, rfl⟩
    exact (read_of_mem_digits character isDigit).2.1

theorem joined_of_mem_range : ∀ high ∈ List.range 16, ∀ low ∈ List.range 16,
    ((high.toUInt8 <<< 4) ||| low.toUInt8).toNat = 16 * high + low ∧
      ((high.toUInt8 <<< 4) ||| low.toUInt8) >>> 4 = high.toUInt8 ∧
      ((high.toUInt8 <<< 4) ||| low.toUInt8) &&& 15 = low.toUInt8 := by
  decide +kernel

/-- The byte that two digits make up, and the lower-case digits of this byte. -/
theorem joined_of_isDigit {high low : Char} {byte : UInt8} (high_isDigit : IsDigit high)
    (low_isDigit : IsDigit low) :
    byte = (((worth high).toUInt8 <<< 4) ||| (worth low).toUInt8) ↔
      byte.toNat = 16 * worth high + worth low := by
  rcases read_of_mem_digits high high_isDigit with ⟨high_lt, _⟩
  rcases read_of_mem_digits low low_isDigit with ⟨low_lt, _⟩
  rcases joined_of_mem_range _ (List.mem_range.mpr high_lt) _ (List.mem_range.mpr low_lt) with
    ⟨joined_eq, _⟩
  rw [← UInt8.toNat_inj, joined_eq]

theorem Spells.bytes?_eq {characters : List Char} {bytes : ByteString}
    (spells : Spells characters bytes) : bytes? characters = some bytes := by
  induction spells with
  | nil => rfl
  | cons high_isDigit low_isDigit byte_eq rest ih =>
      rw [bytes?, value?_eq_some_iff.mpr ⟨high_isDigit, rfl⟩,
        value?_eq_some_iff.mpr ⟨low_isDigit, rfl⟩, ih]
      simp [(joined_of_isDigit high_isDigit low_isDigit).mpr byte_eq]

theorem spells_of_bytes? {characters : List Char} {bytes : ByteString}
    (read : bytes? characters = some bytes) : Spells characters bytes := by
  fun_induction bytes? characters generalizing bytes with
  | case1 =>
      cases read
      exact .nil
  | case2 => cases read
  | case3 high low rest highValue lowValue restBytes rest_eq low_eq high_eq ih =>
      cases read
      rcases value?_eq_some_iff.mp high_eq with ⟨high_isDigit, rfl⟩
      rcases value?_eq_some_iff.mp low_eq with ⟨low_isDigit, rfl⟩
      exact .cons high_isDigit low_isDigit
        ((joined_of_isDigit high_isDigit low_isDigit).mp rfl) (ih rest_eq)
  | case4 => cases read

theorem bytes?_eq_some_iff {characters : List Char} {bytes : ByteString} :
    bytes? characters = some bytes ↔ Spells characters bytes :=
  ⟨spells_of_bytes?, Spells.bytes?_eq⟩

/-- Written again, what was read is in lower case. -/
theorem Spells.digits_eq {characters : List Char} {bytes : ByteString}
    (spells : Spells characters bytes) : digits bytes = characters.map Char.toLower := by
  induction spells with
  | nil => rfl
  | @cons high low byte characters bytes high_isDigit low_isDigit byte_eq rest ih =>
      rcases read_of_mem_digits high high_isDigit with ⟨high_lt, _, high_digit⟩
      rcases read_of_mem_digits low low_isDigit with ⟨low_lt, _, low_digit⟩
      rcases joined_of_mem_range _ (List.mem_range.mpr high_lt) _ (List.mem_range.mpr low_lt) with
        ⟨_, shifted_eq, masked_eq⟩
      rw [← (joined_of_isDigit high_isDigit low_isDigit).mpr byte_eq] at shifted_eq masked_eq
      rw [digits, shifted_eq, masked_eq, high_digit, low_digit, ih, List.map_cons, List.map_cons]

theorem Spells.length_eq {characters : List Char} {bytes : ByteString}
    (spells : Spells characters bytes) : characters.length = 2 * bytes.length := by
  induction spells with
  | nil => rfl
  | cons _ _ _ _ ih =>
      simp only [List.length_cons, ih]
      omega

theorem exists_spells_iff {characters : List Char} :
    (∃ bytes, Spells characters bytes) ↔
      Even characters.length ∧ ∀ character ∈ characters, IsDigit character := by
  constructor
  · rintro ⟨bytes, spells⟩
    refine ⟨⟨bytes.length, by rw [spells.length_eq]; omega⟩, ?_⟩
    induction spells with
    | nil => simp
    | cons high_isDigit low_isDigit _ _ ih =>
        simp only [List.mem_cons, forall_eq_or_imp]
        exact ⟨high_isDigit, low_isDigit, ih⟩
  · rintro ⟨isEven, areDigits⟩
    induction characters using List.twoStepInduction with
    | nil => exact ⟨[], .nil⟩
    | singleton character => simp at isEven
    | cons_cons high low rest ih _ =>
        simp only [List.mem_cons, forall_eq_or_imp] at areDigits
        rcases areDigits with ⟨high_isDigit, low_isDigit, areDigits⟩
        rcases ih (by simpa [Nat.even_add_one] using isEven) areDigits with ⟨bytes, spells⟩
        exact ⟨_, .cons high_isDigit low_isDigit
          ((joined_of_isDigit high_isDigit low_isDigit).mp rfl) spells⟩

end Hexadecimal

end KeyCustody
