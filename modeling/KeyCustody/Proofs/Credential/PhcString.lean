import KeyCustody.Credential.PhcString
import KeyCustody.Proofs.Base64
import Mathlib.Algebra.Group.Nat.Defs
import Mathlib.Data.List.Induction

/-!
# The text of a stored password hash

Every stored hash that keeps to the format (`IsWellFormed`) has one text, and a text is read as a stored
hash exactly if it is the text of this hash. A parameter of the name `v` that stands alone where the
version is missing would be taken for it, so the format leaves that out.
-/

namespace KeyCustody

namespace PhcString

/-- A name: one to 32 letters in lower case, digits and hyphens. -/
structure IsName (text : String) : Prop where
  nonempty : text ≠ ""
  length_le : text.length ≤ 32
  areNameChars : ∀ character ∈ text.toList, isNameChar character = true

/-- A value: up to 64 letters, digits and `/`, `+`, `.`, `-`. -/
structure IsValue (text : String) : Prop where
  length_le : text.length ≤ 64
  areValueChars : ∀ character ∈ text.toList, isValueChar character = true

theorem name?_eq_some_iff {characters : List Char} {text : String} :
    name? characters = some text ↔ IsName text ∧ characters = text.toList := by
  unfold name?
  constructor
  · intro read
    split_ifs at read with isName
    cases read
    rcases isName with ⟨nonempty, length_le, areNameChars⟩
    refine ⟨⟨?_, ?_, ?_⟩, by simp⟩
    · simpa [← String.toList_inj] using nonempty
    · simpa [← String.length_toList] using length_le
    · simpa using areNameChars
  · rintro ⟨⟨nonempty, length_le, areNameChars⟩, rfl⟩
    rw [if_pos, String.ofList_toList]
    refine ⟨?_, ?_, ?_⟩
    · simpa using nonempty
    · simpa [← String.length_toList] using length_le
    · simpa using areNameChars

theorem value?_eq_some_iff {characters : List Char} {text : String} :
    value? characters = some text ↔ IsValue text ∧ characters = text.toList := by
  unfold value?
  constructor
  · intro read
    split_ifs at read with isValue
    cases read
    rcases isValue with ⟨length_le, areValueChars⟩
    refine ⟨⟨?_, ?_⟩, by simp⟩
    · simpa [← String.length_toList] using length_le
    · simpa using areValueChars
  · rintro ⟨⟨length_le, areValueChars⟩, rfl⟩
    rw [if_pos, String.ofList_toList]
    refine ⟨?_, ?_⟩
    · simpa [← String.length_toList] using length_le
    · simpa using areValueChars

theorem exists_digitChar_of_isDigit {character : Char} (isDigit : character.isDigit = true) :
    ∃ number < 10, character = Nat.digitChar number ∧ character.toNat - 48 = number := by
  have bounds : 48 ≤ character.toNat ∧ character.toNat ≤ 57 := by
    simpa [Char.isDigit, UInt32.le_iff_toNat_le] using isDigit
  refine ⟨character.toNat - 48, by omega, ?_, rfl⟩
  rw [← Char.toNat_inj, Nat.toNat_digitChar_of_lt_ten (by omega)]
  omega

/-- Digits without a leading zero are those of the number that they make up. -/
theorem toDigits_ofDigitChars {characters : List Char} (nonempty : characters ≠ [])
    (areDigits : ∀ character ∈ characters, character.isDigit = true)
    (noLeadingZero : 1 < characters.length → characters.head? ≠ some '0') :
    Nat.toDigits 10 (Nat.ofDigitChars 10 characters 0) = characters := by
  induction characters using List.reverseRecOn with
  | nil => exact absurd rfl nonempty
  | append_singleton earlier last ih =>
      rcases exists_digitChar_of_isDigit (areDigits last (by simp)) with
        ⟨number, number_lt, rfl, _⟩
      rw [Nat.ofDigitChars_append, Nat.ofDigitChars_cons_digitChar_of_lt_ten number_lt,
        Nat.ofDigitChars_nil]
      by_cases isFirst : earlier = []
      · subst isFirst
        simp [Nat.toDigits_of_lt_base number_lt]
      · have earlier_pos := List.length_pos_iff.mpr isFirst
        have head_ne : earlier.head? ≠ some '0' := by
          have whole_ne := noLeadingZero (by rw [List.length_append]; simp; omega)
          cases earlier with
          | nil => exact absurd rfl isFirst
          | cons first others => simpa using whole_ne
        have earlier_eq := ih isFirst
          (fun character isEarlier => areDigits character (by simp [isEarlier])) fun _ => head_ne
        have value_pos : 0 < Nat.ofDigitChars 10 earlier 0 := by
          rw [Nat.pos_iff_ne_zero]
          intro isZero
          rw [isZero, Nat.toDigits_zero] at earlier_eq
          rw [← earlier_eq] at head_ne
          exact head_ne rfl
        rw [← Nat.toDigits_append_toDigits (by decide) value_pos number_lt, earlier_eq,
          Nat.toDigits_of_lt_base number_lt]

theorem head?_toDigits_ne {number : Nat} (number_pos : 0 < number) :
    (Nat.toDigits 10 number).head? ≠ some '0' := by
  induction number using Nat.strongRecOn with
  | ind number ih =>
      rcases Nat.lt_or_ge number 10 with isDigit | isLong
      · rw [Nat.toDigits_of_lt_base isDigit]
        revert number_pos
        clear ih
        revert number
        decide
      · rw [Nat.toDigits_of_base_le (by decide) isLong]
        have earlier_ne := ih (number / 10) (by omega) (by omega)
        cases earlier_eq : Nat.toDigits 10 (number / 10) with
        | nil => exact absurd earlier_eq Nat.toDigits_ne_nil
        | cons first others =>
            rw [earlier_eq] at earlier_ne
            simpa using earlier_ne

theorem decimal?_eq_some_iff {characters : List Char} {number : Nat} :
    decimal? characters = some number ↔
      number < 2 ^ 32 ∧ characters = (toString number).toList := by
  have value_eq : ∀ digits : List Char,
      digits.foldl (fun value digit => value * 10 + (digit.toNat - 48)) 0 =
        Nat.ofDigitChars 10 digits 0 := by
    intro digits
    rw [Nat.ofDigitChars_eq_foldl]
    simp only [Nat.mul_comm]
    rfl
  have toList_eq : (toString number).toList = Nat.toDigits 10 number := by
    rw [Nat.toString_eq_ofList_toDigits, String.toList_ofList]
  rw [decimal?, value_eq, toList_eq]
  constructor
  · intro read
    split_ifs at read with notNumber leadingZero
    dsimp only at read
    split_ifs at read with small
    cases read
    rw [not_or, not_not] at notNumber
    refine ⟨small, (toDigits_ofDigitChars notNumber.1 ?_ ?_).symm⟩
    · simpa using notNumber.2
    · intro isLong startsZero
      exact leadingZero ⟨startsZero, isLong⟩
  · rintro ⟨small, rfl⟩
    have areDigits : (Nat.toDigits 10 number).all Char.isDigit = true :=
      List.all_eq_true.mpr fun digit => Nat.isDigit_of_mem_toDigits (by decide) (by decide)
    have noLeadingZero : ¬((Nat.toDigits 10 number).head? = some '0' ∧
        (Nat.toDigits 10 number).length > 1) := by
      rintro ⟨startsZero, isLong⟩
      rcases Nat.eq_zero_or_pos number with rfl | number_pos
      · exact absurd isLong (by decide)
      · exact head?_toDigits_ne number_pos startsZero
    rw [if_neg (by simp [areDigits, Nat.toDigits_ne_nil]), if_neg noLeadingZero,
      Nat.ofDigitChars_ten_toDigits]
    exact if_pos small

theorem IsName.notMem {text : String} (isName : IsName text) (character : Char)
    (notName : isNameChar character = false) : character ∉ text.toList := by
  intro isMem
  simp [isName.areNameChars character isMem] at notName

theorem IsValue.notMem {text : String} (isValue : IsValue text) (character : Char)
    (notValue : isValueChar character = false) : character ∉ text.toList := by
  intro isMem
  simp [isValue.areValueChars character isMem] at notValue

/-- A parameter as it stands in the text. -/
def parameterText (parameter : String × String) : List Char :=
  parameter.1.toList ++ '=' :: parameter.2.toList

/-- Parameters as they stand in the text. -/
def parametersText (parameters : List (String × String)) : List Char :=
  [','].intercalate (parameters.map parameterText)

/-- A parameter that keeps to the format. -/
structure IsParameter (parameter : String × String) : Prop where
  name : IsName parameter.1
  value : IsValue parameter.2

theorem IsParameter.comma_notMem {parameter : String × String}
    (isParameter : IsParameter parameter) : ',' ∉ parameterText parameter := by
  simp [parameterText, isParameter.name.notMem, isParameter.value.notMem, isNameChar, isValueChar]

theorem parameter?_eq_some_iff {characters : List Char} {parameter : String × String} :
    parameter? characters = some parameter ↔
      IsParameter parameter ∧ characters = parameterText parameter := by
  constructor
  · intro read
    unfold parameter? at read
    split at read
    case h_1 name value parts_eq =>
      simp only [Option.bind_eq_bind, Option.bind_eq_some_iff, name?_eq_some_iff,
        value?_eq_some_iff, Option.pure_def, Option.some_inj] at read
      rcases read with ⟨name, ⟨isName, rfl⟩, value, ⟨isValue, rfl⟩, rfl⟩
      have whole := ((Text.splitOn_eq_iff (by simp)).mp parts_eq).1
      exact ⟨⟨isName, isValue⟩, by simpa [parameterText] using whole⟩
    case h_2 => simp at read
  · rintro ⟨isParameter, rfl⟩
    have parts_eq : (parameterText parameter).splitOn '=' =
        [parameter.1.toList, parameter.2.toList] := by
      rw [Text.splitOn_eq_iff (by simp)]
      simp [parameterText, isParameter.name.notMem, isParameter.value.notMem, isNameChar, isValueChar]
    simp [parameter?, parts_eq, name?_eq_some_iff.mpr ⟨isParameter.name, rfl⟩,
      value?_eq_some_iff.mpr ⟨isParameter.value, rfl⟩]

theorem parameters?_eq_some_iff {characters : List Char} {parameters : List (String × String)} :
    parameters? characters = some parameters ↔
      parameters ≠ [] ∧ (∀ parameter ∈ parameters, IsParameter parameter) ∧
        (parametersText parameters).length ≤ 127 ∧ characters = parametersText parameters := by
  constructor
  · intro read
    unfold parameters? at read
    split_ifs at read with length_le
    rcases (Text.mapM_eq_some_iff parameter?_eq_some_iff).mp read with ⟨areParameters, parts_eq⟩
    have whole : characters = parametersText parameters := by
      rw [parametersText, ← parts_eq, List.intercalate_splitOn]
    refine ⟨?_, areParameters, whole ▸ length_le, whole⟩
    rintro rfl
    exact List.splitOn_ne_nil ',' characters parts_eq
  · rintro ⟨nonempty, areParameters, length_le, rfl⟩
    have parts_eq : (parametersText parameters).splitOn ',' = parameters.map parameterText := by
      rw [Text.splitOn_eq_iff (by simpa using nonempty)]
      refine ⟨rfl, ?_⟩
      intro part part_mem
      rcases List.mem_map.mp part_mem with ⟨parameter, parameter_mem, rfl⟩
      exact (areParameters parameter parameter_mem).comma_notMem
    rw [parameters?, if_pos length_le, Text.mapM_eq_some_iff parameter?_eq_some_iff]
    exact ⟨areParameters, parts_eq⟩

theorem salt?_eq_some_iff {characters : List Char} {salt : String} :
    salt? characters = some salt ↔
      (IsValue salt ∧ 4 ≤ salt.length) ∧ characters = salt.toList := by
  rw [salt?]
  constructor
  · intro read
    split_ifs at read with isLong
    rcases value?_eq_some_iff.mp read with ⟨isValue, rfl⟩
    rw [String.length_toList] at isLong
    exact ⟨⟨isValue, isLong⟩, rfl⟩
  · rintro ⟨⟨isValue, isLong⟩, rfl⟩
    rw [← String.length_toList] at isLong
    rw [if_pos isLong, value?_eq_some_iff]
    exact ⟨isValue, rfl⟩

theorem hash?_eq_some_iff {characters : List Char} {hash : ByteString} :
    hash? characters = some hash ↔
      (10 ≤ hash.length ∧ hash.length ≤ 64) ∧ characters = Base64.digits hash := by
  have decode_iff : Base64.decode? (String.ofList characters) = some hash ↔
      characters = Base64.digits hash := by
    rw [Base64.decode?_eq_some_iff, Base64.encode, String.ofList_inj]
  rw [← decode_iff, hash?]
  cases Base64.decode? (String.ofList characters) with
  | none => simp
  | some bytes =>
      dsimp only
      split_ifs with inRange
      · constructor
        · intro read
          cases read
          exact ⟨inRange, rfl⟩
        · exact fun given => given.2
      · constructor
        · intro read
          cases read
        · rintro ⟨inRange', read⟩
          cases read
          exact absurd inRange' inRange

/-- The version as it stands between the dollar signs. -/
def versionParts : Option Nat → List (List Char)
  | some version => ['v' :: '=' :: (toString version).toList]
  | none => []

/-- The parameters as they stand between the dollar signs. -/
def parametersParts : List (String × String) → List (List Char)
  | [] => []
  | parameters => [parametersText parameters]

/-- The salt and the hash as they stand between the dollar signs. -/
def saltAndHashParts (salt : Option String) (hash : Option ByteString) : List (List Char) :=
  (salt.map String.toList).toList ++ (hash.map Base64.digits).toList

theorem notMem_toString (number : Nat) (character : Char) (notDigit : character.isDigit = false) :
    character ∉ (toString number).toList := by
  intro isMem
  rw [Nat.toString_eq_ofList_toDigits, String.toList_ofList] at isMem
  simp [Nat.isDigit_of_mem_toDigits (by decide) (by decide) isMem] at notDigit

theorem takeVersion?_of_version {version : Nat} (version_lt : version < 2 ^ 32)
    (rest : List (List Char)) :
    takeVersion? (versionParts (some version) ++ rest) = some (some version, rest) := by
  change (if (toString version).toList.contains ',' then _ else _) = _
  rw [if_neg (by simpa using notMem_toString version ',' (by decide)),
    decimal?_eq_some_iff.mpr ⟨version_lt, rfl⟩]
  rfl

/-- Whether parts start with one that would be taken for the version. -/
def StartsWithVersion (parts : List (List Char)) : Prop :=
  ∃ digits rest, parts = ('v' :: '=' :: digits) :: rest ∧ ',' ∉ digits

theorem takeVersion?_eq_some_iff {parts rest : List (List Char)} {version : Option Nat} :
    takeVersion? parts = some (version, rest) ↔
      (∀ number, version = some number → number < 2 ^ 32) ∧
        (version = none → ¬StartsWithVersion rest) ∧ parts = versionParts version ++ rest := by
  constructor
  · intro read
    unfold takeVersion? at read
    split at read
    case h_1 digits others =>
      split_ifs at read with hasComma
      · cases read
        refine ⟨by simp, ?_, rfl⟩
        rintro - ⟨digits', rest', parts_eq, noComma⟩
        cases parts_eq
        simp_all
      · rcases Option.map_eq_some_iff.mp read with ⟨number, readNumber, pair_eq⟩
        cases pair_eq
        rcases decimal?_eq_some_iff.mp readNumber with ⟨number_lt, rfl⟩
        exact ⟨by simpa using number_lt, by simp, rfl⟩
    case h_2 notVersion =>
      cases read
      refine ⟨by simp, ?_, rfl⟩
      rintro - ⟨digits, others, parts_eq, -⟩
      exact notVersion digits others parts_eq
  · rintro ⟨version_lt, notVersion, rfl⟩
    cases version with
    | some number => exact takeVersion?_of_version (version_lt number rfl) rest
    | none =>
        change takeVersion? rest = some (none, rest)
        unfold takeVersion?
        split
        case h_1 digits others =>
          rw [if_pos]
          by_contra noComma
          exact notVersion rfl ⟨digits, others, rfl, by simpa using noComma⟩
        case h_2 => rfl

theorem takeParameters?_eq_some_iff {parts rest : List (List Char)}
    {parameters : List (String × String)} :
    takeParameters? parts = some (parameters, rest) ↔
      (∀ parameter ∈ parameters, IsParameter parameter) ∧
        (parametersText parameters).length ≤ 127 ∧
        (parameters = [] → ∀ part ∈ rest.head?, '=' ∉ part) ∧
        parts = parametersParts parameters ++ rest := by
  constructor
  · intro read
    cases parts with
    | nil =>
        cases read
        simp [parametersText, parametersParts]
    | cons part others =>
        rw [takeParameters?] at read
        split_ifs at read with hasSign
        · rcases Option.map_eq_some_iff.mp read with ⟨found, readFound, pair_eq⟩
          cases pair_eq
          rcases parameters?_eq_some_iff.mp readFound with
            ⟨nonempty, areParameters, length_le, rfl⟩
          refine ⟨areParameters, length_le, fun isEmpty => absurd isEmpty nonempty, ?_⟩
          rcases List.exists_cons_of_ne_nil nonempty with ⟨first, later, rfl⟩
          rfl
        · cases read
          simpa [parametersText, parametersParts] using hasSign
  · rintro ⟨areParameters, length_le, noSign, rfl⟩
    cases parameters with
    | nil =>
        cases rest with
        | nil => rfl
        | cons part others =>
            have part_noSign : '=' ∉ part := noSign rfl part rfl
            simp [parametersParts, takeParameters?, part_noSign]
    | cons first later =>
        have hasSign : '=' ∈ parametersText (first :: later) := by
          cases later <;> simp [parametersText, parameterText]
        have read := parameters?_eq_some_iff.mpr ⟨by simp, areParameters, length_le, rfl⟩
        simp [parametersParts, takeParameters?, hasSign, read]

theorem saltAndHash?_eq_some_iff {parts : List (List Char)} {salt : Option String}
    {hash : Option ByteString} :
    saltAndHash? parts = some (salt, hash) ↔
      (∀ text, salt = some text → IsValue text ∧ 4 ≤ text.length) ∧
        (∀ bytes, hash = some bytes → 10 ≤ bytes.length ∧ bytes.length ≤ 64) ∧
        (salt = none → hash = none) ∧ parts = saltAndHashParts salt hash := by
  constructor
  · intro read
    unfold saltAndHash? at read
    split at read
    case h_1 =>
      cases read
      simp [saltAndHashParts]
    case h_2 =>
      rcases Option.map_eq_some_iff.mp read with ⟨text, readSalt, pair_eq⟩
      cases pair_eq
      rcases salt?_eq_some_iff.mp readSalt with ⟨isSalt, rfl⟩
      simp [saltAndHashParts, isSalt]
    case h_3 =>
      simp only [Option.bind_eq_bind, Option.bind_eq_some_iff, salt?_eq_some_iff,
        hash?_eq_some_iff, Option.pure_def, Option.some_inj] at read
      rcases read with ⟨text, ⟨isSalt, rfl⟩, bytes, ⟨inRange, rfl⟩, pair_eq⟩
      cases pair_eq
      simp [saltAndHashParts, isSalt, inRange]
    case h_4 => cases read
  · rintro ⟨isSalt, inRange, noHash, rfl⟩
    cases salt with
    | none =>
        rw [noHash rfl]
        rfl
    | some text =>
        have readSalt := salt?_eq_some_iff.mpr ⟨isSalt text rfl, rfl⟩
        cases hash with
        | none => simp [saltAndHashParts, saltAndHash?, readSalt]
        | some bytes =>
            have readHash := hash?_eq_some_iff.mpr ⟨inRange bytes rfl, rfl⟩
            simp [saltAndHashParts, saltAndHash?, readSalt, readHash]

/-- The parts of the text after the first dollar sign. -/
def parts (stored : PhcString) : List (List Char) :=
  stored.algorithm.toList :: (versionParts stored.version ++
    (parametersParts stored.parameters ++ saltAndHashParts stored.salt stored.hash))

theorem eq_v_of_parameterText_eq {parameter : String × String} (digits : List Char)
    (isName : IsName parameter.1) (text_eq : parameterText parameter = 'v' :: '=' :: digits) :
    parameter.1 = "v" := by
  rw [← String.toList_inj]
  have noSign := isName.notMem '=' (by decide)
  rw [parameterText] at text_eq
  cases name_eq : parameter.1.toList with
  | nil => exact absurd (String.toList_eq_nil_iff.mp name_eq) isName.nonempty
  | cons first later =>
      rw [name_eq] at text_eq noSign
      cases later with
      | nil =>
          simp only [List.cons_append, List.cons.injEq] at text_eq
          rw [text_eq.1]
          rfl
      | cons second others =>
          simp only [List.cons_append, List.cons.injEq] at text_eq
          simp [text_eq.2.1] at noSign

theorem isValueChar_digit : ∀ value ∈ List.range 64, isValueChar (Base64.digit value) = true := by
  decide

/-- A stored hash that keeps to the format. -/
structure IsWellFormed (stored : PhcString) : Prop where
  algorithm : IsName stored.algorithm
  version : ∀ number, stored.version = some number → number < 2 ^ 32
  notVersion : stored.version = none → ∀ value, stored.parameters ≠ [("v", value)]
  parameters : ∀ parameter ∈ stored.parameters, IsParameter parameter
  parameters_length_le : (parametersText stored.parameters).length ≤ 127
  salt : ∀ text, stored.salt = some text → IsValue text ∧ 4 ≤ text.length
  hash : ∀ bytes, stored.hash = some bytes → 10 ≤ bytes.length ∧ bytes.length ≤ 64
  noHash : stored.salt = none → stored.hash = none

theorem saltAndHashParts_notMem {salt : Option String} {hash : Option ByteString}
    (isSalt : ∀ text, salt = some text → IsValue text) (character : Char)
    (notValue : isValueChar character = false) :
    ∀ part ∈ saltAndHashParts salt hash, character ∉ part := by
  intro part part_mem
  rw [saltAndHashParts, List.mem_append] at part_mem
  rcases part_mem with isSaltPart | isHashPart
  · cases salt with
    | none => simp at isSaltPart
    | some text =>
        obtain rfl : part = text.toList := by simpa using isSaltPart
        exact (isSalt text rfl).notMem _ notValue
  · cases hash with
    | none => simp at isHashPart
    | some bytes =>
        obtain rfl : part = Base64.digits bytes := by simpa using isHashPart
        intro isMem
        rcases Base64.exists_eq_digit_of_mem_digits isMem with ⟨value, value_lt, rfl⟩
        simp [isValueChar_digit value (List.mem_range.mpr value_lt)] at notValue

theorem IsWellFormed.not_startsWithVersion {stored : PhcString} (wellFormed : stored.IsWellFormed)
    (noVersion : stored.version = none) :
    ¬StartsWithVersion (parametersParts stored.parameters ++
      saltAndHashParts stored.salt stored.hash) := by
  rintro ⟨digits, others, parts_eq, noComma⟩
  cases parameters_eq : stored.parameters with
  | nil =>
      rw [parameters_eq] at parts_eq
      cases salt_eq : stored.salt with
      | none => simp [parametersParts, saltAndHashParts, salt_eq, wellFormed.noHash salt_eq] at parts_eq
      | some salt =>
          have isValue := (wellFormed.salt salt salt_eq).1
          simp only [parametersParts, saltAndHashParts, salt_eq, Option.map_some, Option.toList_some,
            List.nil_append, List.cons_append, List.cons.injEq] at parts_eq
          apply isValue.notMem '=' (by decide)
          simp [parts_eq.1]
  | cons first later =>
      rw [parameters_eq] at parts_eq
      have whole : parametersText (first :: later) = 'v' :: '=' :: digits := by
        simp only [parametersParts, List.cons_append, List.cons.injEq] at parts_eq
        exact parts_eq.1
      cases later with
      | cons second others =>
          have isComma : ',' ∈ parametersText (first :: second :: others) := by
            simp [parametersText]
          rw [whole] at isComma
          simp [noComma] at isComma
      | nil =>
          have isParameter := wellFormed.parameters first (by simp [parameters_eq])
          have name_eq : first.1 = "v" := by
            apply eq_v_of_parameterText_eq digits isParameter.name
            simpa [parametersText] using whole
          apply wellFormed.notVersion noVersion first.2
          rw [parameters_eq, ← name_eq]

theorem IsParameter.dollar_notMem {parameter : String × String}
    (isParameter : IsParameter parameter) : '$' ∉ parameterText parameter := by
  simp [parameterText, isParameter.name.notMem, isParameter.value.notMem, isNameChar, isValueChar]

theorem IsWellFormed.dollar_notMem {stored : PhcString} (wellFormed : stored.IsWellFormed) :
    ∀ part ∈ parts stored, '$' ∉ part := by
  intro part part_mem
  simp only [parts, List.mem_cons, List.mem_append] at part_mem
  rcases part_mem with rfl | isVersion | isParameters | isRest
  · exact wellFormed.algorithm.notMem _ (by decide)
  · cases version_eq : stored.version with
    | none => simp [versionParts, version_eq] at isVersion
    | some version =>
        obtain rfl : part = 'v' :: '=' :: (toString version).toList := by
          simpa [versionParts, version_eq] using isVersion
        have inNumber := notMem_toString version '$' (by decide)
        simpa using inNumber
  · cases parameters_eq : stored.parameters with
    | nil => simp [parametersParts, parameters_eq] at isParameters
    | cons first later =>
        obtain rfl : part = parametersText (first :: later) := by
          simpa [parametersParts, parameters_eq] using isParameters
        intro isMem
        rcases Text.mem_intercalate isMem with isComma | ⟨part, part_mem, isMem⟩
        · exact absurd isComma (by decide)
        · rcases List.mem_map.mp part_mem with ⟨parameter, parameter_mem, rfl⟩
          rw [← parameters_eq] at parameter_mem
          exact (wellFormed.parameters parameter parameter_mem).dollar_notMem isMem
  · exact saltAndHashParts_notMem (fun text text_eq => (wellFormed.salt text text_eq).1)
      '$' (by decide) part isRest

theorem toList_parameters (parameters : List (String × String)) :
    (",".intercalate (parameters.map fun parameter => parameter.1 ++ "=" ++ parameter.2)).toList =
      parametersText parameters := by
  have each_eq : (String.toList ∘ fun parameter : String × String =>
      parameter.1 ++ "=" ++ parameter.2) = parameterText := by
    funext parameter
    simp [parameterText]
  rw [String.toList_intercalate, List.map_map, each_eq]
  rfl

theorem toList_toText (stored : PhcString) :
    stored.toText.toList = ['$'].intercalate ([] :: parts stored) := by
  rcases stored with ⟨algorithm, version, parameters, salt, hash⟩
  rw [Text.intercalate_cons]
  cases version <;> cases parameters <;> cases salt <;> cases hash <;>
    simp [toText, parts, versionParts, parametersParts, saltAndHashParts, Base64.encode,
      toList_parameters, -String.toList_intercalate, -List.map_cons]

/-- A text is read as a stored hash if and only if the stored hash keeps to the format and this is its
text. -/
theorem ofText?_eq_some_iff {text : String} {stored : PhcString} :
    ofText? text = some stored ↔ stored.IsWellFormed ∧ text = stored.toText := by
  rw [← String.toList_inj, toList_toText]
  constructor
  · intro read
    unfold ofText? at read
    split at read
    case h_1 name others parts_eq =>
      simp only [Option.bind_eq_bind, Option.bind_eq_some_iff, Option.pure_def, Option.some_inj,
        Prod.exists] at read
      rcases read with ⟨algorithm, readName, version, afterVersion, readVersion, parameters,
        afterParameters, readParameters, salt, hash, readSalt, rfl⟩
      rcases name?_eq_some_iff.mp readName with ⟨isName, rfl⟩
      rcases takeVersion?_eq_some_iff.mp readVersion with ⟨version_lt, notVersion, rfl⟩
      rcases takeParameters?_eq_some_iff.mp readParameters with
        ⟨areParameters, length_le, noSign, rfl⟩
      rcases saltAndHash?_eq_some_iff.mp readSalt with ⟨isSalt, inRange, noHash, rfl⟩
      refine ⟨⟨isName, version_lt, ?_, areParameters, length_le, isSalt, inRange, noHash⟩, ?_⟩
      · rintro isNone value rfl
        apply notVersion isNone
        refine ⟨value.toList, saltAndHashParts salt hash, ?_, ?_⟩
        · simp [parametersParts, parametersText, parameterText]
        · exact (areParameters ("v", value) (by simp)).value.notMem _ (by decide)
      · exact ((Text.splitOn_eq_iff (by simp)).mp parts_eq).1
    case h_2 => cases read
  · rintro ⟨wellFormed, text_eq⟩
    have parts_eq : text.toList.splitOn '$' = [] :: parts stored := by
      rw [Text.splitOn_eq_iff (by simp)]
      refine ⟨text_eq, ?_⟩
      simpa using wellFormed.dollar_notMem
    have readName := name?_eq_some_iff.mpr ⟨wellFormed.algorithm, rfl⟩
    have readVersion := takeVersion?_eq_some_iff.mpr
      ⟨wellFormed.version, wellFormed.not_startsWithVersion, rfl⟩
    have rest_noSign : ∀ part ∈ saltAndHashParts stored.salt stored.hash, '=' ∉ part :=
      saltAndHashParts_notMem (fun text text_eq => (wellFormed.salt text text_eq).1) '=' (by decide)
    have readParameters := takeParameters?_eq_some_iff.mpr
      ⟨wellFormed.parameters, wellFormed.parameters_length_le,
        fun _ part part_mem => rest_noSign part (List.mem_of_mem_head? part_mem), rfl⟩
    have readSalt := saltAndHash?_eq_some_iff.mpr
      ⟨wellFormed.salt, wellFormed.hash, wellFormed.noHash, rfl⟩
    simp [ofText?, parts_eq, parts, readName, readVersion, readParameters, readSalt]

end PhcString

end KeyCustody
