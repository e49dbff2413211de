import KeyCustody.Text.Blank
import Mathlib.Data.List.DropRight
import Mathlib.Data.List.Forall2

/-!
# Trimmed texts, letter case and separators

A trimmed text is the word that stands in it with nothing but blanks around it, and trimming again
changes nothing. Two texts have the same lower case exactly if they agree character by character up to
the case of ASCII letters. The parts of a text that is cut at a separator are the only ones without the
separator that make up the text again, and a text of several items is read item by item.
-/

namespace KeyCustody.Text

/-- A text is a word with nothing but blanks around it, and the word has no blank at either end. -/
structure IsTrimOf (word text : String) : Prop where
  around : ∃ before after : List Char, text.toList = before ++ word.toList ++ after ∧
    (∀ character ∈ before, isBlank character = true) ∧
    ∀ character ∈ after, isBlank character = true
  head_eq : ∀ character, word.toList.head? = some character → isBlank character = false
  last_eq : ∀ character, word.toList.getLast? = some character → isBlank character = false

theorem trimChars_eq (characters : List Char) :
    trimChars characters = (characters.dropWhile isBlank).rdropWhile isBlank :=
  rfl

theorem trimChars_eq_self {word : List Char}
    (head_eq : ∀ character, word.head? = some character → isBlank character = false)
    (last_eq : ∀ character, word.getLast? = some character → isBlank character = false) :
    trimChars word = word := by
  have dropWhile_eq : word.dropWhile isBlank = word := by
    cases word with
    | nil => rfl
    | cons first rest =>
        have notBlank := head_eq first rfl
        exact List.dropWhile_cons_of_neg (by simp [notBlank])
  rw [trimChars_eq, dropWhile_eq, List.rdropWhile_eq_self_iff]
  intro nonempty
  simp [last_eq _ (List.getLast?_eq_some_getLast nonempty)]

theorem trimChars_append_of_blank {before characters : List Char}
    (blank : ∀ character ∈ before, isBlank character = true) :
    trimChars (before ++ characters) = trimChars characters := by
  rw [trimChars, List.dropWhile_append_of_pos blank, ← trimChars]

theorem rdropWhile_append_of_blank {characters after : List Char}
    (blank : ∀ character ∈ after, isBlank character = true) :
    (characters ++ after).rdropWhile isBlank = characters.rdropWhile isBlank := by
  have blank_reverse : ∀ character ∈ after.reverse, isBlank character = true := by
    simpa using blank
  rw [List.rdropWhile, List.reverse_append, List.dropWhile_append_of_pos blank_reverse,
    ← List.rdropWhile]

theorem IsTrimOf.trim_eq {word text : String} (isTrim : IsTrimOf word text) : trim text = word := by
  rcases isTrim.around with ⟨before, after, text_eq, beforeBlank, afterBlank⟩
  have word_eq := trimChars_eq_self isTrim.head_eq isTrim.last_eq
  rw [← String.toList_inj, trim, String.toList_ofList, text_eq, List.append_assoc,
    trimChars_append_of_blank beforeBlank]
  cases characters_eq : word.toList with
  | nil =>
      rw [List.nil_append, trimChars_eq, List.dropWhile_eq_nil_iff.mpr afterBlank]
      rfl
  | cons first rest =>
      rw [characters_eq, trimChars_eq] at word_eq
      have notBlank : ¬isBlank first = true := by
        simp [isTrim.head_eq first (by rw [characters_eq]; rfl)]
      rw [List.dropWhile_cons_of_neg notBlank] at word_eq
      rw [trimChars_eq, List.cons_append, List.dropWhile_cons_of_neg notBlank, ← List.cons_append,
        rdropWhile_append_of_blank afterBlank, word_eq]

theorem isTrimOf_trim (text : String) : IsTrimOf (trim text) text := by
  have rest_eq : (text.toList.dropWhile isBlank).rdropWhile isBlank ++
      (text.toList.dropWhile isBlank).rtakeWhile isBlank = text.toList.dropWhile isBlank :=
    List.rdropWhile_append_rtakeWhile
  refine ⟨⟨text.toList.takeWhile isBlank, (text.toList.dropWhile isBlank).rtakeWhile isBlank, ?_,
    fun _ => List.mem_takeWhile_imp, fun _ => List.mem_rtakeWhile_imp⟩, ?_, ?_⟩
  · rw [trim, String.toList_ofList, trimChars_eq, List.append_assoc, rest_eq,
      List.takeWhile_append_dropWhile]
  · intro character head_eq
    rw [trim, String.toList_ofList, trimChars_eq] at head_eq
    have front_eq : (text.toList.dropWhile isBlank).head? = some character := by
      rw [← rest_eq, List.head?_append, head_eq]
      rfl
    have notBlank := List.head?_dropWhile_not isBlank text.toList
    rw [front_eq] at notBlank
    exact notBlank
  · intro character last_eq
    rw [trim, String.toList_ofList, trimChars_eq] at last_eq
    rcases List.getLast?_eq_some_iff.mp last_eq with ⟨earlier, kept_eq⟩
    have nonempty : (text.toList.dropWhile isBlank).rdropWhile isBlank ≠ [] := by simp [kept_eq]
    have notBlank := List.rdropWhile_last_not isBlank _ nonempty
    simpa [kept_eq] using notBlank

theorem isTrimOf_iff {word text : String} : IsTrimOf word text ↔ trim text = word := by
  constructor
  · exact IsTrimOf.trim_eq
  · rintro rfl
    exact isTrimOf_trim text

@[simp]
theorem trim_trim (text : String) : trim (trim text) = trim text := by
  have isTrim := isTrimOf_trim text
  apply IsTrimOf.trim_eq
  exact ⟨⟨[], [], by simp, by simp, by simp⟩, isTrim.head_eq, isTrim.last_eq⟩

theorem mem_of_mem_trim {text : String} {character : Char}
    (character_mem : character ∈ (trim text).toList) : character ∈ text.toList := by
  rcases (isTrimOf_trim text).around with ⟨before, after, text_eq, _⟩
  simp [text_eq, character_mem]

/-- Two characters that differ at most in the case of an ASCII letter. -/
def SameLetter (left right : Char) : Prop :=
  left = right ∨
    ∃ place < 26, left.toNat = 'A'.toNat + place ∧ right.toNat = 'a'.toNat + place ∨
      left.toNat = 'a'.toNat + place ∧ right.toNat = 'A'.toNat + place

/-- Two texts that differ at most in the case of ASCII letters. -/
def SameWord (left right : String) : Prop := List.Forall₂ SameLetter left.toList right.toList

theorem toNat_toLower (character : Char) :
    character.toLower.toNat =
      if 65 ≤ character.toNat ∧ character.toNat ≤ 90 then character.toNat + 32
      else character.toNat := by
  have isUpper_iff : character.val ≥ 'A'.val ∧ character.val ≤ 'Z'.val ↔
      65 ≤ character.toNat ∧ character.toNat ≤ 90 := by
    rw [ge_iff_le, UInt32.le_iff_toNat_le, UInt32.le_iff_toNat_le]
    rfl
  unfold Char.toLower
  by_cases isUpper : 65 ≤ character.toNat ∧ character.toNat ≤ 90
  · have offset : ('a'.val - 'A'.val).toNat = 32 := rfl
    rw [dif_pos (isUpper_iff.mpr isUpper), if_pos isUpper, Char.toNat, UInt32.toNat_add, offset,
      ← Char.toNat]
    omega
  · rw [dif_neg (isUpper_iff.not.mpr isUpper), if_neg isUpper]

theorem toLower_eq_iff {left right : Char} :
    left.toLower = right.toLower ↔ SameLetter left right := by
  have upperA : 'A'.toNat = 65 := rfl
  have lowerA : 'a'.toNat = 97 := rfl
  rw [SameLetter, upperA, lowerA, ← Char.toNat_inj, ← Char.toNat_inj, toNat_toLower, toNat_toLower]
  constructor
  · intro same
    by_cases same_toNat : left.toNat = right.toNat
    · exact Or.inl same_toNat
    · right
      split_ifs at same with leftUpper rightUpper rightUpper
      · omega
      · exact ⟨left.toNat - 65, by omega, Or.inl ⟨by omega, by omega⟩⟩
      · exact ⟨right.toNat - 65, by omega, Or.inr ⟨by omega, by omega⟩⟩
      · omega
  · rintro (same | ⟨place, place_lt, ⟨left_eq, right_eq⟩ | ⟨left_eq, right_eq⟩⟩)
    · rw [same]
    · rw [left_eq, right_eq, if_pos (by omega), if_neg (by omega)]
      omega
    · rw [left_eq, right_eq, if_neg (by omega), if_pos (by omega)]
      omega

theorem lowercase_eq_iff {left right : String} :
    lowercase left = lowercase right ↔ SameWord left right := by
  have same_iff : ∀ characters others : List Char,
      characters.map Char.toLower = others.map Char.toLower ↔
        List.Forall₂ (fun character other => character.toLower = other.toLower) characters others := by
    intro characters others
    rw [← List.forall₂_eq_eq_eq, List.forall₂_map_left_iff, List.forall₂_map_right_iff]
  rw [lowercase, lowercase, String.ofList_inj, same_iff, SameWord]
  simp only [toLower_eq_iff]

theorem lowercase_eq_empty_iff {text : String} : lowercase text = "" ↔ text = "" := by
  rw [← String.toList_inj, ← String.toList_inj, lowercase]
  simp

theorem notMem_of_mem_splitOn {separator : Char} {characters part : List Char}
    (part_mem : part ∈ characters.splitOn separator) : separator ∉ part := by
  induction characters generalizing part with
  | nil => simp_all
  | cons first rest ih =>
      rw [List.splitOn_cons_eq_if_modifyHead] at part_mem
      split_ifs at part_mem with isSeparator
      · rcases List.mem_cons.mp part_mem with rfl | part_mem
        · exact List.not_mem_nil
        · exact ih part_mem
      · rcases List.exists_cons_of_ne_nil (List.splitOn_ne_nil separator rest) with
          ⟨head, tail, parts_eq⟩
        rw [parts_eq] at part_mem ih
        rcases List.mem_cons.mp part_mem with rfl | part_mem
        · rw [List.mem_cons, not_or]
          refine ⟨?_, ih List.mem_cons_self⟩
          rintro rfl
          simp at isSeparator
        · exact ih (List.mem_cons_of_mem head part_mem)

theorem splitOn_eq_iff {separator : Char} {characters : List Char} {parts : List (List Char)}
    (nonempty : parts ≠ []) :
    characters.splitOn separator = parts ↔
      characters = [separator].intercalate parts ∧ ∀ part ∈ parts, separator ∉ part := by
  constructor
  · rintro rfl
    exact ⟨(List.intercalate_splitOn separator).symm, fun _ => notMem_of_mem_splitOn⟩
  · rintro ⟨rfl, noSeparator⟩
    exact List.splitOn_intercalate separator noSeparator nonempty

/-- The first part stands alone, and every other one after a separator. -/
theorem intercalate_cons {separator : Char} (first : List Char) (later : List (List Char)) :
    [separator].intercalate (first :: later) = first ++ later.flatMap (separator :: ·) := by
  induction later generalizing first with
  | nil => simp
  | cons second others ih => rw [List.intercalate_cons_cons, ih, List.flatMap_cons]; simp

theorem mem_intercalate {separator character : Char} {parts : List (List Char)}
    (isMem : character ∈ [separator].intercalate parts) :
    character = separator ∨ ∃ part ∈ parts, character ∈ part := by
  cases parts with
  | nil => simp at isMem
  | cons first later =>
      rw [intercalate_cons, List.mem_append, List.mem_flatMap] at isMem
      rcases isMem with inFirst | ⟨part, part_mem, inPart⟩
      · exact .inr ⟨first, by simp, inFirst⟩
      · rcases List.mem_cons.mp inPart with isSeparator | inPart
        · exact .inl isSeparator
        · exact .inr ⟨part, by simp [part_mem], inPart⟩

theorem mapM_eq_some_iff {α β : Type} {read : α → Option β} {write : β → α} {IsWritable : β → Prop}
    (read_eq_some_iff : ∀ {source target},
      read source = some target ↔ IsWritable target ∧ source = write target)
    {sources : List α} {targets : List β} :
    sources.mapM read = some targets ↔
      (∀ target ∈ targets, IsWritable target) ∧ sources = targets.map write := by
  induction sources generalizing targets with
  | nil => cases targets <;> simp
  | cons source rest ih =>
      rw [List.mapM_cons]
      simp only [Option.bind_eq_bind, Option.bind_eq_some_iff, Option.pure_def, Option.some_inj, ih,
        read_eq_some_iff]
      constructor
      · rintro ⟨target, ⟨isWritable, rfl⟩, later, ⟨areWritable, rfl⟩, rfl⟩
        exact ⟨by simpa [isWritable] using areWritable, by simp⟩
      · rintro ⟨areWritable, sources_eq⟩
        cases targets with
        | nil => simp at sources_eq
        | cons target later =>
            simp only [List.map_cons, List.cons.injEq] at sources_eq
            simp only [List.mem_cons, forall_eq_or_imp] at areWritable
            exact ⟨target, ⟨areWritable.1, sources_eq.1⟩, later, ⟨areWritable.2, sources_eq.2⟩, rfl⟩

end KeyCustody.Text
