import KeyCustody.Proofs.Service.Sealed
import KeyCustody.Proofs.Text
import KeyCustody.Settings.Source

/-!
# Allow-lists as text

An allow-list may be given as text with commas or as a list of entries. The text is cut at its commas,
its parts are trimmed and empty ones are dropped, and the seal check does the same with its entries
again, so that both ways lead to the same decisions: an operation is allowed if it stands between commas
up to blanks around it and the case of ASCII letters.
-/

namespace KeyCustody

namespace AllowList

/-- The parts of a text between commas, as they stand there. -/
def segments (text : String) : List String := (text.toList.splitOn ',').map String.ofList

theorem listOfText_eq (text : String) :
    listOfText text = ((segments text).map Text.trim).filter (· ≠ "") := by
  simp [listOfText, segments, Function.comp_def]

/-- A part of a list as it is read: trimmed, not empty and without a comma. -/
structure IsWord (word : String) : Prop where
  ne_empty : word ≠ ""
  trim_eq : Text.trim word = word
  noComma : ',' ∉ word.toList

theorem isWord_of_mem_listOfText {text word : String} (word_mem : word ∈ listOfText text) :
    IsWord word := by
  rw [listOfText_eq, List.mem_filter, List.mem_map] at word_mem
  rcases word_mem with ⟨⟨segment, segment_mem, rfl⟩, nonempty⟩
  rcases List.mem_map.mp segment_mem with ⟨part, part_mem, rfl⟩
  refine ⟨by simpa using nonempty, Text.trim_trim _, ?_⟩
  intro comma_mem
  apply Text.notMem_of_mem_splitOn part_mem
  simpa using Text.mem_of_mem_trim comma_mem

theorem segments_intercalate {words : List String} (nonempty : words ≠ [])
    (areWords : ∀ word ∈ words, IsWord word) : segments (",".intercalate words) = words := by
  have toList_eq : (",".intercalate words).toList = [','].intercalate (words.map String.toList) :=
    String.toList_intercalate
  have noComma : ∀ part ∈ words.map String.toList, ',' ∉ part := by
    intro part part_mem
    rcases List.mem_map.mp part_mem with ⟨word, word_mem, rfl⟩
    exact (areWords word word_mem).noComma
  rw [segments, toList_eq, List.splitOn_intercalate ',' noComma (by simpa using nonempty)]
  simp [Function.comp_def]

/-- Words joined by commas are read back as they are. -/
theorem listOfText_intercalate {words : List String} (areWords : ∀ word ∈ words, IsWord word) :
    listOfText (",".intercalate words) = words := by
  by_cases nonempty : words = []
  · subst nonempty
    decide +kernel
  · have trimmed : words.map Text.trim = words := by
      conv_rhs => rw [← List.map_id words]
      apply List.map_congr_left
      intro word word_mem
      exact (areWords word word_mem).trim_eq
    rw [listOfText_eq, segments_intercalate nonempty areWords, trimmed, List.filter_eq_self]
    intro word word_mem
    simpa using (areWords word word_mem).ne_empty

end AllowList

namespace SealGate

/-- A seal check trims its entries itself, and drops those that are blank. -/
theorem ofAllowList_trimmed (entries : List String) :
    ofAllowList ((entries.map Text.trim).filter (· ≠ "")) = ofAllowList entries := by
  simp only [ofAllowList, List.filter_map, List.map_map, List.filter_filter, Function.comp_def,
    Text.trim_trim, ne_eq, Text.lowercase_eq_empty_iff, Bool.and_self]

theorem allows_iff_sameWord {allowList : List String} {operation : String} :
    Allows allowList operation ↔ operation ≠ "" ∧
      ∃ entry ∈ allowList, ∃ word, Text.IsTrimOf word entry ∧ Text.SameWord word operation := by
  simp only [Allows, Text.isTrimOf_iff, ← Text.lowercase_eq_iff]
  constructor
  · rintro ⟨entry, entry_mem, nonempty, same⟩
    rw [same, ne_eq, Text.lowercase_eq_empty_iff] at nonempty
    exact ⟨nonempty, entry, entry_mem, _, rfl, same⟩
  · rintro ⟨nonempty, entry, entry_mem, _, rfl, same⟩
    refine ⟨entry, entry_mem, ?_, same⟩
    rw [same, ne_eq, Text.lowercase_eq_empty_iff]
    exact nonempty

/-- A seal check with an allow-list given as text allows an operation exactly if it is not empty and
stands between commas, up to blanks around it and the case of ASCII letters. Given the parts between
commas as they stand there it decides the same, and the parts that were read are read again from their
text with commas between them. -/
theorem decides_by_segments (text : String) :
    (∀ operation, (ofAllowList (listOfText text)).isAllowed operation = true ↔
      operation ≠ "" ∧ ∃ segment ∈ AllowList.segments text, ∃ word,
        Text.IsTrimOf word segment ∧ Text.SameWord word operation) ∧
    (∀ operation, (ofAllowList (listOfText text)).verdict Keystore.empty operation = none ↔
      (ofAllowList (listOfText text)).isAllowed operation = true) ∧
    (∀ operation, (ofAllowList (AllowList.segments text)).isAllowed operation =
      (ofAllowList (listOfText text)).isAllowed operation) ∧
    (∀ keystore operation, (ofAllowList (AllowList.segments text)).verdict keystore operation =
      (ofAllowList (listOfText text)).verdict keystore operation) ∧
    listOfText (",".intercalate (listOfText text)) = listOfText text := by
  have gate_eq : ofAllowList (listOfText text) = ofAllowList (AllowList.segments text) := by
    rw [AllowList.listOfText_eq, ofAllowList_trimmed]
  refine ⟨?_, ?_, ?_, ?_, ?_⟩
  · intro operation
    rw [gate_eq, isAllowed_iff, allows_iff_sameWord]
  · intro operation
    have notLoaded : Keystore.empty.isLoaded = false := rfl
    simp [verdict, notLoaded]
  · intro operation
    rw [gate_eq]
  · intro keystore operation
    rw [gate_eq]
  · apply AllowList.listOfText_intercalate
    intro word word_mem
    exact AllowList.isWord_of_mem_listOfText word_mem

end SealGate

end KeyCustody
