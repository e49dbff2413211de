import KeyCustody.EnvironmentFile
import KeyCustody.Proofs.Text

/-!
# What an environment file sets

A line with a name, an equals sign and a plain value sets the variable of this name to this value, unless
it is set already. A file of such lines therefore gives each of its variables the value in the file if no
variable had it before, and changes no other.
-/

namespace KeyCustody

namespace EnvironmentFile

/-- Whether a character stands for itself wherever it is in a value. -/
def isPlain (character : Char) : Bool :=
  !(Text.isBlank character || ['\\', '\'', '"', '$', '#', '\x00'].contains character)

/-- A value that is not empty and stands for itself. -/
structure IsPlainValue (value : String) : Prop where
  nonempty : value ≠ ""
  arePlain : ∀ character ∈ value.toList, isPlain character = true

instance (value : String) : Decidable (IsPlainValue value) :=
  decidable_of_iff (value ≠ "" ∧ value.toList.all isPlain = true)
    ⟨fun ⟨nonempty, arePlain⟩ => ⟨nonempty, List.all_eq_true.mp arePlain⟩,
      fun ⟨nonempty, arePlain⟩ => ⟨nonempty, List.all_eq_true.mpr arePlain⟩⟩

/-- A name that a variable can have. -/
structure IsName (name : String) : Prop where
  starts : ∃ first rest, name.toList = first :: rest ∧ startsName first = true
  areNameChars : ∀ character ∈ name.toList, isNameChar character = true

/-- A variable with the value that it is to have. -/
abbrev Assignment := String × String

/-- The line of an assignment, without its line feed. -/
def lineOf (assignment : Assignment) : List Char :=
  assignment.1.toList ++ '=' :: assignment.2.toList

/-- The characters of a file with a line for each assignment. -/
def charactersOf (assignments : List Assignment) : List Char :=
  assignments.flatMap fun assignment => lineOf assignment ++ ['\n']

/-- The text of a file with a line for each assignment. -/
def textOf (assignments : List Assignment) : String :=
  String.ofList (charactersOf assignments)

theorem isPlain_iff {character : Char} :
    isPlain character = true ↔ Text.isBlank character = false ∧
      character ∉ ['\\', '\'', '"', '$', '#', '\x00'] := by
  simp [isPlain]

theorem toNat_lt_of_isNameChar {character : Char} (isName : isNameChar character = true) :
    character.toNat < 128 := by
  unfold isNameChar Char.isAlphanum Char.isAlpha Char.isUpper Char.isLower Char.isDigit at isName
  simp only [Bool.or_eq_true, Bool.and_eq_true, decide_eq_true_eq, beq_iff_eq, ge_iff_le,
    UInt32.le_iff_toNat_le] at isName
  rcases isName with (((isUpper | isLower) | isDigit) | rfl) | rfl
  · exact Nat.lt_of_le_of_lt isUpper.2 (by decide)
  · exact Nat.lt_of_le_of_lt isLower.2 (by decide)
  · exact Nat.lt_of_le_of_lt isDigit.2 (by decide)
  · decide
  · decide

theorem isPlain_of_mem_range : ∀ code ∈ List.range 128,
    isNameChar (Char.ofNat code) = true → isPlain (Char.ofNat code) = true := by
  decide +kernel

theorem isPlain_of_isNameChar {character : Char} (isName : isNameChar character = true) :
    isPlain character = true := by
  have plain := isPlain_of_mem_range character.toNat
    (List.mem_range.mpr (toNat_lt_of_isNameChar isName))
  rw [Char.ofNat_toNat] at plain
  exact plain isName

theorem isPlain_of_mem_lineOf {assignment : Assignment} (isName : IsName assignment.1)
    (isValue : IsPlainValue assignment.2) {character : Char}
    (isMem : character ∈ lineOf assignment) : isPlain character = true := by
  rw [lineOf, List.mem_append, List.mem_cons] at isMem
  rcases isMem with inName | rfl | inValue
  · exact isPlain_of_isNameChar (isName.areNameChars character inName)
  · decide
  · exact isValue.arePlain character inValue

theorem splitLine_append {line : List Char} (noLineFeed : '\n' ∉ line) (rest : List Char) :
    splitLine (line ++ '\n' :: rest) = (line ++ ['\n'], rest) := by
  induction line with
  | nil => rfl
  | cons first later ih =>
      rw [List.mem_cons, not_or] at noLineFeed
      rw [List.cons_append, splitLine]
      · rw [ih noLineFeed.2]
        rfl
      · rintro rfl
        exact noLineFeed.1 rfl

theorem follow_complete {characters : List Char} (before : List Char)
    (stays : ∀ character ∈ characters, LineState.complete.next character = .complete) :
    follow .complete before characters = .reached .complete := by
  induction characters generalizing before with
  | nil => rfl
  | cons first later ih =>
      rw [follow, if_neg (by simp), stays first List.mem_cons_self]
      exact ih _ fun character isLater => stays character (List.mem_cons_of_mem first isLater)

theorem next_of_isPlain {character : Char} (plain : isPlain character = true) :
    LineState.complete.next character = .complete := by
  rcases isPlain_iff.mp plain with ⟨notBlank, notSpecial⟩
  simp only [List.mem_cons, not_or] at notSpecial
  simp [LineState.next, LineState.opened, notBlank, notSpecial]

theorem dropNewline_append {line : List Char} (noReturn : '\r' ∉ line) :
    dropNewline (line ++ ['\n']) = line := by
  rw [dropNewline, List.reverse_append, List.reverse_singleton, List.singleton_append]
  split
  case h_1 earlier reverse_eq =>
    rw [List.cons.injEq] at reverse_eq
    have isMem : '\r' ∈ line.reverse := by simp [reverse_eq.2]
    exact absurd (List.mem_reverse.mp isMem) noReturn
  case h_2 earlier _ reverse_eq =>
    rw [List.cons.injEq] at reverse_eq
    rw [← reverse_eq.2, List.reverse_reverse]
  case h_3 _ notLineFeed => exact absurd rfl (notLineFeed line.reverse)

/-- A line of plain characters is read up to its line feed. -/
theorem nextLine_append {line : List Char} (fuel : Nat)
    (arePlain : ∀ character ∈ line, isPlain character = true) (nonempty : line ≠ [])
    (rest : List Char) :
    nextLine (fuel + 1) .complete [] (line ++ '\n' :: rest) = .line line rest := by
  have noLineFeed : '\n' ∉ line := fun isMem => absurd (arePlain '\n' isMem) (by decide)
  have noReturn : '\r' ∉ line := fun isMem => absurd (arePlain '\r' isMem) (by decide)
  have noComment : ((line ++ ['\n']).dropWhile Text.isBlank).head? ≠ some '#' := by
    cases line with
    | nil => exact absurd rfl nonempty
    | cons first later =>
        rcases isPlain_iff.mp (arePlain first List.mem_cons_self) with ⟨notBlank, notSpecial⟩
        rw [List.cons_append, List.dropWhile_cons_of_neg (by simp [notBlank])]
        rintro ⟨⟩
        simp at notSpecial
  have stays : ∀ character ∈ line ++ ['\n'],
      LineState.complete.next character = .complete := by
    intro character isMem
    rcases List.mem_append.mp isMem with inLine | isLast
    · exact next_of_isPlain (arePlain character inLine)
    · obtain rfl := List.mem_singleton.mp isLast
      decide
  rw [nextLine, if_neg (by simp), splitLine_append noLineFeed]
  dsimp only
  rw [List.nil_append, if_neg noComment, follow_complete [] stays, dropNewline_append noReturn]

theorem readValue?_plain (given : Variables) {value : List Char}
    (arePlain : ∀ character ∈ value, isPlain character = true) (output : List Char) :
    readValue? given ⟨.plain, .plain, output⟩ value = some (output ++ value) := by
  induction value generalizing output with
  | nil => simp [readValue?, ValueState.finish?]
  | cons first later ih =>
      have next_eq : ValueState.next? given ⟨.plain, .plain, output⟩ first =
          some ⟨.plain, .plain, output ++ [first]⟩ := by
        rcases isPlain_iff.mp (arePlain first List.mem_cons_self) with ⟨notBlank, notSpecial⟩
        have notSpace : first ≠ ' ' := by
          rintro rfl
          exact absurd notBlank (by decide)
        have notTab : first ≠ '\t' := by
          rintro rfl
          exact absurd notBlank (by decide)
        simp only [List.mem_cons, not_or] at notSpecial
        simp [ValueState.next?, ValueState.afterPlain, ValueState.push, notSpecial, notSpace, notTab]
      rw [readValue?, if_neg (by simp), next_eq, Option.bind_some,
        ih fun character isLater => arePlain character (List.mem_cons_of_mem first isLater)]
      simp

theorem name?_append {name : String} (isName : IsName name) (rest : List Char) :
    name? (name.toList ++ '=' :: rest) = some (name, '=' :: rest) := by
  rcases isName with ⟨⟨first, later, name_eq, starts⟩, areNameChars⟩
  have takeWhile_eq : (name.toList ++ '=' :: rest).takeWhile isNameChar = name.toList := by
    rw [List.takeWhile_append_of_pos areNameChars]
    simp [isNameChar]
  have dropWhile_eq : (name.toList ++ '=' :: rest).dropWhile isNameChar = '=' :: rest := by
    rw [List.dropWhile_append_of_pos areNameChars]
    simp [isNameChar]
  have noBlank : ('=' :: rest).dropWhile Text.isBlank = '=' :: rest :=
    List.dropWhile_cons_of_neg (by decide)
  rw [name_eq, List.cons_append] at takeWhile_eq dropWhile_eq ⊢
  rw [name?, if_pos starts, takeWhile_eq, dropWhile_eq, noBlank, ← name_eq, String.ofList_toList]

theorem readLine?_lineOf (given : Variables) {assignment : Assignment} (isName : IsName assignment.1)
    (isValue : IsPlainValue assignment.2) :
    readLine? given (lineOf assignment) = some (given.setIfAbsent assignment.1 assignment.2) := by
  have arePlain : ∀ character ∈ lineOf assignment, isPlain character = true :=
    fun _ => isPlain_of_mem_lineOf isName isValue
  have notBlank : ∀ character ∈ lineOf assignment, Text.isBlank character = false :=
    fun character isMem => (isPlain_iff.mp (arePlain character isMem)).1
  have trim_eq : Text.trimChars (lineOf assignment) = lineOf assignment :=
    Text.trimChars_eq_self (fun character isHead => notBlank character (List.mem_of_mem_head? isHead))
      fun character isLast => notBlank character (List.mem_of_mem_getLast? isLast)
  have noComment : ¬(lineOf assignment = [] ∨ (lineOf assignment).head? = some '#') := by
    rintro (isEmpty | isComment)
    · simp [lineOf] at isEmpty
    · exact absurd (arePlain '#' (List.mem_of_mem_head? isComment)) (by decide)
  have noBlank : assignment.2.toList.dropWhile Text.isBlank = assignment.2.toList := by
    cases value_eq : assignment.2.toList with
    | nil => rfl
    | cons first later =>
        apply List.dropWhile_cons_of_neg
        have plain := isValue.arePlain first (by simp [value_eq])
        simp [(isPlain_iff.mp plain).1]
  have assigned : assignment? (lineOf assignment) = some (assignment.1, assignment.2.toList) := by
    simp [assignment?, lineOf, name?_append isName, afterEquals?, noBlank]
  have value_noComment : assignment.2.toList.head? ≠ some '#' := by
    intro isComment
    exact absurd (isValue.arePlain '#' (List.mem_of_mem_head? isComment)) (by decide)
  have read := readValue?_plain given isValue.arePlain []
  simp only [readLine?, trim_eq, if_neg noComment, assigned]
  simp [value_noComment, read]

theorem readLines_charactersOf (given : Variables) {assignments : List Assignment}
    (areNames : ∀ assignment ∈ assignments, IsName assignment.1)
    (areValues : ∀ assignment ∈ assignments, IsPlainValue assignment.2) (fuel : Nat)
    (enough : (charactersOf assignments).length < fuel) :
    readLines fuel given (charactersOf assignments) =
      assignments.foldl (fun given assignment => given.setIfAbsent assignment.1 assignment.2) given := by
  induction assignments generalizing given fuel with
  | nil =>
      rcases Nat.exists_eq_succ_of_ne_zero (Nat.ne_of_gt enough) with ⟨fuel, rfl⟩
      rfl
  | cons first later ih =>
      rcases Nat.exists_eq_succ_of_ne_zero (Nat.ne_of_gt (Nat.zero_lt_of_lt enough)) with ⟨fuel, rfl⟩
      simp only [List.mem_cons, forall_eq_or_imp] at areNames areValues
      have line_ne : lineOf first ≠ [] := by simp [lineOf]
      have text_eq : charactersOf (first :: later) =
          lineOf first ++ '\n' :: charactersOf later := by
        simp [charactersOf]
      rw [text_eq] at enough ⊢
      rw [readLines, nextLine_append _ (fun _ => isPlain_of_mem_lineOf areNames.1 areValues.1) line_ne]
      dsimp only
      rw [readLine?_lineOf given areNames.1 areValues.1]
      apply ih _ areNames.2 areValues.2
      rw [List.length_append, List.length_cons] at enough
      omega

/-- Reading a file of assignments makes them one after the other. -/
theorem load_textOf (given : Variables) {assignments : List Assignment}
    (areNames : ∀ assignment ∈ assignments, IsName assignment.1)
    (areValues : ∀ assignment ∈ assignments, IsPlainValue assignment.2) :
    load given (textOf assignments) =
      assignments.foldl (fun given assignment => given.setIfAbsent assignment.1 assignment.2) given := by
  have noMark : dropMark (charactersOf assignments) = charactersOf assignments := by
    unfold dropMark
    split
    case h_1 rest text_eq =>
      cases assignments with
      | nil => cases text_eq
      | cons first later =>
          rcases (areNames first List.mem_cons_self).starts with ⟨character, others, name_eq, starts⟩
          simp only [charactersOf, List.flatMap_cons, lineOf, name_eq, List.cons_append,
            List.cons.injEq] at text_eq
          rw [text_eq.1] at starts
          exact absurd starts (by decide)
    case h_2 => rfl
  rw [load, textOf, String.toList_ofList, noMark]
  exact readLines_charactersOf given areNames areValues _ (Nat.lt_succ_self _)

end EnvironmentFile

namespace Variables

/-- The variables with assigned ones set before them. -/
def withAssigned (given : Variables) (assignments : List (String × String)) : Variables :=
  assignments.map (fun assignment => (assignment.1, ByteString.ofText assignment.2)) ++ given

/-- A variable has the value assigned to it, and one without an assignment the value given before. -/
theorem lookup_withAssigned (given : Variables) (assignments : List (String × String))
    (name : String) :
    (given.withAssigned assignments).lookup name =
      match assignments.lookup name with
      | some value => some (ByteString.ofText value)
      | none => given.lookup name := by
  induction assignments with
  | nil => rfl
  | cons first later ih =>
      have cons_eq : given.withAssigned (first :: later) =
          (first.1, ByteString.ofText first.2) :: given.withAssigned later := rfl
      rw [cons_eq, List.lookup_cons, List.lookup_cons]
      by_cases isFirst : name = first.1
      · simp [isFirst]
      · simp [beq_eq_false_iff_ne.mpr isFirst, ih]

theorem setIfAbsent_of_unset {given : Variables} {name : String} (isUnset : given.lookup name = none)
    (value : String) : given.setIfAbsent name value = (name, ByteString.ofText value) :: given := by
  simp [setIfAbsent, text?, isUnset]

/-- Variables that are not set before get the values that are assigned to them. -/
theorem lookup_foldl_setIfAbsent {given : Variables} {assignments : List (String × String)}
    (areUnset : ∀ assignment ∈ assignments, given.lookup assignment.1 = none)
    (distinct : (assignments.map Prod.fst).Nodup) (name : String) :
    (assignments.foldl (fun given assignment => given.setIfAbsent assignment.1 assignment.2)
        given).lookup name = (given.withAssigned assignments).lookup name := by
  rw [lookup_withAssigned]
  induction assignments generalizing given with
  | nil => rfl
  | cons first later ih =>
      rw [List.map_cons, List.nodup_cons] at distinct
      simp only [List.mem_cons, forall_eq_or_imp] at areUnset
      have notLater : ∀ assignment ∈ later, assignment.1 ≠ first.1 := by
        intro assignment isLater same
        exact distinct.1 (List.mem_map.mpr ⟨assignment, isLater, same⟩)
      have stillUnset : ∀ assignment ∈ later, List.lookup assignment.1
          ((first.1, ByteString.ofText first.2) :: given) = none := by
        intro assignment isLater
        rw [List.lookup_cons]
        simp [beq_eq_false_iff_ne.mpr (notLater assignment isLater), areUnset.2 assignment isLater]
      rw [List.foldl_cons, setIfAbsent_of_unset areUnset.1, ih stillUnset distinct.2, List.lookup_cons,
        List.lookup_cons]
      by_cases isFirst : name = first.1
      · have unassigned : later.lookup first.1 = none := by
          rw [List.lookup_eq_none_iff]
          intro assignment isLater
          exact bne_iff_ne.mpr (notLater assignment isLater).symm
        simp [isFirst, unassigned]
      · simp [beq_eq_false_iff_ne.mpr isFirst]

end Variables

end KeyCustody
