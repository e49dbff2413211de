import KeyCustody.Program
import KeyCustody.Proofs.DatabaseUrl

/-!
# Directories that differ in one file

Opening a database and reading a file of settings have to do with one file each. In directories that
differ only in another one they have the same result, and the directories still differ only in this one
afterwards.
-/

namespace KeyCustody

/-- Without the entries of a name nothing is found under it, and the same under all others. -/
theorem lookup_filter_ne {Value : Type} (entries : List (String × Value)) (name other : String) :
    (entries.filter fun entry => entry.1 ≠ name).lookup other =
      if other = name then none else entries.lookup other := by
  induction entries with
  | nil => simp
  | cons first later ih =>
      rcases first with ⟨firstName, value⟩
      by_cases isName : firstName = name
      · rw [List.filter_cons_of_neg (by simp [isName]), ih]
        split_ifs with isOther
        · rfl
        · rw [List.lookup_cons, isName, beq_eq_false_iff_ne.mpr isOther]
      · rw [List.filter_cons_of_pos (by simp [isName]), List.lookup_cons, List.lookup_cons, ih]
        by_cases isFirst : other = firstName
        · simp [isFirst, isName]
        · simp [beq_eq_false_iff_ne.mpr isFirst]

namespace Directory

/-- A directory with a file of this name and content, and another one with the same files otherwise. -/
structure AlikeBut (name : String) (content : FileContent) (left right : Directory) : Prop where
  path_eq : left.path = right.path
  content_eq : left.content? name = some content
  others_eq : ∀ other ≠ name, left.content? other = right.content? other

/-- Outcomes with the same answer, and with directories that still differ only in this file. -/
def SameOutcome {Answer : Type} (name : String) (content : FileContent)
    (left right : Answer × Directory) : Prop :=
  ∃ answer leftAfter rightAfter, left = (answer, leftAfter) ∧ right = (answer, rightAfter) ∧
    AlikeBut name content leftAfter rightAfter

/-- A database URL leads to the file of a name in the directory. -/
def LeadsTo (directory : Directory) (text name : String) : Prop :=
  ∃ url resolved, DatabaseUrl.ofText text = .ok url ∧ url.resolve = .ok resolved ∧
    directory.place resolved.path = .entry name

theorem content?_write (directory : Directory) (name other : String) (content : FileContent) :
    (directory.write name content).content? other =
      if other = name then some content else directory.content? other := by
  rw [content?, write, List.lookup_append, lookup_filter_ne]
  by_cases isName : other = name
  · simp [isName]
  · have notWritten : [(name, content)].lookup other = none := by
      rw [List.lookup_cons, beq_eq_false_iff_ne.mpr isName]
      rfl
    simp [isName, content?, notWritten]

theorem alikeBut_write (directory : Directory) (name : String) (content : FileContent) :
    AlikeBut name content (directory.write name content) directory where
  path_eq := rfl
  content_eq := by rw [content?_write, if_pos rfl]
  others_eq other differs := by rw [content?_write, if_neg differs]

theorem place_of_openResolved {directory : Directory} {url : DatabaseUrl} {opened : OpenedDatabase}
    {name : String} (happened : (directory.openResolved url).1 = .ok opened)
    (fileName_eq : opened.fileName = some name) : directory.place url.path = .entry name := by
  unfold openResolved at happened
  split at happened
  · cases happened
  · split_ifs at happened
    · cases happened
      cases fileName_eq
    · split at happened
      · rename_i other place_eq
        rw [fileName_of_openFile happened, Option.some.injEq] at fileName_eq
        rw [place_eq, fileName_eq]
      · cases happened

/-- What was opened for a URL is kept in the file that the URL leads to, if it is kept in a file. -/
theorem leadsTo_of_connect {directory : Directory} {text name : String} {opened : OpenedDatabase}
    (happened : (directory.connect text).1 = .ok opened) (fileName_eq : opened.fileName = some name) :
    directory.LeadsTo text name := by
  rcases of_connect happened with ⟨url, resolved, read, resolve_eq, openedResolved⟩
  exact ⟨url, resolved, read, resolve_eq, place_of_openResolved openedResolved fileName_eq⟩

namespace AlikeBut

variable {name : String} {content : FileContent} {left right : Directory}

theorem sameOutcome (alike : AlikeBut name content left right) {Answer : Type} (answer : Answer) :
    SameOutcome name content (answer, left) (answer, right) :=
  ⟨answer, left, right, rfl, rfl, alike⟩

theorem place_eq (alike : AlikeBut name content left right) (path : String) :
    left.place path = right.place path := by
  rw [place, place, relative?, relative?, alike.path_eq]

theorem write (alike : AlikeBut name content left right) {other : String} (differs : other ≠ name)
    (written : FileContent) :
    AlikeBut name content (left.write other written) (right.write other written) where
  path_eq := alike.path_eq
  content_eq := by rw [content?_write, if_neg differs.symm, alike.content_eq]
  others_eq another anotherDiffers := by
    rw [content?_write, content?_write, alike.others_eq another anotherDiffers]

theorem keep (alike : AlikeBut name content left right) {opened : OpenedDatabase}
    (elsewhere : opened.fileName ≠ some name) :
    AlikeBut name content (left.keep opened) (right.keep opened) := by
  unfold Directory.keep
  split
  · rename_i other fileName_eq
    split_ifs
    · exact alike
    · apply alike.write
      rintro rfl
      exact elsewhere fileName_eq
  · exact alike

theorem openFile (alike : AlikeBut name content left right) (url : DatabaseUrl) {other : String}
    (differs : other ≠ name) :
    SameOutcome name content (left.openFile url other) (right.openFile url other) := by
  have created (written : FileContent) :
      AlikeBut name content (left.write other written) (right.write other written) :=
    alike.write differs written
  unfold Directory.openFile
  rw [alike.others_eq other differs]
  dsimp only
  split
  · split
    · exact alike.sameOutcome _
    · exact (created _).sameOutcome _
  · split
    · exact alike.sameOutcome _
    · exact (created _).sameOutcome _
  · exact alike.sameOutcome _
  · exact alike.sameOutcome _

theorem openResolved (alike : AlikeBut name content left right) {url : DatabaseUrl}
    (elsewhere : right.place url.path ≠ .entry name) :
    SameOutcome name content (left.openResolved url) (right.openResolved url) := by
  unfold Directory.openResolved
  rw [alike.place_eq]
  split
  · exact alike.sameOutcome _
  · split_ifs
    · exact alike.sameOutcome _
    · split
      · rename_i other place_eq
        apply alike.openFile
        rintro rfl
        exact elsewhere place_eq
      · exact alike.sameOutcome _

theorem openDatabase (alike : AlikeBut name content left right) {url : DatabaseUrl}
    (elsewhere : ∀ resolved, url.resolve = .ok resolved → right.place resolved.path ≠ .entry name) :
    SameOutcome name content (left.openDatabase url) (right.openDatabase url) := by
  unfold Directory.openDatabase
  split_ifs
  · exact alike.sameOutcome _
  · split
    · exact alike.sameOutcome _
    · rename_i resolved resolve_eq
      exact alike.openResolved (elsewhere resolved resolve_eq)

theorem connect (alike : AlikeBut name content left right) {text : String}
    (elsewhere : ¬right.LeadsTo text name) :
    SameOutcome name content (left.connect text) (right.connect text) := by
  unfold Directory.connect
  split
  · exact alike.sameOutcome _
  · rename_i url read
    have notThere : ∀ resolved, url.resolve = .ok resolved →
        right.place resolved.path ≠ .entry name :=
      fun resolved resolve_eq place_eq => elsewhere ⟨url, resolved, read, resolve_eq, place_eq⟩
    rcases alike.openDatabase notThere with ⟨answer, _, _, left_eq, right_eq, after⟩
    rw [left_eq, right_eq]
    cases answer with
    | ok opened => exact after.sameOutcome _
    | error fault => exact after.sameOutcome _

/-- A file out of sight is known by its path, which must then differ from the name too. -/
theorem settingsFile_eq (alike : AlikeBut name content left right) {path : String}
    (elsewhere : right.place path ≠ .entry name)
    (differs : right.place path = .outOfSight → path ≠ name) :
    left.settingsFile path = right.settingsFile path := by
  unfold settingsFile
  rw [alike.place_eq]
  cases place_eq : right.place path with
  | here => rfl
  | outOfSight =>
      dsimp only
      rw [alike.others_eq path (differs place_eq)]
  | entry other =>
      have entry_ne : other ≠ name := by
        rintro rfl
        exact elsewhere place_eq
      dsimp only
      rw [alike.others_eq other entry_ne]

end AlikeBut

end Directory

end KeyCustody
