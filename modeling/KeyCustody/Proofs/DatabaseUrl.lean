import KeyCustody.Directory
import KeyCustody.Proofs.Settings.Resolution

/-!
# Where the database of accepted settings is kept

Settings are refused if their URL names the database in memory literally. What a URL selects is decided
by another reading of it, which decodes the path and looks at the parameters. The two readings agree on
all URLs but those with no path, with a path that only becomes the one in memory when it is decoded, and
with the parameter that asks for a database in memory: these are accepted, and the database is gone once
it is closed.
-/

namespace KeyCustody

theorem ByteString.ofText_injective : Function.Injective ByteString.ofText := by
  intro left right same
  apply String.toByteArray_inj.mp
  apply ByteArray.ext
  exact Array.toList_inj.mp same

namespace Text

theorem ofText_of_ofUtf8 {bytes : ByteString} {text : String} (read : ofUtf8 bytes = .ok text) :
    ByteString.ofText text = bytes := by
  unfold ofUtf8 String.fromUTF8? at read
  split at read
  · rename_i decoded decoded_eq
    cases read
    split at decoded_eq
    · cases decoded_eq
      rfl
    · cases decoded_eq
  · cases read

theorem ofUtf8_ofText (text : String) : ofUtf8 (ByteString.ofText text) = .ok text := by
  have bytes_eq : (⟨(ByteString.ofText text).toArray⟩ : ByteArray) = text.toByteArray := by
    apply ByteArray.ext
    rw [ByteString.ofText, Array.toArray_toList]
    rfl
  have decoded_eq : String.fromUTF8? text.toByteArray = some text := by
    rw [String.fromUTF8?, dif_pos text.isValidUTF8]
    rfl
  rw [ofUtf8, bytes_eq, decoded_eq]

theorem percentDecode_eq_nil_iff {bytes : ByteString} : percentDecode bytes = [] ↔ bytes = [] := by
  fun_cases percentDecode bytes <;> simp_all

theorem percentDecode_eq_self {bytes : ByteString} (noPercent : 0x25 ∉ bytes) :
    percentDecode bytes = bytes := by
  fun_induction percentDecode bytes with
  | case1 => rfl
  | case2 => rfl
  | case3 => rfl
  | case4 high low rest byte read ih => simp at noPercent
  | case5 high low rest notDigits ih => simp at noPercent
  | case6 first high low rest notPercent ih =>
      rw [ih]
      intro percent_mem
      exact noPercent (List.mem_cons_of_mem first percent_mem)

end Text

namespace DatabaseUrl

/-- What stands between the scheme and the parameters. -/
def location (text : String) : String :=
  String.ofList ((dropScheme text).takeWhile (· != '?'))

/-- The names and values after the question mark. -/
def parameters (text : String) : List (String × String) :=
  Text.queryFields (String.ofList (((dropScheme text).dropWhile (· != '?')).drop 1))

theorem ofText_eq (text : String) :
    ofText text = (do
      let url ← ofPath (location text)
      (parameters text).foldlM withParameter url) :=
  rfl

theorem dropRepeated_suffix (word text : List Char) : dropRepeated word text <:+ text := by
  fun_induction dropRepeated word text with
  | case1 text starts smaller ih => exact ih.trans (List.drop_suffix _ _)
  | case2 => exact List.suffix_refl _

theorem location_infix (text : String) : (location text).toList <:+: text.toList := by
  have rest_suffix : dropScheme text <:+ text.toList :=
    (dropRepeated_suffix _ _).trans (dropRepeated_suffix _ _)
  rw [location, String.toList_ofList]
  exact (List.takeWhile_prefix _).isInfix.trans rest_suffix.isInfix

variable {url after : DatabaseUrl}

/-- A parameter leaves the path as it is, and only one of them asks for a database in memory. -/
theorem of_withParameter {parameter : String × String}
    (added : url.withParameter parameter = .ok after) :
    after.path = url.path ∧
      (after.isInMemory = true ↔ url.isInMemory = true ∨ ("mode", "memory") = parameter) := by
  rcases parameter with ⟨name, value⟩
  unfold withParameter at added
  split at added
  · rename_i mode same
    cases same
    split at added
    all_goals cases added
    all_goals simp
  · rename_i kind same
    cases same
    split_ifs at added
    cases added
    simp
  · rename_i wanted same
    cases same
    split_ifs at added
    all_goals cases added
    all_goals simp
  · rename_i layer same
    cases same
    cases added
    simp
  · cases added

theorem of_foldlM_withParameter {parameters : List (String × String)}
    (added : parameters.foldlM withParameter url = .ok after) :
    after.path = url.path ∧
      (after.isInMemory = true ↔ url.isInMemory = true ∨ ("mode", "memory") ∈ parameters) := by
  induction parameters generalizing url with
  | nil =>
      cases added
      simp
  | cons parameter rest ih =>
      rw [List.foldlM_cons] at added
      cases first : url.withParameter parameter with
      | error fault =>
          rw [first] at added
          cases added
      | ok next =>
          rw [first] at added
          rcases of_withParameter first with ⟨next_path, next_memory⟩
          rcases ih added with ⟨after_path, after_memory⟩
          refine ⟨after_path.trans next_path, ?_⟩
          rw [after_memory, next_memory, List.mem_cons, or_assoc]

/-- The path of a URL without parameters: none for the literal path in memory, and otherwise what the
text decodes to. -/
theorem of_ofPath {path : String} (read : ofPath path = .ok url) :
    path = memoryPath ∧ url.path = "" ∧ url.isInMemory = true ∨
      path ≠ memoryPath ∧ url.isInMemory = false ∧
        ByteString.ofText url.path = Text.percentDecode (ByteString.ofText path) := by
  unfold ofPath at read
  split_ifs at read with literal
  · cases read
    exact Or.inl ⟨literal, rfl, rfl⟩
  · split at read
    · rename_i decoded decoded_eq
      cases read
      exact Or.inr ⟨literal, rfl, Text.ofText_of_ofUtf8 decoded_eq⟩
    · cases read

/-- The three ways to a database that is gone once it is closed: no path, a path that decodes to the
one in memory, and the parameter that asks for it. -/
theorem isVolatile_iff {text : String} (read : ofText text = .ok url) :
    url.isVolatile = true ↔
      location text = "" ∨
      Text.percentDecode (ByteString.ofText (location text)) = ByteString.ofText memoryPath ∨
      ("mode", "memory") ∈ parameters text := by
  rw [ofText_eq] at read
  cases base_eq : ofPath (location text) with
  | error fault =>
      rw [base_eq] at read
      cases read
  | ok base =>
      rw [base_eq] at read
      rcases of_foldlM_withParameter read with ⟨path_eq, memory_iff⟩
      simp only [isVolatile, Bool.or_eq_true, decide_eq_true_eq, memory_iff, path_eq]
      rcases of_ofPath base_eq with ⟨literal, _, isInMemory⟩ | ⟨_, notInMemory, decoded_eq⟩
      · have decoded_eq : Text.percentDecode (ByteString.ofText (location text)) =
            ByteString.ofText memoryPath := by
          rw [literal]
          exact Text.percentDecode_eq_self (by decide +kernel)
        simp [isInMemory, decoded_eq]
      · have empty_iff : base.path = "" ↔ location text = "" := by
          rw [← ByteString.ofText_injective.eq_iff, decoded_eq, ← ByteString.ofText_injective.eq_iff]
          exact Text.percentDecode_eq_nil_iff
        have memoryPath_iff : base.path = memoryPath ↔
            Text.percentDecode (ByteString.ofText (location text)) =
              ByteString.ofText memoryPath := by
          rw [← ByteString.ofText_injective.eq_iff, decoded_eq]
        rw [empty_iff, memoryPath_iff, notInMemory, or_assoc, or_comm, or_assoc]
        simp only [Bool.false_eq_true, false_or]

/-- Where a text does not name the database in memory literally, only decoding can lead to it. -/
theorem percent_mem_of_decoded {text : String} (notLiteral : ¬":memory:".toList <:+: text.toList)
    (decoded_eq : Text.percentDecode (ByteString.ofText (location text)) =
      ByteString.ofText memoryPath) :
    0x25 ∈ ByteString.ofText (location text) := by
  by_contra noPercent
  rw [Text.percentDecode_eq_self noPercent] at decoded_eq
  have location_eq := ByteString.ofText_injective decoded_eq
  apply notLiteral
  have infix_text := location_infix text
  rw [location_eq] at infix_text
  exact infix_text

theorem resolve_of_plain (plain : ¬fileScheme <+: url.path.toList) : url.resolve = .ok url := by
  rw [resolve]
  have notUri : fileScheme.isPrefixOf url.path.toList = false := by
    rw [← Bool.not_eq_true, List.isPrefixOf_iff_prefix]
    exact plain
  simp [notUri]

end DatabaseUrl

namespace Directory

variable {directory : Directory} {url : DatabaseUrl} {opened : OpenedDatabase}

theorem fileName_of_openFile {name : String}
    (happened : (directory.openFile url name).1 = .ok opened) : opened.fileName = some name := by
  unfold openFile at happened
  dsimp only at happened
  split at happened
  · split_ifs at happened
    all_goals cases happened
    all_goals rfl
  · split_ifs at happened
    all_goals cases happened
    all_goals rfl
  · cases happened
  · cases happened
    rfl

/-- A database that could be opened is kept in a file unless it is gone once it is closed, or is kept
by the file system layer in memory. -/
theorem fileName_of_openResolved (happened : (directory.openResolved url).1 = .ok opened) :
    opened.fileName = none ↔
      url.isVolatile = true ∨ url.fileSystem = some memoryFileSystem := by
  unfold openResolved at happened
  split at happened
  · cases happened
  · split_ifs at happened with forgotten
    · cases happened
      simpa using forgotten
    · split at happened
      · have fileName_eq := fileName_of_openFile happened
        simpa [fileName_eq] using forgotten
      · cases happened

theorem of_connect {text : String} (happened : (directory.connect text).1 = .ok opened) :
    ∃ url resolved, DatabaseUrl.ofText text = .ok url ∧ url.resolve = .ok resolved ∧
      (directory.openResolved resolved).1 = .ok opened := by
  unfold connect at happened
  split at happened
  · cases happened
  · rename_i url read
    cases outcome : directory.openDatabase url with
    | mk answer after =>
        rw [outcome] at happened
        cases answer with
        | error fault => cases happened
        | ok found =>
            cases happened
            unfold openDatabase at outcome
            split_ifs at outcome
            · cases outcome
            · split at outcome
              · cases outcome
              · rename_i resolved resolve_eq
                exact ⟨url, resolved, read, resolve_eq, by rw [outcome]⟩

end Directory

namespace Settings

theorem databaseFault?_of_ofSources {sources : List SettingsSource} {settings : Settings}
    (accepted : ofSources sources = .ok settings) : settings.databaseFault? = none := by
  unfold ofSources at accepted
  split at accepted
  · cases accepted
  · unfold resolve at accepted
    dsimp only at accepted
    split at accepted
    · cases accepted
    · rename_i noFault
      cases accepted
      exact (Option.or_eq_none_iff.mp noFault).1

/-- The URL of accepted settings is one of the engine, and the database that it selects is gone once it
is closed exactly if there is no path, the path has a percent sign and decodes to the one in memory, or
the parameter asks for a database in memory. Otherwise a database that is opened for it is kept in a file,
except by the file system layer in memory. A path that is itself a URI is left out. -/
theorem accepted_database_kept_iff {sources : List SettingsSource} {settings : Settings}
    (accepted : ofSources sources = .ok settings) :
    "sqlite:".toList <+: settings.databaseUrl.toList ∧
    ∀ url, DatabaseUrl.ofText settings.databaseUrl = .ok url →
      (url.isVolatile = true ↔
        DatabaseUrl.location settings.databaseUrl = "" ∨
        (0x25 ∈ ByteString.ofText (DatabaseUrl.location settings.databaseUrl) ∧
          Text.percentDecode (ByteString.ofText (DatabaseUrl.location settings.databaseUrl)) =
            ByteString.ofText ":memory:") ∨
        ("mode", "memory") ∈ DatabaseUrl.parameters settings.databaseUrl) ∧
      ∀ directory opened, (Directory.connect directory settings.databaseUrl).1 = .ok opened →
        ¬"file:".toList <+: url.path.toList →
        (opened.fileName = none ↔
          url.isVolatile = true ∨ url.fileSystem = some Directory.memoryFileSystem) := by
  rcases databaseFault?_eq_none_iff.mp (databaseFault?_of_ofSources accepted) with
    ⟨isSqlite, notLiteral⟩
  refine ⟨isSqlite, ?_⟩
  intro url read
  constructor
  · rw [DatabaseUrl.isVolatile_iff read]
    apply or_congr_right
    apply or_congr_left
    constructor
    · intro decoded_eq
      exact ⟨DatabaseUrl.percent_mem_of_decoded notLiteral decoded_eq, decoded_eq⟩
    · exact And.right
  · intro directory opened connected plain
    rcases Directory.of_connect connected with ⟨same, resolved, readAgain, resolve_eq, happened⟩
    cases readAgain.symm.trans read
    rw [DatabaseUrl.resolve_of_plain plain] at resolve_eq
    cases resolve_eq
    exact Directory.fileName_of_openResolved happened

/-- A path may be encoded and there may be a parameter: what is opened is kept in a file. -/
theorem encoded_database_kept :
    (Directory.connect ⟨"/srv", []⟩ "sqlite:./a%3Fb.db?mode=rwc").1 =
      .ok ⟨⟨none, true, false⟩, some "a?b.db"⟩ ∧
    ∀ directory opened, (Directory.connect directory "sqlite:./a%3Fb.db?mode=rwc").1 = .ok opened →
      opened.fileName ≠ none := by
  have accepted : ofSources [.environment
      [("WARDEN_SERVER_DATABASE_URL", ByteString.ofText "sqlite:./a%3Fb.db?mode=rwc")]] =
        .ok { defaults with databaseUrl := "sqlite:./a%3Fb.db?mode=rwc" } := by
    decide +kernel
  have read : DatabaseUrl.ofText "sqlite:./a%3Fb.db?mode=rwc" =
      .ok ⟨"./a?b.db", false, false, false, none⟩ := by
    decide +kernel
  refine ⟨by decide +kernel, ?_⟩
  intro directory opened connected forgotten
  rcases (accepted_database_kept_iff accepted).2 _ read with ⟨_, forgotten_iff⟩
  rcases (forgotten_iff directory opened connected (by decide)).mp forgotten with gone | gone
  · cases gone
  · cases gone

/-- A URL is accepted from the environment, although the database that is opened for it in an empty
directory is kept in no file. -/
def ForgetsDatabase (url : String) : Prop :=
  ofSources [.environment [("WARDEN_SERVER_DATABASE_URL", ByteString.ofText url)]] =
    .ok { defaults with databaseUrl := url } ∧
  (Directory.connect ⟨"/srv", []⟩ url).1 = .ok ⟨⟨none, true, false⟩, none⟩

instance (url : String) : Decidable (ForgetsDatabase url) :=
  inferInstanceAs (Decidable (_ ∧ _))

/-- The parameter, an encoded path and no path at all are each accepted. -/
theorem accepted_database_forgotten :
    ForgetsDatabase "sqlite:./warden.db?mode=memory" ∧ ForgetsDatabase "sqlite:%3Amemory%3A" ∧
      ForgetsDatabase "sqlite:" := by
  decide +kernel

end Settings

end KeyCustody
