import KeyCustody.Proofs.Directory
import KeyCustody.Proofs.EnvironmentFile

/-!
# The environment file and the environment

Variables that are set in the environment file count like those of the environment, for all settings. The
path of the file of settings is the exception: it is taken from the arguments and the environment before
the environment file is read, so a path that is set in this file is ignored.
-/

namespace KeyCustody

namespace Variables

/-- The variable that names the file of settings. -/
def settingsPathName : String := "WARDEN_SERVER_CONFIG"

/-- The variables that settings are read from. -/
def settingNames : List String :=
  ["WARDEN_SERVER_HOST", "WARDEN_SERVER_PORT", "WARDEN_SERVER_DATABASE_URL",
    "WARDEN_SERVER_LOG_LEVEL", "WARDEN_SERVER_UNSEAL_TOTAL_SHARES",
    "WARDEN_SERVER_UNSEAL_THRESHOLD", "WARDEN_SERVER_UNSEAL_GATE_ALLOW_LIST"]

/-- The variables that a run reads. -/
def readNames : List String :=
  settingsPathName :: settingNames

theorem isName_of_mem_readNames {name : String} (isRead : name ∈ readNames) :
    EnvironmentFile.IsName name := by
  have areNameChars : ∀ name ∈ readNames, name.toList.all EnvironmentFile.isNameChar = true := by
    decide +kernel
  refine ⟨?_, List.all_eq_true.mp (areNameChars name isRead)⟩
  have starts : ∀ name ∈ readNames, name.toList.head? = some 'W' := by decide +kernel
  rcases List.head?_eq_some_iff.mp (starts name isRead) with ⟨rest, name_eq⟩
  exact ⟨'W', rest, name_eq, by decide⟩

/-- Assignments to variables that a run reads, none of which is set before, each at most once and to a value
that stands for itself. -/
structure Completes (assignments : List (String × String)) (given : Variables) : Prop where
  areRead : ∀ assignment ∈ assignments, assignment.1 ∈ readNames
  arePlain : ∀ assignment ∈ assignments, EnvironmentFile.IsPlainValue assignment.2
  distinct : (assignments.map Prod.fst).Nodup
  areUnset : ∀ name ∈ readNames, given.lookup name = none

/-- The assignments to variables that are settings. -/
def withoutSettingsPath (assignments : List (String × String)) : List (String × String) :=
  assignments.filter fun assignment => assignment.1 ≠ settingsPathName

section

variable {given : Variables} {assignments : List (String × String)}

theorem lookup_load (completes : Completes assignments given) (name : String) :
    (EnvironmentFile.load given (EnvironmentFile.textOf assignments)).lookup name =
      (given.withAssigned assignments).lookup name := by
  have areNames : ∀ assignment ∈ assignments, EnvironmentFile.IsName assignment.1 :=
    fun assignment isMem => isName_of_mem_readNames (completes.areRead assignment isMem)
  have areUnset : ∀ assignment ∈ assignments, given.lookup assignment.1 = none :=
    fun assignment isMem => completes.areUnset _ (completes.areRead assignment isMem)
  rw [EnvironmentFile.load_textOf given areNames completes.arePlain]
  exact lookup_foldl_setIfAbsent areUnset completes.distinct name

theorem lookup_withoutSettingsPath (name : String) :
    (given.withAssigned (withoutSettingsPath assignments)).lookup name =
      if name = settingsPathName then given.lookup name
      else (given.withAssigned assignments).lookup name := by
  rw [lookup_withAssigned, lookup_withAssigned, withoutSettingsPath, lookup_filter_ne]
  split_ifs
  · rfl
  · rfl

end

variable {left right : Variables}

theorem value?_congr {name : String} (same : left.lookup name = right.lookup name) :
    left.value? name = right.value? name := by
  rw [value?, value?, text?, text?, same]

theorem number?_congr {Value : Type} {name : String} (same : left.lookup name = right.lookup name)
    (read : String → Option Value) (kind : String) :
    left.number? read kind name = right.number? read kind name := by
  rw [number?, number?, value?_congr same]

end Variables

theorem SettingsSource.environmentLayer_congr {left right : Variables}
    (same : ∀ name ∈ Variables.settingNames, left.lookup name = right.lookup name) :
    environmentLayer left = environmentLayer right := by
  have sameValue : ∀ name ∈ Variables.settingNames, left.value? name = right.value? name :=
    fun name isRead => Variables.value?_congr (same name isRead)
  have sameNumber {Value : Type} (read : String → Option Value) (kind : String) :
      ∀ name ∈ Variables.settingNames, left.number? read kind name = right.number? read kind name :=
    fun name isRead => Variables.number?_congr (same name isRead) read kind
  rw [environmentLayer, environmentLayer, sameValue "WARDEN_SERVER_HOST" (by decide),
    sameNumber _ _ "WARDEN_SERVER_PORT" (by decide),
    sameValue "WARDEN_SERVER_DATABASE_URL" (by decide),
    sameValue "WARDEN_SERVER_LOG_LEVEL" (by decide),
    sameNumber _ _ "WARDEN_SERVER_UNSEAL_TOTAL_SHARES" (by decide),
    sameNumber _ _ "WARDEN_SERVER_UNSEAL_THRESHOLD" (by decide),
    sameValue "WARDEN_SERVER_UNSEAL_GATE_ALLOW_LIST" (by decide)]

theorem Settings.load_congr {left right : Variables}
    (same : ∀ name ∈ Variables.settingNames, left.lookup name = right.lookup name) (path : String)
    (content : SettingsFile) : load path content left = load path content right := by
  rw [load, load, SettingsSource.environment, SettingsSource.environment,
    SettingsSource.environmentLayer_congr same]

namespace Directory

/-- The name of the environment file. -/
def environmentFileName : String := ".env"

theorem environment_of_none {directory : Directory}
    (noFile : directory.content? environmentFileName = none) (given : Variables) :
    directory.environment given = given := by
  rw [environment, ← environmentFileName, noFile]

theorem environment_write (directory : Directory) (given : Variables) (text : String) :
    (directory.write environmentFileName (.bytes (ByteString.ofText text))).environment given =
      EnvironmentFile.load given text := by
  rw [environment, ← environmentFileName, content?_write, if_pos rfl]
  dsimp only
  rw [Text.ofUtf8_ofText]

/-- The name of the environment file leads out of no directory. -/
theorem place_environmentFileName (directory : Directory) :
    directory.place environmentFileName ≠ .outOfSight := by
  have noSlash : (directory.path.toList ++ ['/']).isPrefixOf environmentFileName.toList = false := by
    rw [← Bool.not_eq_true, List.isPrefixOf_iff_prefix]
    intro isPrefix
    have isMem := isPrefix.subset (List.mem_append_right directory.path.toList List.mem_cons_self)
    exact absurd isMem (by decide)
  rw [place, relative?, noSlash]
  by_cases isHere : environmentFileName.toList = directory.path.toList
  · rw [if_pos isHere]
    decide
  · rw [if_neg isHere, if_neg Bool.false_ne_true]
    decide

end Directory

namespace Program

open Directory (AlikeBut SameOutcome environmentFileName)

variable {Supply : Type} [ByteSupply Supply]

/-- A run that looks neither for its settings nor for its database in the file of a name. -/
structure Avoids (name : String) (directory : Directory) (given : Variables)
    (arguments : List String) : Prop where
  settingsFile : ∀ settingsPath command, commandLine given arguments = .run settingsPath command →
    directory.place (settingsPath.getD Settings.systemPath) ≠ .entry name
  database : ∀ settingsPath command taken, commandLine given arguments = .run settingsPath command →
    settings directory given settingsPath = .ok taken → ¬directory.LeadsTo taken.databaseUrl name

/-- What the arguments ask for depends on no variable but the one that names the file of settings. -/
theorem commandLine_congr {left right : Variables}
    (same : left.lookup Variables.settingsPathName = right.lookup Variables.settingsPathName)
    (arguments : List String) : commandLine left arguments = commandLine right arguments := by
  rw [commandLine, commandLine, ← Variables.settingsPathName, same]

/-- With the same settings a command has the same result in directories that differ in a file which it
does not touch. -/
theorem runCommand_of_alikeBut {name : String} {content : FileContent} {left right : Directory}
    (alike : AlikeBut name content left right) {leftGiven rightGiven : Variables}
    {settingsPath : Option String}
    (same : settings left leftGiven settingsPath = settings right rightGiven settingsPath)
    (elsewhere : ∀ taken, settings right rightGiven settingsPath = .ok taken →
      ¬right.LeadsTo taken.databaseUrl name)
    (command : Command) (supply : Supply) (listen : String → Option ListenFault) :
    SameOutcome name content (runCommand left leftGiven settingsPath command supply listen)
      (runCommand right rightGiven settingsPath command supply listen) := by
  unfold runCommand
  rw [same]
  cases settings_eq : settings right rightGiven settingsPath with
  | error error => exact alike.sameOutcome _
  | ok taken =>
      dsimp only
      have notThere := elsewhere taken settings_eq
      rcases alike.connect notThere with ⟨answer, _, _, left_eq, right_eq, connected⟩
      rw [left_eq, right_eq]
      cases answer with
      | error error => exact connected.sameOutcome _
      | ok opened =>
          have keptElsewhere : opened.fileName ≠ some name := by
            intro fileName_eq
            apply notThere
            exact Directory.leadsTo_of_connect (by rw [right_eq]) fileName_eq
          dsimp only
          split
          · exact connected.sameOutcome _
          · apply AlikeBut.sameOutcome
            exact connected.keep keptElsewhere

/-- Let a run have nothing to do with the environment file but that it reads variables from it. Then the
variables that are set there, each in a line with a plain value, count as if they were set in the
environment, except the path of the file of settings, which is ignored: the result is the same, and so is
every other file afterwards. -/
theorem environment_file_like_environment {directory : Directory} {given : Variables}
    {assignments : List (String × String)} {arguments : List String}
    (noFile : directory.content? environmentFileName = none)
    (completes : Variables.Completes assignments given)
    (avoids : Avoids environmentFileName directory
      (given.withAssigned (Variables.withoutSettingsPath assignments)) arguments)
    (supply : Supply) (listen : String → Option ListenFault) :
    let content := FileContent.bytes (ByteString.ofText (EnvironmentFile.textOf assignments))
    let fromFile := run (directory.write environmentFileName content) given arguments supply listen
    let fromEnvironment := run directory
      (given.withAssigned (Variables.withoutSettingsPath assignments)) arguments supply listen
    fromFile.1 = fromEnvironment.1 ∧
      AlikeBut environmentFileName content fromFile.2 fromEnvironment.2 := by
  intro content fromFile fromEnvironment
  have alike : AlikeBut environmentFileName content
      (directory.write environmentFileName content) directory :=
    Directory.alikeBut_write directory environmentFileName content
  have sameAsked : commandLine given arguments =
      commandLine (given.withAssigned (Variables.withoutSettingsPath assignments)) arguments := by
    apply commandLine_congr
    rw [Variables.lookup_withoutSettingsPath, if_pos rfl]
  simp only [fromFile, fromEnvironment, run]
  rw [sameAsked]
  cases asked : commandLine (given.withAssigned (Variables.withoutSettingsPath assignments))
      arguments with
  | version => exact ⟨rfl, alike⟩
  | help => exact ⟨rfl, alike⟩
  | misused => exact ⟨rfl, alike⟩
  | run settingsPath command =>
      have otherPath : directory.place (settingsPath.getD Settings.systemPath) = .outOfSight →
          settingsPath.getD Settings.systemPath ≠ environmentFileName := by
        intro outOfSight path_eq
        rw [path_eq] at outOfSight
        exact Directory.place_environmentFileName directory outOfSight
      have found := alike.settingsFile_eq (avoids.settingsFile settingsPath command asked) otherPath
      have same : settings (directory.write environmentFileName content) given settingsPath =
          settings directory
            (given.withAssigned (Variables.withoutSettingsPath assignments)) settingsPath := by
        rw [settings, settings, found, Directory.environment_write,
          Directory.environment_of_none noFile]
        apply Settings.load_congr
        intro name isSetting
        have isOther : name ≠ Variables.settingsPathName := by
          rintro rfl
          exact absurd isSetting (by decide)
        rw [Variables.lookup_load completes, Variables.lookup_withoutSettingsPath, if_neg isOther]
      have elsewhere := fun taken => avoids.database settingsPath command taken asked
      rcases runCommand_of_alikeBut alike same elsewhere command supply listen with
        ⟨result, _, _, left_eq, right_eq, after⟩
      dsimp only
      rw [left_eq, right_eq]
      exact ⟨rfl, after⟩

/-- The database that the environment file names is opened and prepared, although a settings path stands
beside it. -/
theorem environment_file_like_environment_for_database :
    let assignments := [("WARDEN_SERVER_DATABASE_URL", "sqlite:keys.db?mode=rwc"),
      ("WARDEN_SERVER_CONFIG", "server.toml")]
    let content := FileContent.bytes (ByteString.ofText (EnvironmentFile.textOf assignments))
    let fromFile := run (Directory.write ⟨"/srv", []⟩ environmentFileName content) [] ["serve"]
      (ByteTape.mk [1]) fun _ => none
    Variables.Completes assignments [] ∧ fromFile.1.exitStatus = 0 ∧
      fromFile.2.content? environmentFileName = some content ∧
      fromFile.2.content? "keys.db" = some (.database (some ⟨true, none⟩)) := by
  intro assignments content fromFile
  have completes : Variables.Completes assignments [] :=
    ⟨by decide, by decide +kernel, by decide, fun _ _ => rfl⟩
  let given := Variables.withAssigned [] (Variables.withoutSettingsPath assignments)
  have asked : commandLine given ["serve"] = .run none .serve := by decide +kernel
  have settings_eq : settings ⟨"/srv", []⟩ given none =
      .ok { Settings.defaults with databaseUrl := "sqlite:keys.db?mode=rwc" } := by
    rw [settings, Settings.load_eq]
    decide +kernel
  have read : DatabaseUrl.ofText "sqlite:keys.db?mode=rwc" =
      .ok ⟨"keys.db", false, false, false, none⟩ := by
    decide +kernel
  have avoids : Avoids environmentFileName ⟨"/srv", []⟩ given ["serve"] := by
    constructor
    · intro settingsPath command askedAgain
      cases asked.symm.trans askedAgain
      decide +kernel
    · intro settingsPath command taken askedAgain takenAgain leads
      rcases leads with ⟨url, resolved, readAgain, resolve_eq, there⟩
      cases asked.symm.trans askedAgain
      cases settings_eq.symm.trans takenAgain
      cases read.symm.trans readAgain
      cases resolve_eq
      exact absurd there (by decide +kernel)
  have connected : Directory.connect ⟨"/srv", []⟩ "sqlite:keys.db?mode=rwc" =
      (.ok ⟨⟨none, true, false⟩, some "keys.db"⟩, ⟨"/srv", [("keys.db", .database none)]⟩) := by
    decide +kernel
  let fromEnvironment := run ⟨"/srv", []⟩ given ["serve"] (ByteTape.mk [1]) fun _ => none
  have served : fromEnvironment.1.exitStatus = 0 ∧
      fromEnvironment.2.content? "keys.db" = some (.database (some ⟨true, none⟩)) := by
    simp only [fromEnvironment]
    rw [run, asked]
    dsimp only
    rw [runCommand, settings_eq]
    dsimp only
    rw [connected]
    decide +kernel
  rcases environment_file_like_environment rfl completes avoids (ByteTape.mk [1]) fun _ => none with
    ⟨result_eq, alike⟩
  refine ⟨completes, ?_, alike.content_eq, ?_⟩
  · rw [result_eq]
    exact served.1
  · rw [alike.others_eq "keys.db" (by decide)]
    exact served.2

/-- A settings path counts in the environment, with which the threshold in its file is refused, and not in
the environment file, with which the same arguments make a root key. -/
theorem settings_path_in_environment_file_ignored :
    let directory : Directory := ⟨"/srv", [("server.toml",
      .bytes (ByteString.ofText "[unseal]\nthreshold = 1\n"))]⟩
    let content := FileContent.bytes (ByteString.ofText "WARDEN_SERVER_CONFIG=server.toml\n")
    let arguments := ["init", "--shares", "2", "--threshold", "2"]
    (run directory [("WARDEN_SERVER_CONFIG", ByteString.ofText "server.toml")] arguments
        (ByteTape.mk [1]) fun _ => none).1 =
      .failed (.settings (.refused (.thresholdTooSmall 1))) ∧
    (run (directory.write environmentFileName content) [] arguments
        (ByteTape.mk [1]) fun _ => none).1.exitStatus = 0 := by
  intro directory content arguments
  constructor
  · have asked : commandLine [("WARDEN_SERVER_CONFIG", ByteString.ofText "server.toml")] arguments =
        .run (some "server.toml") (.initialise (some 2) (some 2)) := by
      decide +kernel
    have settings_eq : settings directory
        [("WARDEN_SERVER_CONFIG", ByteString.ofText "server.toml")] (some "server.toml") =
          .error (.refused (.thresholdTooSmall 1)) := by
      rw [settings, Settings.load_eq]
      decide +kernel
    rw [run, asked]
    dsimp only
    rw [runCommand, settings_eq]
  · have asked : commandLine [] arguments = .run none (.initialise (some 2) (some 2)) := by
      decide +kernel
    have settings_eq : settings (directory.write environmentFileName content) [] none =
        .ok Settings.defaults := by
      rw [settings, Settings.load_eq]
      decide +kernel
    rw [run, asked]
    dsimp only
    rw [runCommand, settings_eq]
    decide +kernel

end Program

end KeyCustody
