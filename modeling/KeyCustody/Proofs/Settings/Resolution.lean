import KeyCustody.Settings.Source
import Mathlib.Data.List.Basic
import Mathlib.Data.List.Induction
import Mathlib.Data.List.Infix

/-!
# What the settings are

The sources are read by precedence, and as listed where that is the same. If one of them cannot be
read, the first such one decides. Otherwise every single setting is what the last source says that
sets it, whatever else is set in the same section, and has its default if none does; the settings are
taken if the database and the sharing are acceptable.
-/

namespace KeyCustody

namespace SettingsSource

/-- The sources of a precedence, as listed. -/
def ofPrecedence (precedence : Precedence) (sources : List SettingsSource) : List SettingsSource :=
  sources.filter (·.precedence = precedence)

/-- The sources from the lowest to the highest precedence, as listed where it is the same. -/
def byPrecedence (sources : List SettingsSource) : List SettingsSource :=
  ofPrecedence .defaults sources ++ ofPrecedence .configFile sources ++
    ofPrecedence .environment sources

theorem ofPrecedence_eq_nil_of_lt {precedence : Precedence} {sources : List SettingsSource}
    (above : ∀ source ∈ sources, precedence.rank < source.precedence.rank) :
    ofPrecedence precedence sources = [] := by
  apply List.filter_eq_nil_iff.mpr
  intro source source_mem
  have lt := above source source_mem
  rw [decide_eq_true_iff]
  rintro rfl
  exact Nat.lt_irrefl _ lt

theorem ofPrecedence_cons (precedence : Precedence) (source : SettingsSource)
    (rest : List SettingsSource) :
    ofPrecedence precedence (source :: rest) =
      if source.precedence = precedence then source :: ofPrecedence precedence rest
      else ofPrecedence precedence rest := by
  rw [ofPrecedence, List.filter_cons]
  split <;> simp_all [ofPrecedence]

/-- Sources that stand by precedence are left where they are. -/
theorem byPrecedence_of_pairwise {sources : List SettingsSource}
    (sorted : sources.Pairwise fun first second =>
      first.precedence.rank ≤ second.precedence.rank) :
    byPrecedence sources = sources := by
  induction sorted with
  | nil => rfl
  | @cons source rest le_rest _ ih =>
      have above {precedence : Precedence} (lt : precedence.rank < source.precedence.rank) :
          ofPrecedence precedence rest = [] :=
        ofPrecedence_eq_nil_of_lt fun other other_mem =>
          Nat.lt_of_lt_of_le lt (le_rest other other_mem)
      simp only [byPrecedence, ofPrecedence_cons] at ih ⊢
      cases precedence_eq : source.precedence with
      | defaults => simpa using ih
      | configFile =>
          have noDefaults : ofPrecedence .defaults rest = [] :=
            above (by simp [precedence_eq, Precedence.rank])
          simpa [noDefaults] using ih
      | environment =>
          have noDefaults : ofPrecedence .defaults rest = [] :=
            above (by simp [precedence_eq, Precedence.rank])
          have noFile : ofPrecedence .configFile rest = [] :=
            above (by simp [precedence_eq, Precedence.rank])
          simpa [noDefaults, noFile] using ih

/-- The order in which sources are read keeps those of one precedence as they are listed. -/
theorem ofPrecedence_inOrder (precedence : Precedence) (sources : List SettingsSource) :
    ofPrecedence precedence (inOrder sources) = ofPrecedence precedence sources := by
  have same_precedence : ∀ source ∈ ofPrecedence precedence sources,
      source.precedence = precedence := fun source source_mem =>
    of_decide_eq_true (List.mem_filter.mp source_mem).2
  have sorted : (ofPrecedence precedence sources).Pairwise fun first second =>
      decide (first.precedence.rank ≤ second.precedence.rank) = true := by
    apply List.pairwise_of_forall_mem_list
    intro first first_mem second second_mem
    rw [same_precedence first first_mem, same_precedence second second_mem]
    exact decide_eq_true (Nat.le_refl _)
  have kept : List.Sublist (ofPrecedence precedence sources) (inOrder sources) :=
    List.sublist_mergeSort (by simpa using fun _ _ _ => Nat.le_trans)
      (by simpa using fun _ _ => Nat.le_total _ _) sorted List.filter_sublist
  have kept_filter := kept.filter fun source => decide (source.precedence = precedence)
  have idem : (ofPrecedence precedence sources).filter
      (fun source => decide (source.precedence = precedence)) = ofPrecedence precedence sources :=
    List.filter_eq_self.mpr fun source source_mem =>
      decide_eq_true (same_precedence source source_mem)
  rw [idem] at kept_filter
  have perm : (ofPrecedence precedence (inOrder sources)).Perm (ofPrecedence precedence sources) :=
    (List.mergeSort_perm _ _).filter _
  exact (kept_filter.eq_of_length perm.length_eq.symm).symm

/-- Sources are read by precedence, and as listed where that is the same. -/
theorem inOrder_eq (sources : List SettingsSource) : inOrder sources = byPrecedence sources := by
  have sorted : (inOrder sources).Pairwise fun first second =>
      first.precedence.rank ≤ second.precedence.rank := by
    have pairwise : (inOrder sources).Pairwise fun first second =>
        decide (first.precedence.rank ≤ second.precedence.rank) = true :=
      List.pairwise_mergeSort (by simpa using fun _ _ _ => Nat.le_trans)
        (by simpa using fun _ _ => Nat.le_total _ _) sources
    exact pairwise.imp of_decide_eq_true
  rw [← byPrecedence_of_pairwise sorted, byPrecedence, ofPrecedence_inOrder, ofPrecedence_inOrder,
    ofPrecedence_inOrder, ← byPrecedence]

/-- Why a source cannot be read, if it cannot. -/
def failure? (source : SettingsSource) : Option SettingsError :=
  match source.layer with
  | .error error => some error
  | .ok _ => none

/-- What the last of the sources says that sets a single setting. -/
def lastSet {Value : Type} (read : SettingsLayer → Option Value) (sources : List SettingsSource) :
    Option Value :=
  sources.reverse.findSome? fun source => source.layer.toOption.bind read

theorem combined_concat (sources : List SettingsSource) (source : SettingsSource) :
    combined (sources ++ [source]) = (do
      let earlier ← combined sources
      source.layer.map earlier.override) := by
  simp [combined, List.foldlM_append]

theorem lastSet_concat {Value : Type} (read : SettingsLayer → Option Value)
    (sources : List SettingsSource) {source : SettingsSource} {layer : SettingsLayer}
    (layer_eq : source.layer = .ok layer) :
    lastSet read (sources ++ [source]) = (read layer).or (lastSet read sources) := by
  simp only [lastSet, List.reverse_concat, List.findSome?_cons, layer_eq, Except.toOption,
    Option.bind_some]
  cases read layer <;> rfl

end SettingsSource

namespace SettingsLayer

/-- A way to read a single setting from layers: the empty layer does not set it, and a layer over
another one leaves it to that one unless it sets it itself. -/
structure IsSetting {Value : Type} (read : SettingsLayer → Option Value) : Prop where
  empty : read .empty = none
  override (earlier later : SettingsLayer) :
    read (earlier.override later) = (read later).or (read earlier)

/-- A section that a layer has only to leave its settings open is like one that it does not have. -/
theorem IsSetting.ofSection {Section Value : Type} {sectionOf : SettingsLayer → Option Section}
    {overlay : Section → Section → Section} {field : Section → Option Value}
    (sectionOf_empty : sectionOf .empty = none)
    (sectionOf_override : ∀ earlier later : SettingsLayer,
      sectionOf (earlier.override later) =
        overrideSection overlay (sectionOf earlier) (sectionOf later))
    (field_overlay : ∀ earlier later,
      field (overlay earlier later) = (field later).or (field earlier)) :
    IsSetting fun layer => (sectionOf layer).bind field where
  empty := by rw [sectionOf_empty, Option.bind_none]
  override earlier later := by
    rw [sectionOf_override]
    cases sectionOf earlier with
    | none => cases sectionOf later <;> simp [overrideSection]
    | some earlierSection =>
        cases sectionOf later with
        | none => simp [overrideSection]
        | some laterSection => simp [overrideSection, field_overlay]

def host? (layer : SettingsLayer) : Option String :=
  layer.http.bind (·.host)

def port? (layer : SettingsLayer) : Option UInt16 :=
  layer.http.bind (·.port)

def databaseUrl? (layer : SettingsLayer) : Option String :=
  layer.database.bind (·.url)

def logLevel? (layer : SettingsLayer) : Option String :=
  layer.logging.bind (·.level)

def total? (layer : SettingsLayer) : Option UInt8 :=
  layer.unsealing.bind (·.total)

def threshold? (layer : SettingsLayer) : Option UInt8 :=
  layer.unsealing.bind (·.threshold)

/-- The allow-list that a layer sets. An empty one is set too. -/
def allowList? (layer : SettingsLayer) : Option (List String) :=
  layer.unsealing.bind (·.allowList)

theorem isSetting_host : IsSetting host? :=
  .ofSection rfl (fun _ _ => rfl) fun _ _ => rfl

theorem isSetting_port : IsSetting port? :=
  .ofSection rfl (fun _ _ => rfl) fun _ _ => rfl

theorem isSetting_databaseUrl : IsSetting databaseUrl? :=
  .ofSection rfl (fun _ _ => rfl) fun _ _ => rfl

theorem isSetting_logLevel : IsSetting logLevel? :=
  .ofSection rfl (fun _ _ => rfl) fun _ _ => rfl

theorem isSetting_total : IsSetting total? :=
  .ofSection rfl (fun _ _ => rfl) fun _ _ => rfl

theorem isSetting_threshold : IsSetting threshold? :=
  .ofSection rfl (fun _ _ => rfl) fun _ _ => rfl

theorem isSetting_allowList : IsSetting allowList? :=
  .ofSection rfl (fun _ _ => rfl) fun _ _ => rfl

end SettingsLayer

namespace SettingsSource

open SettingsLayer (IsSetting)

/-- Layers that can all be read make up one that holds every setting as the last of them sets it. -/
theorem combined_of_readable {sources : List SettingsSource}
    (readable : sources.findSome? failure? = none) :
    ∃ layer, combined sources = .ok layer ∧
      ∀ {Value : Type} {read : SettingsLayer → Option Value},
        IsSetting read → read layer = lastSet read sources := by
  induction sources using List.reverseRecOn with
  | nil => exact ⟨.empty, rfl, fun isSetting => isSetting.empty⟩
  | append_singleton rest source ih =>
      rw [List.findSome?_append, Option.or_eq_none_iff, List.findSome?_singleton] at readable
      obtain ⟨earlier, combined_eq, earlier_eq⟩ := ih readable.1
      cases layer_eq : source.layer with
      | error error => simp [failure?, layer_eq] at readable
      | ok later =>
          refine ⟨earlier.override later, ?_, fun {Value read} isSetting => ?_⟩
          · rw [combined_concat, combined_eq, layer_eq]
            rfl
          · rw [isSetting.override, earlier_eq isSetting, lastSet_concat read rest layer_eq]

/-- The first source that cannot be read decides. -/
theorem combined_of_failure {sources : List SettingsSource} {error : SettingsError}
    (failure : sources.findSome? failure? = some error) :
    combined sources = .error error := by
  induction sources using List.reverseRecOn with
  | nil => simp at failure
  | append_singleton rest source ih =>
      rw [combined_concat]
      rw [List.findSome?_append, Option.or_eq_some_iff, List.findSome?_singleton] at failure
      rcases failure with earlier | ⟨readable, here⟩
      · rw [ih earlier]
        rfl
      · obtain ⟨earlier, combined_eq, _⟩ := combined_of_readable readable
        cases layer_eq : source.layer with
        | ok later => simp [failure?, layer_eq] at here
        | error error' =>
            have same : error' = error := by simpa [failure?, layer_eq] using here
            rw [combined_eq, same]
            rfl

end SettingsSource

namespace Settings

open SettingsSource (lastSet byPrecedence failure?)

/-- The settings that the last source to set each of them gives, and the defaults of those that none
sets. -/
def lastGiven (sources : List SettingsSource) : Settings where
  host := (lastSet (·.host?) sources).getD "0.0.0.0"
  port := (lastSet (·.port?) sources).getD 8080
  databaseUrl := (lastSet (·.databaseUrl?) sources).getD "sqlite:./warden.db"
  logLevel := (lastSet (·.logLevel?) sources).getD "info"
  total := (lastSet (·.total?) sources).getD 10
  threshold := (lastSet (·.threshold?) sources).getD 5
  allowList := (lastSet (·.allowList?) sources).getD ["unseal", "login"]

/-- The settings of a layer are those that it sets itself, and defaults. -/
theorem ofLayer_eq (layer : SettingsLayer) :
    ofLayer layer =
      { host := layer.host?.getD "0.0.0.0"
        port := layer.port?.getD 8080
        databaseUrl := layer.databaseUrl?.getD "sqlite:./warden.db"
        logLevel := layer.logLevel?.getD "info"
        total := layer.total?.getD 10
        threshold := layer.threshold?.getD 5
        allowList := layer.allowList?.getD ["unseal", "login"] } := by
  obtain ⟨http, database, logging, unsealing⟩ := layer
  cases http <;> cases database <;> cases logging <;> cases unsealing <;> rfl

/-- What settings have to satisfy: the URL is one of the engine and does not name the database in
memory, and more than one and no more than all pieces are needed. -/
structure Acceptable (settings : Settings) : Prop where
  isSqlite : "sqlite:".toList <+: settings.databaseUrl.toList
  notInMemory : ¬ ":memory:".toList <:+: settings.databaseUrl.toList
  two_le_threshold : 2 ≤ settings.threshold
  threshold_le_total : settings.threshold ≤ settings.total

theorem databaseFault?_eq_none_iff {settings : Settings} :
    settings.databaseFault? = none ↔
      "sqlite:".toList <+: settings.databaseUrl.toList ∧
        ¬ ":memory:".toList <:+: settings.databaseUrl.toList := by
  rw [← List.isPrefixOf_iff_prefix, ← Text.occursIn_iff]
  simp only [databaseFault?]
  split_ifs <;> simp_all

theorem sharingFault?_eq_none_iff {settings : Settings} :
    settings.sharingFault? = none ↔
      2 ≤ settings.threshold ∧ settings.threshold ≤ settings.total := by
  rw [← UInt8.not_lt, ← UInt8.not_lt, sharingFault?]
  split_ifs <;> simp_all

theorem acceptable_iff {settings : Settings} :
    settings.Acceptable ↔ settings.databaseFault?.or settings.sharingFault? = none := by
  rw [Option.or_eq_none_iff, databaseFault?_eq_none_iff, sharingFault?_eq_none_iff]
  constructor
  · rintro ⟨isSqlite, notInMemory, two_le, le_total⟩
    exact ⟨⟨isSqlite, notInMemory⟩, two_le, le_total⟩
  · rintro ⟨⟨isSqlite, notInMemory⟩, two_le, le_total⟩
    exact ⟨isSqlite, notInMemory, two_le, le_total⟩

/-- The settings of sources that can all be read, before they are looked at. -/
theorem ofSources_of_readable {sources : List SettingsSource}
    (readable : (byPrecedence sources).findSome? failure? = none) :
    ofSources sources =
      match (lastGiven (byPrecedence sources)).databaseFault?.or
          (lastGiven (byPrecedence sources)).sharingFault? with
      | some fault => .error (.refused fault)
      | none => .ok (lastGiven (byPrecedence sources)) := by
  obtain ⟨layer, combined_eq, read_eq⟩ := SettingsSource.combined_of_readable readable
  have settings_eq : ofLayer layer = lastGiven (byPrecedence sources) := by
    rw [ofLayer_eq, read_eq SettingsLayer.isSetting_host, read_eq SettingsLayer.isSetting_port,
      read_eq SettingsLayer.isSetting_databaseUrl, read_eq SettingsLayer.isSetting_logLevel,
      read_eq SettingsLayer.isSetting_total, read_eq SettingsLayer.isSetting_threshold,
      read_eq SettingsLayer.isSetting_allowList, lastGiven]
  rw [ofSources, SettingsSource.inOrder_eq, combined_eq, ← settings_eq]
  rfl

/-- The three sources of a run are listed by precedence. -/
theorem load_eq (path : String) (content : SettingsFile) (given : Variables) :
    load path content given =
      match SettingsSource.combined [.defaults, .file path content, .environment given] with
      | .error error => .error error
      | .ok layer => resolve layer := by
  rw [load, ofSources, SettingsSource.inOrder_eq]
  rfl

/-- The first source, in the order of precedence, that cannot be read decides the error. If all can
be read, each setting is what the last source in that order says that sets it, or its default, and
these settings are the outcome exactly if they are acceptable. -/
theorem takes_last_given (sources : List SettingsSource) :
    let ordered := byPrecedence sources
    (∀ error, ordered.findSome? failure? = some error → ofSources sources = .error error) ∧
      (ordered.findSome? failure? = none →
        (∀ settings, ofSources sources = .ok settings ↔
          settings = lastGiven ordered ∧ settings.Acceptable) ∧
        (¬ (lastGiven ordered).Acceptable →
          ∃ fault, ofSources sources = .error (.refused fault))) := by
  refine ⟨fun error failure => ?_, fun readable => ?_⟩
  · rw [ofSources, SettingsSource.inOrder_eq, SettingsSource.combined_of_failure failure]
  · rw [ofSources_of_readable readable]
    cases fault_eq : (lastGiven (byPrecedence sources)).databaseFault?.or
        (lastGiven (byPrecedence sources)).sharingFault? with
    | none =>
        have acceptable := acceptable_iff.mpr fault_eq
        refine ⟨fun settings => ?_, fun unacceptable => (unacceptable acceptable).elim⟩
        constructor
        · intro settings_eq
          have eq : lastGiven (byPrecedence sources) = settings := Except.ok.inj settings_eq
          exact ⟨eq.symm, eq ▸ acceptable⟩
        · rintro ⟨rfl, _⟩
          rfl
    | some fault =>
        have unacceptable : ¬ (lastGiven (byPrecedence sources)).Acceptable := fun acceptable => by
          rw [acceptable_iff, fault_eq] at acceptable
          exact Option.some_ne_none fault acceptable
        refine ⟨fun settings => ?_, fun _ => ⟨fault, rfl⟩⟩
        constructor
        · intro settings_eq
          simp at settings_eq
        · rintro ⟨rfl, acceptable⟩
          exact (unacceptable acceptable).elim

end Settings

end KeyCustody
