import KeyCustody.Proofs.Custody.Liveness
import KeyCustody.Proofs.DigestStore
import KeyCustody.Proofs.WrappedKey

/-!
# A root key is made once

Several callers use one store, which may go out of reach and to which other writers bring records of
their own, also between the check and the write of a bootstrap. Every call, together with what the
others do while it runs, either leaves the row as it was and stores no record, or there was no row and
exactly one record is stored. A record that another writer stores between check and write therefore
stays, and the bootstrap hands out no pieces. In a whole run one record at most is stored, by whomever,
and what is read afterwards is this record.
-/

namespace KeyCustody

/-- What happens to a shared store from outside. -/
inductive Disturbance where
  /-- The store goes out of reach or comes back. -/
  | outage (isOffline : Bool)
  /-- The database is closed or opened, and may be written or only read. -/
  | access (isOpen isReadOnly : Bool)
  /-- Another writer stores a record. -/
  | written (record : DigestRecord)
  /-- Another writer will store a record just before the next call that stores one. -/
  | rival (record : DigestRecord)

namespace DigestStore

def withAccess (isOpen isReadOnly : Bool) : DigestStore → DigestStore
  | memory record => memory record
  | database base => database { base with isOpen, isReadOnly }

theorem row?_withAccess (digests : DigestStore) (isOpen isReadOnly : Bool) :
    (digests.withAccess isOpen isReadOnly).row? = digests.row? := by
  cases digests <;> rfl

/-- The record, if storing it is reported as done. -/
def taken (digests : DigestStore) (record : DigestRecord) : List DigestRecord :=
  if (digests.store record).1 = .ok .stored then [record] else []

/-- What was done to the row of a store, with the records that were stored. -/
inductive Effect (before after : Option DigestRow) : List DigestRecord → Prop where
  | nothing (same : after = before) : Effect before after []
  | stored {record : DigestRecord} (empty : before = none) (row_eq : after = some (rowOf record)) :
      Effect before after [record]

namespace Effect

variable {before between after : Option DigestRow} {records earlier later : List DigestRecord}

theorem append (first : Effect before between earlier) (second : Effect between after later) :
    Effect before after (earlier ++ later) := by
  cases first with
  | nothing same =>
      subst same
      exact second
  | stored empty row_eq =>
      cases second with
      | nothing same => exact .stored empty (same.trans row_eq)
      | stored isEmpty =>
          rw [row_eq] at isEmpty
          cases isEmpty

/-- A row that is there stays. -/
theorem stays (effect : Effect before after records) {row : DigestRow}
    (row_eq : before = some row) : after = some row := by
  cases effect with
  | nothing same => exact same.trans row_eq
  | stored empty =>
      rw [row_eq] at empty
      cases empty

/-- Where there is no row none was before, and no record was stored. -/
theorem of_none (effect : Effect before after records) (empty : after = none) :
    before = none ∧ records = [] := by
  cases effect with
  | nothing same => exact ⟨same.symm.trans empty, rfl⟩
  | stored _ row_eq =>
      rw [empty] at row_eq
      cases row_eq

theorem row_eq (effect : Effect before after records) {record : DigestRecord}
    (record_mem : record ∈ records) : after = some (rowOf record) := by
  cases effect with
  | nothing => cases record_mem
  | stored _ row_eq =>
      cases List.mem_singleton.mp record_mem
      exact row_eq

end Effect

theorem effect_store (digests : DigestStore) (record : DigestRecord) :
    Effect digests.row? (digests.store record).2.row? (digests.taken record) := by
  have storing := digests.storing_store record
  unfold taken
  generalize digests.store record = outcome at storing ⊢
  rcases outcome with ⟨answer, after⟩
  cases storing with
  | stored empty row_eq =>
      rw [if_pos rfl]
      exact .stored empty row_eq
  | refused notStored =>
      rw [if_neg notStored]
      exact .nothing rfl

end DigestStore

namespace SharedStore

open DigestStore (Effect rowOf)

def disturbed (shared : SharedStore) : Disturbance → SharedStore
  | .outage isOffline => { shared with isOffline }
  | .access isOpen isReadOnly =>
    { shared with digests := shared.digests.withAccess isOpen isReadOnly }
  | .written record => { shared with digests := (shared.digests.store record).2 }
  | .rival record => { shared with rivalRecord := some record }

def disturbedBy (shared : SharedStore) (disturbances : List Disturbance) : SharedStore :=
  disturbances.foldl disturbed shared

/-- The record that another writer stores. -/
def brought (shared : SharedStore) : Disturbance → List DigestRecord
  | .outage _ => []
  | .access _ _ => []
  | .written record => shared.digests.taken record
  | .rival _ => []

/-- The records that other writers store, in their order. -/
def broughtBy (shared : SharedStore) : List Disturbance → List DigestRecord
  | [] => []
  | disturbance :: rest =>
    shared.brought disturbance ++ (shared.disturbed disturbance).broughtBy rest

/-- What another writer does just before a call that stores a record. -/
def overtaking (shared : SharedStore) : List Disturbance :=
  if shared.isOffline then [] else shared.rivalRecord.toList.map .written

/-- The store as a call that stores a record finds it. -/
def overtaken (shared : SharedStore) : SharedStore := shared.disturbedBy shared.overtaking

/-- What happens to a store while a bootstrap runs, whatever the bootstrap itself does to it. It writes
only if it finds no record and the sharing is sensible, and may be overtaken just before. -/
def amid (shared : SharedStore) (sharing : Sharing) (meanwhile : List Disturbance) :
    List Disturbance :=
  match shared.fetchDigest.1.answer with
  | .error (.notFound _) =>
    if 2 ≤ sharing.threshold ∧ sharing.threshold ≤ sharing.total then
      meanwhile ++ (shared.disturbedBy meanwhile).overtaking
    else meanwhile
  | _ => []

theorem effect_disturbed (shared : SharedStore) (disturbance : Disturbance) :
    Effect shared.digests.row? (shared.disturbed disturbance).digests.row?
      (shared.brought disturbance) := by
  cases disturbance with
  | outage isOffline => exact .nothing rfl
  | access isOpen isReadOnly => exact .nothing (shared.digests.row?_withAccess _ _)
  | written record => exact shared.digests.effect_store record
  | rival record => exact .nothing rfl

theorem effect_disturbedBy (shared : SharedStore) (disturbances : List Disturbance) :
    Effect shared.digests.row? (shared.disturbedBy disturbances).digests.row?
      (shared.broughtBy disturbances) := by
  induction disturbances generalizing shared with
  | nil => exact .nothing rfl
  | cons disturbance rest ih =>
      exact (shared.effect_disturbed disturbance).append (ih (shared.disturbed disturbance))

theorem exists_fetchDigest_eq (shared : SharedStore) :
    ∃ rivalKey, shared.fetchDigest.2 = { shared with rivalKey } := by
  unfold fetchDigest
  split
  · exact ⟨shared.rivalKey, rfl⟩
  · exact ⟨none, rfl⟩

@[simp]
theorem digests_fetchDigest (shared : SharedStore) :
    shared.fetchDigest.2.digests = shared.digests := by
  rcases shared.exists_fetchDigest_eq with ⟨rivalKey, fetch_eq⟩
  rw [fetch_eq]

theorem disturbedBy_withRivalKey (shared : SharedStore) (rivalKey : Option ByteString)
    (disturbances : List Disturbance) :
    { shared with rivalKey }.disturbedBy disturbances =
      { shared.disturbedBy disturbances with rivalKey } := by
  induction disturbances generalizing shared with
  | nil => rfl
  | cons disturbance rest ih =>
      have disturbed_eq : { shared with rivalKey }.disturbed disturbance =
          { shared.disturbed disturbance with rivalKey } := by
        cases disturbance <;> rfl
      change ({ shared with rivalKey }.disturbed disturbance).disturbedBy rest = _
      rw [disturbed_eq]
      exact ih (shared.disturbed disturbance)

theorem digests_overtaken_withRivalKey (shared : SharedStore) (rivalKey : Option ByteString) :
    { shared with rivalKey }.overtaken.digests = shared.overtaken.digests := by
  rw [overtaken, disturbedBy_withRivalKey]
  rfl

theorem overtaken_disturbedBy (shared : SharedStore) (meanwhile : List Disturbance) :
    (shared.disturbedBy meanwhile).overtaken =
      shared.disturbedBy (meanwhile ++ (shared.disturbedBy meanwhile).overtaking) :=
  List.foldl_append.symm

/-- The store says that there is no record only if there is none. -/
theorem of_notFound {shared : SharedStore} {what : String}
    (answer_eq : shared.fetchDigest.1.answer = .error (.notFound what)) :
    .notFound what = DigestStore.noDigest ∧ shared.digests.row? = none := by
  unfold fetchDigest at answer_eq
  split at answer_eq
  · cases answer_eq
  · exact DigestStore.of_notFound answer_eq

theorem digests_admitRival {shared : SharedStore} (online : ¬shared.isOffline = true) :
    shared.admitRival.2.digests = shared.overtaken.digests := by
  unfold overtaken overtaking admitRival
  rw [if_neg online]
  cases shared.rivalRecord with
  | none => rfl
  | some record =>
      change _ = (shared.digests.store record).2
      dsimp only
      rcases shared.digests.store record with ⟨_ | _, digests⟩ <;> rfl

/-- What storing a record in a shared store does: the answer, and the store after it. It is stored only
if there is still no row after those who overtake. -/
inductive Storing (shared : SharedStore) (record : DigestRecord) :
    Except CustodyError StoreOutcome → SharedStore → Prop where
  | stored {after : SharedStore} (empty : shared.overtaken.digests.row? = none)
      (row_eq : after.digests.row? = some (rowOf record)) (holds : after.digests.Holds record) :
      Storing shared record (.ok .stored) after
  | refused {answer : Except CustodyError StoreOutcome} {after : SharedStore}
      (notStored : answer ≠ .ok .stored)
      (same : after.digests.row? = shared.overtaken.digests.row?) :
      Storing shared record answer after

theorem storing_store (shared : SharedStore) (record : DigestRecord) :
    Storing shared record (shared.store record).1 (shared.store record).2 := by
  unfold store
  by_cases offline : shared.isOffline = true
  · rw [if_pos offline]
    refine .refused (by simp) ?_
    rw [overtaken, overtaking, if_pos offline]
    rfl
  · rw [if_neg offline]
    have admitted_eq := digests_admitRival offline
    generalize shared.admitRival = outcome at admitted_eq ⊢
    rcases outcome with ⟨error | _, admitted⟩
    · exact .refused (by simp) (congrArg _ admitted_eq)
    · dsimp only at admitted_eq ⊢
      have storing := admitted.digests.storing_store record
      rw [admitted_eq] at storing ⊢
      generalize shared.overtaken.digests.store record = written at storing ⊢
      rcases written with ⟨answer, digests⟩
      cases storing with
      | stored empty row_eq holds => exact .stored empty row_eq holds
      | refused notStored => exact .refused notStored rfl

end SharedStore

variable {Supply : Type} [ByteSupply Supply]

/-- What making a root key does: the answer, and the store after it. -/
inductive Making (shared : SharedStore) (sharing : Sharing) (rootKey : ByteString) :
    Except CustodyError (List KeyPiece) → SharedStore → Prop where
  | unfit {reason : String}
      (notFit : ¬(2 ≤ sharing.threshold ∧ sharing.threshold ≤ sharing.total)) :
      Making shared sharing rootKey (.error (.invalidInput reason)) shared
  | made {pieces : List KeyPiece} {after : SharedStore}
      (fit : 2 ≤ sharing.threshold ∧ sharing.threshold ≤ sharing.total)
      (dealt : KeyPiece.Dealt pieces sharing rootKey)
      (empty : shared.overtaken.digests.row? = none)
      (row_eq : after.digests.row? = some (DigestStore.rowOf ⟨.ofKey rootKey, sharing⟩))
      (holds : after.digests.Holds ⟨.ofKey rootKey, sharing⟩) :
      Making shared sharing rootKey (.ok pieces) after
  | refused {error : CustodyError} {after : SharedStore}
      (fit : 2 ≤ sharing.threshold ∧ sharing.threshold ≤ sharing.total)
      (same : after.digests.row? = shared.overtaken.digests.row?) :
      Making shared sharing rootKey (.error error) after

theorem making_makeRootKey (shared : SharedStore) (sharing : Sharing) (supply : Supply)
    (rivalKey : Option ByteString) :
    Making shared sharing (generateKey supply).1
      (makeRootKey shared sharing supply rivalKey).result
      (makeRootKey shared sharing supply rivalKey).store := by
  unfold makeRootKey
  dsimp only
  generalize split_eq : KeyPiece.split (generateKey supply).1 sharing (generateKey supply).2 =
    outcome
  rcases outcome with ⟨error | pieces, afterSplit⟩
  · apply Making.unfit
    rintro ⟨two_le, le_total⟩
    rcases KeyPiece.exists_dealt_split (length_generateKey supply) two_le le_total
      (generateKey supply).2 with ⟨pieces, after, split_ok, _⟩
    cases split_eq.symm.trans split_ok
  · have split_ok := congrArg Prod.fst split_eq
    have fit := (KeyPiece.admissible_of_split split_ok).2
    have storing := shared.storing_store ⟨.ofKey (generateKey supply).1, sharing⟩
    dsimp only
    generalize shared.store ⟨.ofKey (generateKey supply).1, sharing⟩ = stored at storing ⊢
    rcases stored with ⟨answer, after⟩
    cases storing with
    | stored empty row_eq holds =>
        exact .made fit (KeyPiece.dealt_of_split (length_generateKey supply) split_ok) empty row_eq
          holds
    | refused notStored same =>
        rcases answer with error | ⟨_ | _⟩
        · exact .refused fit same
        · exact absurd rfl notStored
        · exact .refused fit same

/-- A bootstrap with what happens to the store between its check and its write. -/
def bootstrapAmid (shared : SharedStore) (sharing : Sharing) (supply : Supply)
    (meanwhile : List Disturbance) : BootstrapOutcome Supply :=
  let (fetch, afterFetch) := shared.fetchDigest
  match fetch.answer with
  | .error (.notFound _) =>
    makeRootKey (afterFetch.disturbedBy meanwhile) sharing supply fetch.rivalKey
  | _ => bootstrap shared sharing supply

/-- With nothing in between this is `bootstrap`. -/
theorem bootstrapAmid_nil (shared : SharedStore) (sharing : Sharing) (supply : Supply) :
    bootstrapAmid shared sharing supply [] = bootstrap shared sharing supply := by
  unfold bootstrapAmid bootstrap
  rcases shared.fetchDigest with ⟨⟨_ | _, rivalKey⟩, afterFetch⟩
  · rename_i error
    cases error <;> rfl
  · rfl

section

variable {shared : SharedStore} {sharing : Sharing} {supply : Supply} {meanwhile : List Disturbance}

theorem bootstrapAmid_of_ok {digest : RootKeyDigest}
    (answer_eq : shared.fetchDigest.1.answer = .ok digest) :
    bootstrapAmid shared sharing supply meanwhile = ⟨.error alreadyInitialised,
      shared.fetchDigest.2, supply, shared.fetchDigest.1.rivalKey⟩ := by
  unfold bootstrapAmid bootstrap
  simp only [answer_eq]

theorem bootstrapAmid_of_noDigest
    (answer_eq : shared.fetchDigest.1.answer = .error DigestStore.noDigest) :
    bootstrapAmid shared sharing supply meanwhile =
      makeRootKey (shared.fetchDigest.2.disturbedBy meanwhile) sharing supply
        shared.fetchDigest.1.rivalKey := by
  unfold bootstrapAmid
  simp only [answer_eq, DigestStore.noDigest]

theorem bootstrapAmid_of_error {error : CustodyError}
    (answer_eq : shared.fetchDigest.1.answer = .error error)
    (notNone : error ≠ DigestStore.noDigest) :
    bootstrapAmid shared sharing supply meanwhile = ⟨.error error, shared.fetchDigest.2, supply,
      shared.fetchDigest.1.rivalKey⟩ := by
  unfold bootstrapAmid bootstrap
  cases error with
  | notFound what => exact absurd (SharedStore.of_notFound answer_eq).1 notNone
  | _ => simp only [answer_eq]

end

namespace SharedStore

variable {shared : SharedStore}

theorem amid_of_noDigest (answer_eq : shared.fetchDigest.1.answer = .error DigestStore.noDigest)
    (sharing : Sharing) (meanwhile : List Disturbance) :
    shared.amid sharing meanwhile =
      if 2 ≤ sharing.threshold ∧ sharing.threshold ≤ sharing.total then
        meanwhile ++ (shared.disturbedBy meanwhile).overtaking
      else meanwhile := by
  unfold amid
  simp only [answer_eq, DigestStore.noDigest]

theorem amid_of_ne (notNone : shared.fetchDigest.1.answer ≠ .error DigestStore.noDigest)
    (sharing : Sharing) (meanwhile : List Disturbance) : shared.amid sharing meanwhile = [] := by
  unfold amid
  split
  · rename_i what answer_eq
    rw [answer_eq, (of_notFound answer_eq).1] at notNone
    exact absurd rfl notNone
  · rfl

end SharedStore

/-- What a bootstrap keeps to, with others doing this to the store while it runs. -/
structure KeepsPromises (before : SharedStore) (others : List Disturbance) (sharing : Sharing)
    (rootKey : ByteString) (outcome : BootstrapOutcome Supply) : Prop where
  /-- A record that can be read is a conflict, whatever the sharing. -/
  conflict : ∀ digest, before.fetchDigest.1.answer = .ok digest →
    outcome.result = .error alreadyInitialised
  /-- If the store says that there is none, the sharing has to be sensible. -/
  invalid : before.fetchDigest.1.answer = .error DigestStore.noDigest →
    ¬(2 ≤ sharing.threshold ∧ sharing.threshold ≤ sharing.total) →
    ∃ reason, outcome.result = .error (.invalidInput reason)
  /-- A store that does not say whether there is one passes on its error. -/
  passedOn : ∀ error, before.fetchDigest.1.answer = .error error → error ≠ DigestStore.noDigest →
    outcome.result = .error error
  /-- Without pieces the store has the row that the others leave, which is the one that was there or,
  where there was none, that of the one record that they store. -/
  failed : ∀ error, outcome.result = .error error →
    outcome.store.digests.row? = (before.disturbedBy others).digests.row? ∧
      DigestStore.Effect before.digests.row? outcome.store.digests.row? (before.broughtBy others)
  /-- Once another writer has stored a record it stays, and there are no pieces. -/
  overtaken : ∀ record ∈ before.broughtBy others,
    (∃ error, outcome.result = .error error) ∧
      outcome.store.digests.row? = some (DigestStore.rowOf record)
  /-- There are pieces only if there was no row, and none came before the write. -/
  dealt : ∀ pieces, outcome.result = .ok pieces →
    before.digests.row? = none ∧ (before.disturbedBy others).digests.row? = none ∧
      before.broughtBy others = [] ∧ rootKey.length = keySize ∧
      KeyPiece.Dealt pieces sharing rootKey ∧
      outcome.store.digests.row? = some (DigestStore.rowOf ⟨.ofKey rootKey, sharing⟩) ∧
      outcome.store.digests.Holds ⟨.ofKey rootKey, sharing⟩

/-- What a bootstrap does to the row beside the others: it leaves it alone, or hands out pieces and
writes it where they leave none. -/
inductive Bootstrapping (before : SharedStore) (others : List Disturbance) (sharing : Sharing)
    (rootKey : ByteString) : Except CustodyError (List KeyPiece) → SharedStore → Prop where
  | refused {error : CustodyError} {after : SharedStore}
      (same : after.digests.row? = (before.disturbedBy others).digests.row?) :
      Bootstrapping before others sharing rootKey (.error error) after
  | made {pieces : List KeyPiece} {after : SharedStore}
      (empty : (before.disturbedBy others).digests.row? = none)
      (dealt : KeyPiece.Dealt pieces sharing rootKey)
      (row_eq : after.digests.row? = some (DigestStore.rowOf ⟨.ofKey rootKey, sharing⟩))
      (holds : after.digests.Holds ⟨.ofKey rootKey, sharing⟩) :
      Bootstrapping before others sharing rootKey (.ok pieces) after

theorem bootstrapping_bootstrapAmid (shared : SharedStore) (sharing : Sharing) (supply : Supply)
    (meanwhile : List Disturbance) :
    Bootstrapping shared (shared.amid sharing meanwhile) sharing (generateKey supply).1
      (bootstrapAmid shared sharing supply meanwhile).result
      (bootstrapAmid shared sharing supply meanwhile).store := by
  by_cases isNone : shared.fetchDigest.1.answer = .error DigestStore.noDigest
  · have making := making_makeRootKey (shared.fetchDigest.2.disturbedBy meanwhile) sharing supply
      shared.fetchDigest.1.rivalKey
    rw [bootstrapAmid_of_noDigest isNone, SharedStore.amid_of_noDigest isNone]
    generalize makeRootKey (shared.fetchDigest.2.disturbedBy meanwhile) sharing supply
      shared.fetchDigest.1.rivalKey = outcome at making ⊢
    rcases shared.exists_fetchDigest_eq with ⟨rivalKey, fetch_eq⟩
    rw [fetch_eq, SharedStore.disturbedBy_withRivalKey] at making
    rcases outcome with ⟨result, after, supplyLeft, rivalKeyLeft⟩
    cases making with
    | unfit notFit =>
        rw [if_neg notFit]
        exact .refused rfl
    | made fit dealt empty row_eq holds =>
        rw [SharedStore.digests_overtaken_withRivalKey, SharedStore.overtaken_disturbedBy] at empty
        rw [if_pos fit]
        exact .made empty dealt row_eq holds
    | refused fit same =>
        rw [SharedStore.digests_overtaken_withRivalKey, SharedStore.overtaken_disturbedBy] at same
        rw [if_pos fit]
        exact .refused same
  · rw [SharedStore.amid_of_ne isNone]
    cases answer_eq : shared.fetchDigest.1.answer with
    | ok digest =>
        rw [bootstrapAmid_of_ok answer_eq]
        exact .refused (congrArg _ shared.digests_fetchDigest)
    | error error =>
        rw [bootstrapAmid_of_error answer_eq fun same => isNone (same ▸ answer_eq)]
        exact .refused (congrArg _ shared.digests_fetchDigest)

theorem keepsPromises_bootstrapAmid (shared : SharedStore) (sharing : Sharing) (supply : Supply)
    (meanwhile : List Disturbance) :
    KeepsPromises shared (shared.amid sharing meanwhile) sharing (generateKey supply).1
      (bootstrapAmid shared sharing supply meanwhile) := by
  have bootstrapping := bootstrapping_bootstrapAmid shared sharing supply meanwhile
  have effect := shared.effect_disturbedBy (shared.amid sharing meanwhile)
  constructor
  · intro digest answer_eq
    rw [bootstrapAmid_of_ok answer_eq]
  · intro answer_eq notFit
    have making := making_makeRootKey (shared.fetchDigest.2.disturbedBy meanwhile) sharing supply
      shared.fetchDigest.1.rivalKey
    rw [← bootstrapAmid_of_noDigest answer_eq] at making
    generalize bootstrapAmid shared sharing supply meanwhile = outcome at making ⊢
    rcases outcome with ⟨result, after, supplyLeft, rivalKeyLeft⟩
    cases making with
    | unfit => exact ⟨_, rfl⟩
    | made fit => exact absurd fit notFit
    | refused fit => exact absurd fit notFit
  · intro error answer_eq notNone
    rw [bootstrapAmid_of_error answer_eq notNone]
  · intro error error_eq
    rw [error_eq] at bootstrapping
    cases bootstrapping with
    | refused same =>
        rw [same]
        exact ⟨rfl, effect⟩
  · intro record record_mem
    generalize bootstrapAmid shared sharing supply meanwhile = outcome at bootstrapping ⊢
    rcases outcome with ⟨result, after, supplyLeft, rivalKeyLeft⟩
    cases bootstrapping with
    | refused same => exact ⟨⟨_, rfl⟩, same.trans (effect.row_eq record_mem)⟩
    | made empty =>
        rw [(effect.of_none empty).2] at record_mem
        cases record_mem
  · intro pieces result_eq
    rw [result_eq] at bootstrapping
    cases bootstrapping with
    | made empty dealt row_eq holds =>
        rcases effect.of_none empty with ⟨notBefore, unaided⟩
        exact ⟨notBefore, empty, unaided, length_generateKey supply, dealt, row_eq, holds⟩

/-- A call to a shared store, or something that happens to it from outside. -/
inductive StoreCall (Supply : Type) where
  | bootstrap (sharing : Sharing) (supply : Supply) (meanwhile : List Disturbance)
  | store (record : DigestRecord)
  | fetchDigest
  | fetchSharing
  | disturb (disturbance : Disturbance)

namespace SharedStore

open DigestStore (Effect rowOf)

def after (shared : SharedStore) : StoreCall Supply → SharedStore
  | .bootstrap sharing supply meanwhile => (bootstrapAmid shared sharing supply meanwhile).store
  | .store record => (shared.store record).2
  | .fetchDigest => shared.fetchDigest.2
  | .fetchSharing => shared
  | .disturb disturbance => shared.disturbed disturbance

/-- What others do to the store during a call. -/
def beside (shared : SharedStore) : StoreCall Supply → List Disturbance
  | .bootstrap sharing _ meanwhile => shared.amid sharing meanwhile
  | .store _ => shared.overtaking
  | .fetchDigest => []
  | .fetchSharing => []
  | .disturb disturbance => [disturbance]

/-- The record that a call itself reports to have stored. -/
def own (shared : SharedStore) : StoreCall Supply → List DigestRecord
  | .bootstrap sharing supply meanwhile =>
    match (bootstrapAmid shared sharing supply meanwhile).result with
    | .ok _ => [⟨.ofKey (generateKey supply).1, sharing⟩]
    | .error _ => []
  | .store record => if (shared.store record).1 = .ok .stored then [record] else []
  | .fetchDigest => []
  | .fetchSharing => []
  | .disturb _ => []

/-- The records that are reported as stored during a call, to its caller or to another writer. -/
def reported (shared : SharedStore) (call : StoreCall Supply) : List DigestRecord :=
  shared.broughtBy (shared.beside call) ++ shared.own call

def afterAll (shared : SharedStore) (calls : List (StoreCall Supply)) : SharedStore :=
  calls.foldl after shared

/-- The records that are reported as stored during the calls, in their order. -/
def reportedIn (shared : SharedStore) : List (StoreCall Supply) → List DigestRecord
  | [] => []
  | call :: rest => shared.reported call ++ (shared.after call).reportedIn rest

/-- A call by itself does nothing to the row but what it reports. -/
theorem effect_own (shared : SharedStore) (call : StoreCall Supply) :
    Effect (shared.disturbedBy (shared.beside call)).digests.row? (shared.after call).digests.row?
      (shared.own call) := by
  unfold beside after own
  cases call with
  | bootstrap sharing supply meanwhile =>
      have bootstrapping := bootstrapping_bootstrapAmid shared sharing supply meanwhile
      dsimp only
      generalize bootstrapAmid shared sharing supply meanwhile = outcome at bootstrapping ⊢
      rcases outcome with ⟨result, after, supplyLeft, rivalKeyLeft⟩
      cases bootstrapping with
      | refused same => exact .nothing same
      | made empty _ row_eq => exact .stored empty row_eq
  | store record =>
      have storing := shared.storing_store record
      dsimp only
      generalize shared.store record = outcome at storing ⊢
      rcases outcome with ⟨answer, after⟩
      cases storing with
      | stored empty row_eq =>
          rw [if_pos rfl]
          exact .stored empty row_eq
      | refused notStored same =>
          rw [if_neg notStored]
          exact .nothing same
  | fetchDigest => exact .nothing (congrArg _ shared.digests_fetchDigest)
  | fetchSharing => exact .nothing rfl
  | disturb disturbance => exact .nothing rfl

theorem effect_after (shared : SharedStore) (call : StoreCall Supply) :
    Effect shared.digests.row? (shared.after call).digests.row? (shared.reported call) :=
  (shared.effect_disturbedBy (shared.beside call)).append (shared.effect_own call)

/-- A run does no more to the row than one call. -/
theorem effect_afterAll (shared : SharedStore) (calls : List (StoreCall Supply)) :
    Effect shared.digests.row? (shared.afterAll calls).digests.row? (shared.reportedIn calls) := by
  induction calls generalizing shared with
  | nil => exact .nothing rfl
  | cons call rest ih => exact (shared.effect_after call).append (ih (shared.after call))

/-- Only the record of its row can be read from a store. -/
theorem reads_of_row? {shared : SharedStore} {record : DigestRecord}
    (row_eq : shared.digests.row? = some (rowOf record)) :
    (∀ digest, shared.fetchDigest.1.answer = .ok digest → digest = record.digest) ∧
      ∀ sharing, shared.fetchSharing = .ok sharing → sharing = record.sharing := by
  unfold fetchDigest fetchSharing
  by_cases isOffline : shared.isOffline = true
  · rw [if_pos isOffline, if_pos isOffline]
    exact ⟨fun _ impossible => (nomatch impossible), fun _ impossible => (nomatch impossible)⟩
  · rw [if_neg isOffline, if_neg isOffline]
    rcases DigestStore.holds_or_unreadable row_eq with holds | ⟨error, digest_eq, sharing_eq⟩
    · rw [holds.digest_eq, holds.sharing_eq]
      exact ⟨fun _ read => (Except.ok.inj read).symm, fun _ read => (Except.ok.inj read).symm⟩
    · rw [digest_eq, sharing_eq]
      exact ⟨fun _ impossible => (nomatch impossible), fun _ impossible => (nomatch impossible)⟩

end SharedStore

end KeyCustody
