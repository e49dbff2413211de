import KeyCustody.Proofs.Bootstrap.Once
import KeyCustody.Proofs.Service.Run

/-!
# Which threshold counts

A server takes its threshold when it starts: the recorded one if the store holds a record by then,
and else the configured one. It never asks again. A root key that is there at the start is
therefore unsealed by as many pieces as were asked for when it was made, whatever is configured; a
server that is there before its root key counts towards the configured threshold for as long as it
runs.
-/

namespace KeyCustody

namespace Server

variable {configured : UInt8} {allowList : List String} {store : SharedStore} {server : Server}

theorem custody_of_start_recorded (started : Server.start configured allowList store = .ok server)
    {record : DigestRecord} (row_eq : store.digests.row? = some (DigestStore.rowOf record)) :
    server.custody = Custody.start record.sharing.threshold := by
  unfold Server.start at started
  dsimp only at started
  split at started
  · rename_i sharing fetched
    cases (SharedStore.reads_of_row? row_eq).2 sharing fetched
    cases started
    rfl
  · rename_i what fetched
    unfold SharedStore.fetchSharing at fetched
    split at fetched
    · cases fetched
    · rw [DigestStore.row?_of_noSharing fetched] at row_eq
      cases row_eq
  · cases started

theorem custody_of_start_unrecorded
    (started : Server.start configured allowList store = .ok server)
    (empty : store.digests.row? = none) : server.custody = Custody.start configured := by
  unfold Server.start at started
  dsimp only at started
  split at started
  · rename_i sharing fetched
    unfold SharedStore.fetchSharing at fetched
    split at fetched
    · cases fetched
    · exact absurd fetched (DigestStore.sharing_ne_ok_of_empty empty sharing)
  · cases started
    rfl
  · cases started

end Server

theorem KeyPiece.distinctCount_of_nodup {dealt chosen : List KeyPiece} (nodup : chosen.Nodup)
    (chosen_subset : ∀ piece ∈ chosen, piece ∈ dealt) :
    distinctCount dealt chosen = chosen.length := by
  have all : dealt.toFinset ∩ chosen.toFinset = chosen.toFinset := by
    apply Finset.inter_eq_right.mpr
    intro piece piece_mem
    exact List.mem_toFinset.mpr (chosen_subset piece (List.mem_toFinset.mp piece_mem))
  rw [distinctCount, all, List.toFinset_card_of_nodup nodup]

/-- Dealt pieces are on their way to unseal a vault that is sealed and holds nothing. -/
theorem Vault.ceremonyAnswer_of_empty {pieces : List KeyPiece} {sharing : Sharing}
    {rootKey : ByteString} (dealt : KeyPiece.Dealt pieces sharing rootKey) {vault : Vault}
    (locked : vault.custody.keystore.isLoaded = false)
    (collector_eq : vault.custody.collector = Collector.empty sharing.threshold)
    (answers : vault.store.Answers (.ofKey rootKey)) {earlier : List KeyPiece} {piece : KeyPiece}
    (admissible : ∀ given ∈ earlier ++ [piece], given ∈ pieces ∨ given.size ≠ rootKeyPieceSize) :
    CeremonyAnswer pieces sharing.threshold rootKey earlier piece (vault.afterAll earlier) := by
  have collecting : Collecting pieces sharing rootKey [] vault := by
    refine ⟨locked, ?_, ?_, ?_, ?_, answers.fetchDigest_eq⟩
    · rw [collector_eq]
      rfl
    · rw [collector_eq]
      exact Collector.wellFormed_empty _
    · simp [collector_eq, Collector.empty]
    · simpa [KeyPiece.distinctCount] using dealt.threshold_pos
  apply Standing.ceremonyAnswer dealt
  · exact standing_afterAll dealt collecting earlier fun given given_mem =>
      admissible given (List.mem_append_left _ given_mem)
  · exact admissible piece (List.mem_append_right _ (List.mem_singleton_self piece))

variable {Supply : Type} [ByteSupply Supply]

namespace SharedStore

/-- The call is a bootstrap that makes a root key and hands out its pieces. -/
def Makes (shared : SharedStore) (call : StoreCall Supply) (sharing : Sharing)
    (rootKey : ByteString) (pieces : List KeyPiece) : Prop :=
  ∃ supply meanwhile, call = .bootstrap sharing supply meanwhile ∧
    rootKey = (generateKey supply).1 ∧
    (bootstrapAmid shared sharing supply meanwhile).result = .ok pieces

/-- A root key is made only for a store without a row, which has the row of the record afterwards.
-/
theorem Makes.spec {shared : SharedStore} {call : StoreCall Supply} {sharing : Sharing}
    {rootKey : ByteString} {pieces : List KeyPiece}
    (makes : shared.Makes call sharing rootKey pieces) :
    shared.digests.row? = none ∧ KeyPiece.Dealt pieces sharing rootKey ∧
      (shared.after call).digests.row? = some (DigestStore.rowOf ⟨.ofKey rootKey, sharing⟩) := by
  rcases makes with ⟨supply, meanwhile, rfl, rfl, result_eq⟩
  rcases (keepsPromises_bootstrapAmid shared sharing supply meanwhile).dealt pieces result_eq with
    ⟨empty, _, _, _, dealt, row_eq, _⟩
  exact ⟨empty, dealt, row_eq⟩

end SharedStore

/-- A row stays where it is whatever happens to a vault, as long as the store is not replaced. -/
theorem Vault.row?_after {vault : Vault} {call : Call} (sameStore : ∀ store, call ≠ .disturb store)
    {row : DigestRow} (row_eq : vault.store.digests.row? = some row) :
    (vault.after call).store.digests.row? = some row := by
  cases call with
  | submit piece =>
      rw [after, vault.store_submit]
      split
      · rw [SharedStore.digests_fetchDigest]
        exact row_eq
      · exact row_eq
  | collect piece =>
      rw [after]
      split <;> exact row_eq
  | load rootKey =>
      rw [after]
      split <;> exact row_eq
  | record record =>
      let stored : StoreCall ByteTape := .store record
      exact (vault.store.effect_after stored).stays row_eq
  | fetchDigest =>
      change vault.store.fetchDigest.2.digests.row? = some row
      rw [SharedStore.digests_fetchDigest]
      exact row_eq
  | disturb store => exact absurd rfl (sameStore store)
  | _ => exact row_eq

/-- What happens while a server runs, to the site or to its store alone. -/
inductive Turn (Supply : Type) where
  | event (event : Event)
  /-- Someone uses the store beside the server, or something happens to it from outside. -/
  | store (call : StoreCall Supply)

namespace Site

def afterTurn (site : Site) : Turn Supply → Site
  | .event event => site.after event
  | .store call => { site with store := site.store.after call }

def afterTurns (site : Site) (turns : List (Turn Supply)) : Site := turns.foldl afterTurn site

theorem afterTurns_append_cons (site : Site) (earlier later : List (Turn Supply))
    (turn : Turn Supply) :
    site.afterTurns (earlier ++ turn :: later) =
      ((site.afterTurns earlier).afterTurn turn).afterTurns later := by
  rw [afterTurns, List.foldl_append, List.foldl_cons]
  rfl

section

variable {site : Site} {row : DigestRow}

theorem threshold_afterTurn (site : Site) (turn : Turn Supply) :
    (site.afterTurn turn).vault.custody.collector.threshold =
      site.vault.custody.collector.threshold := by
  cases turn with
  | store call => rfl
  | event event =>
      rw [afterTurn, vault_after]
      cases site.server.gate.call? site.vault event with
      | none => rfl
      | some call => exact (site.vault.collector_step call).threshold_eq

theorem threshold_afterTurns (site : Site) (turns : List (Turn Supply)) :
    (site.afterTurns turns).vault.custody.collector.threshold =
      site.vault.custody.collector.threshold := by
  induction turns generalizing site with
  | nil => rfl
  | cons turn rest ih => exact (ih (site.afterTurn turn)).trans (site.threshold_afterTurn turn)

theorem row?_afterTurn {turn : Turn Supply}
    (sameStore : ∀ store, turn ≠ .event (.meanwhile (.disturb store)))
    (row_eq : site.store.digests.row? = some row) :
    (site.afterTurn turn).store.digests.row? = some row := by
  cases turn with
  | store call => exact (site.store.effect_after call).stays row_eq
  | event event =>
      change (site.after event).vault.store.digests.row? = some row
      rw [vault_after]
      cases call_eq : site.server.gate.call? site.vault event with
      | none => exact row_eq
      | some call =>
          apply Vault.row?_after ?_ row_eq
          rcases RequestGate.of_call? call_eq with ⟨piece, rfl⟩ | rfl
          · simp
          · rintro store rfl
            exact sameStore store rfl

theorem row?_afterTurns {turns : List (Turn Supply)}
    (sameStore : ∀ store, .event (.meanwhile (.disturb store)) ∉ turns)
    (row_eq : site.store.digests.row? = some row) :
    (site.afterTurns turns).store.digests.row? = some row := by
  induction turns generalizing site with
  | nil => exact row_eq
  | cons turn rest ih =>
      apply ih fun store store_mem => sameStore store (List.mem_cons_of_mem turn store_mem)
      apply row?_afterTurn ?_ row_eq
      rintro store rfl
      exact sameStore store List.mem_cons_self

end

/-- While a site is sealed its replies count towards this threshold, and it is unsealed by as many
pieces of the recorded root key. -/
structure CountsTo (site : Site) (threshold : UInt8) (sharing : Sharing) (rootKey : ByteString)
    (pieces : List KeyPiece) : Prop where
  /-- A piece with which there are too few is counted. -/
  counted : site.server.custody.keystore.isLoaded = false → ∀ piece,
    piece.size = rootKeyPieceSize →
    ∀ count, count = (site.server.custody.offer piece).collector.held.length →
    count < threshold.toNat →
    (site.vault.submit piece).1.message = s!"collected {count} of {threshold} root key pieces"
  /-- No reply counts towards another threshold. -/
  progress : ∀ request held towards,
    (site.respond request).1.body = some (.unsealed (.collecting held towards)) →
    towards = threshold ∧ held < threshold.toNat ∧
      held = (site.respond request).2.server.custody.collector.held.length
  /-- The holders unseal an empty site, if it does not take fewer pieces for enough than are
  needed. -/
  ceremony : site.server.custody.keystore.isLoaded = false →
    site.server.custody.collector.held = [] → ∀ digest, site.store.Answers digest →
    sharing.threshold ≤ threshold →
    ∀ earlier piece,
      (∀ given ∈ earlier ++ [piece], given ∈ pieces ∨ given.size ≠ rootKeyPieceSize) →
      CeremonyAnswer pieces threshold rootKey earlier piece (site.vault.afterAll earlier)

theorem countsTo {threshold : UInt8} {sharing : Sharing} {rootKey : ByteString}
    {pieces : List KeyPiece} {site : Site} (dealt : KeyPiece.Dealt pieces sharing rootKey)
    (threshold_eq : site.vault.custody.collector.threshold = threshold)
    (row_eq : site.store.digests.row? =
      some (DigestStore.rowOf ⟨.ofKey rootKey, sharing⟩)) :
    site.CountsTo threshold sharing rootKey pieces where
  counted locked piece size_eq count count_eq few := by
    have stillFew : (site.vault.custody.offer piece).collector.held.length <
        site.vault.custody.collector.threshold.toNat := by
      rw [threshold_eq]
      exact count_eq ▸ few
    rw [((site.vault.unsealing_submit piece).of_few locked size_eq stillFew).1,
      threshold_eq, count_eq]
    rfl
  progress request held towards body_eq := by
    rcases exists_submitted body_eq with ⟨piece, submitted, outcome_eq⟩
    have unsealing := site.vault.unsealing_submit piece
    rw [respond_of_submitted submitted]
    change _ ∧ _ ∧ held = (site.vault.submit piece).2.custody.collector.held.length
    rw [← outcome_eq] at unsealing
    generalize (site.vault.submit piece).2.custody = after at unsealing ⊢
    cases unsealing with
    | waiting _ _ few =>
        rw [threshold_eq] at few
        exact ⟨threshold_eq, few, rfl⟩
  ceremony locked empty digest answers le earlier piece admissible := by
    have collector_eq : site.vault.custody.collector = Collector.empty threshold := by
      rw [Collector.empty, ← threshold_eq, ← empty]
      rfl
    have digest_eq : digest = .ofKey rootKey :=
      (SharedStore.reads_of_row? row_eq).1 digest
        (congrArg (fun fetched => fetched.1.answer) answers.fetchDigest_eq)
    subst digest_eq
    exact Vault.ceremonyAnswer_of_empty (dealt.mono le) locked collector_eq answers admissible

section

variable {configured : UInt8} {allowList : List String} {store : SharedStore} {server : Server}
  {sharing : Sharing} {rootKey : ByteString} {pieces : List KeyPiece}

theorem countsTo_of_recorded (started : Server.start configured allowList store = .ok server)
    (dealt : KeyPiece.Dealt pieces sharing rootKey)
    (row_eq : store.digests.row? = some (DigestStore.rowOf ⟨.ofKey rootKey, sharing⟩))
    {turns : List (Turn Supply)}
    (sameStore : ∀ store, .event (.meanwhile (.disturb store)) ∉ turns) :
    ((⟨server, store⟩ : Site).afterTurns turns).CountsTo sharing.threshold sharing rootKey
      pieces := by
  apply countsTo dealt ?_ (row?_afterTurns sameStore row_eq)
  rw [threshold_afterTurns, vault, Server.custody_of_start_recorded started row_eq]
  rfl

theorem countsTo_of_made_later (started : Server.start configured allowList store = .ok server)
    {earlier later : List (Turn Supply)} {call : StoreCall Supply}
    (sameStore : ∀ store, .event (.meanwhile (.disturb store)) ∉ earlier ++ .store call :: later)
    (makes : ((⟨server, store⟩ : Site).afterTurns earlier).store.Makes call sharing rootKey
      pieces) :
    ((⟨server, store⟩ : Site).afterTurns (earlier ++ .store call :: later)).CountsTo configured
      sharing rootKey pieces := by
  rcases makes.spec with ⟨notYet, dealt, made_eq⟩
  have sameStoreEarlier : ∀ store, .event (.meanwhile (.disturb store)) ∉ earlier :=
    fun store store_mem => sameStore store (List.mem_append_left _ store_mem)
  have sameStoreLater : ∀ store, .event (.meanwhile (.disturb store)) ∉ later :=
    fun store store_mem =>
      sameStore store (List.mem_append_right _ (List.mem_cons_of_mem _ store_mem))
  have empty : store.digests.row? = none := by
    by_contra hasRow
    rcases Option.ne_none_iff_exists'.mp hasRow with ⟨row, row_eq⟩
    have stillThere : ((⟨server, store⟩ : Site).afterTurns earlier).store.digests.row? = some row :=
      row?_afterTurns sameStoreEarlier row_eq
    rw [notYet] at stillThere
    cases stillThere
  apply countsTo dealt
  · rw [threshold_afterTurns, vault, Server.custody_of_start_unrecorded started empty]
    rfl
  · rw [afterTurns_append_cons]
    exact row?_afterTurns sameStoreLater made_eq

/-- If the root key is made before the server starts, then the threshold that it was made with
counts, whatever is configured. If it is made while the server runs, then the configured one
counts, also from that moment on. -/
theorem threshold_fixed_at_start {before : List (StoreCall Supply)}
    (started : Server.start configured allowList (store.afterAll before) = .ok server)
    {turns : List (Turn Supply)}
    (sameStore : ∀ store, .event (.meanwhile (.disturb store)) ∉ turns) :
    let opened : Site := ⟨server, store.afterAll before⟩
    (∀ earlier call later, before = earlier ++ call :: later →
      (store.afterAll earlier).Makes call sharing rootKey pieces →
      (opened.afterTurns turns).CountsTo sharing.threshold sharing rootKey pieces) ∧
    ∀ earlier call later, turns = earlier ++ .store call :: later →
      (opened.afterTurns earlier).store.Makes call sharing rootKey pieces →
      (opened.afterTurns turns).CountsTo configured sharing rootKey pieces := by
  intro opened
  refine ⟨?_, ?_⟩
  · rintro earlier call later rfl makes
    rcases makes.spec with ⟨_, dealt, made_eq⟩
    have row_eq : (store.afterAll (earlier ++ call :: later)).digests.row? =
        some (DigestStore.rowOf ⟨.ofKey rootKey, sharing⟩) := by
      rw [SharedStore.afterAll, List.foldl_append, List.foldl_cons]
      exact (SharedStore.effect_afterAll _ later).stays made_eq
    exact countsTo_of_recorded started dealt row_eq sameStore
  · rintro earlier call later rfl makes
    exact countsTo_of_made_later started sameStore makes

/-- Two of three pieces are enough for the root key. They unseal a server that starts once the key
is made, though nine are configured, and are too few for one that was there before, with three
configured. -/
theorem threshold_fixed_at_start_two_of_three :
    let store := SharedStore.ofStore (.memory none)
    let call : StoreCall ByteTape := .bootstrap ⟨3, 2⟩ ⟨[0x11, 0x07]⟩ []
    ∃ rootKey pieces late early, store.Makes call ⟨3, 2⟩ rootKey pieces ∧
      Server.start 9 [] (store.after call) = .ok late ∧ Server.start 3 [] store = .ok early ∧
      ∀ first ∈ pieces, ∀ second ∈ pieces, first ≠ second →
        (((⟨late, store.after call⟩ : Site).vault.afterAll [first]).submit second).1.message =
            "unsealed now" ∧
          ((((⟨early, store⟩ : Site).afterTurn (.store call)).vault.afterAll [first]).submit
              second).1.message = "collected 2 of 3 root key pieces" := by
  intro store call
  rcases @exists_bootstrap_of_isEmpty ByteTape _ (.memory none) ⟨3, 2⟩ rfl (by decide) (by decide)
    ⟨[0x11, 0x07]⟩ with ⟨pieces, after, result_eq, store_eq, _, holds⟩
  rw [← bootstrapAmid_nil] at result_eq store_eq
  have after_eq : store.after call = .ofStore after := store_eq
  have makes : store.Makes call ⟨3, 2⟩ _ pieces := ⟨_, _, rfl, rfl, result_eq⟩
  rcases Server.start_of_holds holds 9 [] with ⟨late, late_started, late_custody⟩
  rw [← after_eq] at late_started
  refine ⟨_, pieces, late, _, makes, late_started, rfl, ?_⟩
  intro first first_mem second second_mem different
  have one : KeyPiece.distinctCount pieces [first] = 1 :=
    KeyPiece.distinctCount_of_nodup (by simp) (by simp [first_mem])
  have two : KeyPiece.distinctCount pieces ([first] ++ [second]) = 2 :=
    KeyPiece.distinctCount_of_nodup (by simp [different]) (by simp [first_mem, second_mem])
  have admissible : ∀ given ∈ [first] ++ [second],
      given ∈ pieces ∨ given.size ≠ rootKeyPieceSize := by
    simp [first_mem, second_mem]
  have answers : (store.after call).Answers
      (.ofKey (generateKey (⟨[0x11, 0x07]⟩ : ByteTape)).1) := by
    rw [after_eq]
    exact ⟨rfl, holds.digest_eq, rfl⟩
  have noTurns : ∀ store, .event (.meanwhile (.disturb store)) ∉ ([] : List (Turn ByteTape)) := by
    simp
  have oneTurn : ∀ store, .event (.meanwhile (.disturb store)) ∉ [Turn.store call] := by
    simp
  have overRecord : Server.start 9 [] (store.afterAll [call]) = .ok late := late_started
  have overNone : Server.start 3 [] (store.afterAll ([] : List (StoreCall ByteTape))) = .ok _ := rfl
  have lateCounts := (threshold_fixed_at_start overRecord noTurns).1 [] call [] rfl makes
  have earlyCounts := (threshold_fixed_at_start overNone oneTurn).2 [] call [] rfl makes
  have locked : late.custody.keystore.isLoaded = false := by
    rw [late_custody]
    rfl
  have empty : late.custody.collector.held = [] := by
    rw [late_custody]
    rfl
  have lateAnswer :=
    lateCounts.ceremony locked empty _ answers (by decide) [first] second admissible
  have earlyAnswer := earlyCounts.ceremony rfl rfl _ answers (by decide) [first] second admissible
  refine ⟨?_, ?_⟩
  · exact (lateAnswer.completed (by rw [one]; decide) (by rw [two]; decide)).2.1
  · exact (earlyAnswer.collected second_mem 2 two.symm (by decide)).2

end

/-- Two pieces are configured when the server starts, and then a root key is made for which three
are needed. The server takes the first two for enough, finds that they give another key, drops
them and counts the third one as the first. -/
theorem running_server_misses_recorded_threshold :
    let store := SharedStore.ofStore (.memory none)
    let call : StoreCall ByteTape := .bootstrap ⟨3, 3⟩ ⟨List.replicate 34 1⟩ []
    ∃ server rootKey pieces, Server.start 2 [] store = .ok server ∧
      store.Makes call ⟨3, 3⟩ rootKey pieces ∧ pieces.length = 3 ∧ pieces.Nodup ∧
      (((⟨server, store⟩ : Site).afterTurn (.store call)).vault.answers
          (pieces.map Call.submit)).map UnsealOutcome.message =
        ["collected 1 of 2 root key pieces", "bad root key provided; all key pieces wiped",
          "collected 1 of 2 root key pieces"] := by
  let outcome := bootstrapAmid (SharedStore.ofStore (.memory none)) ⟨3, 3⟩
    (⟨List.replicate 34 1⟩ : ByteTape) []
  have result_eq : outcome.result = .ok (outcome.result.toOption.getD []) := by
    decide +kernel
  refine ⟨_, _, outcome.result.toOption.getD [], rfl, ⟨_, _, rfl, rfl, result_eq⟩, ?_, ?_, ?_⟩
  · decide +kernel
  · decide +kernel
  · decide +kernel

end Site

end KeyCustody
