import KeyCustody.Proofs.Custody.Unsealing

/-!
# An outage of the store loses nothing

A submission that makes the pieces enough while the store is out of reach is answered with a
validation error, and the full set of pieces stays (`AwaitsDigest`). From then on the collector
takes no piece, so what is submitted no longer matters: as long as the store fails nothing
changes, and the first submission that finds it working again has the outcome that the submission
before the outage would have had.
-/

namespace KeyCustody

/-- A store that fails: a fetch of the recorded digest brings an error, and nobody loads a key
meanwhile. -/
def SharedStore.Fails (store : SharedStore) : Prop :=
  ∃ error, store.fetchDigest = (⟨.error error, none⟩, store)

theorem SharedStore.fails_of_isOffline {store : SharedStore} (offline : store.isOffline = true) :
    store.Fails :=
  ⟨unreachable, by rw [fetchDigest, if_pos offline]⟩

namespace Custody

/-- The custody after submissions, each against the store as it is at that moment. -/
def afterSubmissions (custody : Custody) (submissions : List (KeyPiece × SharedStore)) : Custody :=
  submissions.foldl (fun custody given => (custody.unsealWith given.1 given.2).2.1) custody

/-- A sealed custody with a full collector whose pieces give a key: only the recorded digest is
missing. -/
structure AwaitsDigest (custody : Custody) (rootKey : ByteString) : Prop where
  locked : custody.keystore.isLoaded = false
  full : custody.collector.isFull = true
  combined : KeyPiece.combine custody.collector.held = .ok rootKey

section

variable {custody : Custody} {piece : KeyPiece} {rootKey : ByteString} {store : SharedStore}

/-- A submission that makes the pieces enough is settled by what the fetch brings. -/
theorem unsealGiven_of_awaitsDigest (awaits : (custody.offer piece).AwaitsDigest rootKey)
    (size_eq : piece.size = rootKeyPieceSize) (fetch : DigestFetch) :
    custody.unsealGiven piece fetch = (custody.offer piece).settle rootKey fetch := by
  have notLoaded : ¬custody.keystore.isLoaded = true := by
    have locked : custody.keystore.isLoaded = false := awaits.locked
    simp [locked]
  rw [unsealGiven, submit_eq, if_neg notLoaded, if_neg (not_not_intro size_eq), rebuild_eq,
    if_pos awaits.full, awaits.combined]

/-- A full collector does not take the piece, so any piece of the right size leads to the same. -/
theorem AwaitsDigest.unsealWith (awaits : custody.AwaitsDigest rootKey)
    (size_eq : piece.size = rootKeyPieceSize) (store : SharedStore) :
    custody.unsealWith piece store =
      ((custody.settle rootKey store.fetchDigest.1).1,
        (custody.settle rootKey store.fetchDigest.1).2, store.fetchDigest.2) := by
  have offer_eq : custody.offer piece = custody := by
    rw [offer, Collector.withPiece_of_isFull awaits.full]
  have offerAwaits : (custody.offer piece).AwaitsDigest rootKey := by
    rw [offer_eq]
    exact awaits
  rw [unsealWith_eq, unsealGiven_of_awaitsDigest offerAwaits size_eq, offer_eq,
    if_pos (asksStore_settle _ _ _)]

/-- While the store fails nothing changes. -/
theorem AwaitsDigest.unsealWith_of_fails (awaits : custody.AwaitsDigest rootKey)
    (size_eq : piece.size = rootKeyPieceSize) (fails : store.Fails) :
    custody.unsealWith piece store = (.validationError, custody, store) := by
  rcases fails with ⟨error, fetch_eq⟩
  rw [awaits.unsealWith size_eq, fetch_eq, settle_of_error rfl]
  rfl

theorem AwaitsDigest.afterSubmissions_eq (awaits : custody.AwaitsDigest rootKey)
    {outage : List (KeyPiece × SharedStore)}
    (outage_fails : ∀ given ∈ outage, given.1.size = rootKeyPieceSize ∧ given.2.Fails) :
    custody.afterSubmissions outage = custody := by
  induction outage with
  | nil => rfl
  | cons given rest ih =>
      rcases outage_fails given List.mem_cons_self with ⟨size_eq, fails⟩
      rw [afterSubmissions, List.foldl_cons, awaits.unsealWith_of_fails size_eq fails]
      exact ih fun later later_mem => outage_fails later (List.mem_cons_of_mem given later_mem)

/-- What a submission leaves that was answered with a validation error: the piece was offered, and
the digest is awaited. -/
theorem exists_awaitsDigest (fails : store.Fails)
    (invalid : (custody.unsealWith piece store).1 = .validationError) :
    ∃ rootKey, (custody.unsealWith piece store).2.1 = custody.offer piece ∧
      (custody.offer piece).AwaitsDigest rootKey ∧ piece.size = rootKeyPieceSize := by
  rcases fails with ⟨error, fetch_eq⟩
  have unsealing := unsealing_unsealGiven custody piece store.fetchDigest.1
  rw [unsealWith_eq] at invalid ⊢
  dsimp only at invalid ⊢
  rw [fetch_eq] at invalid unsealing ⊢
  generalize custody.unsealGiven piece ⟨.error error, none⟩ = result at invalid unsealing ⊢
  rcases result with ⟨outcome, after⟩
  subst invalid
  cases unsealing with
  | unchecked locked size_eq full combined =>
      refine ⟨_, rfl, ⟨locked, ?_, combined⟩, size_eq⟩
      rw [Collector.isFull_iff, offer, Collector.threshold_withPiece]
      exact full

end

/-- After a submission was answered with a validation error because the store failed, further
pieces get the same answer and change nothing as long as the store fails. The next piece that is
submitted when the store answers again has the outcome that the first one would have had, and
leaves the same custody and store. -/
theorem outage_is_transparent {custody : Custody} {first : KeyPiece} {failing : SharedStore}
    (fails : failing.Fails)
    (failed : (custody.unsealWith first failing).1.message =
      "internal error during root key validation")
    {outage : List (KeyPiece × SharedStore)}
    (outage_fails : ∀ given ∈ outage, given.1.size = rootKeyPieceSize ∧ given.2.Fails) :
    let held := (custody.unsealWith first failing).2.1
    (∀ earlier piece store later, outage = earlier ++ (piece, store) :: later →
      ((held.afterSubmissions earlier).unsealWith piece store).1.message =
          "internal error during root key validation" ∧
        ((held.afterSubmissions earlier).unsealWith piece store).2 = (held, store)) ∧
    ∀ next answering, next.size = rootKeyPieceSize →
      (held.afterSubmissions outage).unsealWith next answering =
        custody.unsealWith first answering := by
  intro held
  have invalid : (custody.unsealWith first failing).1 = .validationError :=
    UnsealOutcome.eq_of_message_eq failed (by simp)
  rcases exists_awaitsDigest fails invalid with ⟨rootKey, held_eq, awaits, size_eq⟩
  have heldAwaits : held.AwaitsDigest rootKey := by
    rw [show held = custody.offer first from held_eq]
    exact awaits
  refine ⟨?_, ?_⟩
  · rintro earlier piece store later rfl
    have earlier_fails : ∀ given ∈ earlier, given.1.size = rootKeyPieceSize ∧ given.2.Fails :=
      fun given given_mem => outage_fails given (List.mem_append_left _ given_mem)
    rcases outage_fails (piece, store) (List.mem_append_right _ List.mem_cons_self) with
      ⟨piece_size_eq, store_fails⟩
    rw [heldAwaits.afterSubmissions_eq earlier_fails,
      heldAwaits.unsealWith_of_fails piece_size_eq store_fails]
    exact ⟨rfl, rfl⟩
  · intro next answering next_size_eq
    rw [heldAwaits.afterSubmissions_eq outage_fails, heldAwaits.unsealWith next_size_eq,
      unsealWith_eq, unsealGiven_of_awaitsDigest awaits size_eq, if_pos (asksStore_settle _ _ _),
      show held = custody.offer first from held_eq]

/-- The second of two pieces comes during an outage, then a piece that is held already and a stray
one. When the store is back, another stray piece unseals the server, as the second piece would
have. -/
theorem outage_is_transparent_before_stray :
    let rootKey : ByteString := List.replicate 32 5
    let first : KeyPiece := ⟨1, rootKey, by decide, by decide⟩
    let second : KeyPiece := ⟨2, rootKey, by decide, by decide⟩
    let stray : KeyPiece := ⟨9, List.replicate 32 1, by decide, by decide⟩
    let store := SharedStore.ofStore (.memory (some ⟨RootKeyDigest.ofKey rootKey, ⟨2, 2⟩⟩))
    let offline := { store with isOffline := true }
    let custody := ((start 2).unsealWith first store).2.1
    let held := (custody.unsealWith second offline).2.1
    (custody.unsealWith second offline).1.message = "internal error during root key validation" ∧
      (custody.unsealWith second store).1.message = "unsealed now" ∧
      ((held.unsealWith first offline).2 = (held, offline) ∧
        (held.afterSubmissions [(first, offline), (stray, offline)]).unsealWith stray store =
          custody.unsealWith second store) := by
  intro rootKey first second stray store offline custody held
  have fails : offline.Fails := SharedStore.fails_of_isOffline rfl
  have failed : (custody.unsealWith second offline).1.message =
      "internal error during root key validation" := by
    decide +kernel
  have now : (custody.unsealWith second store).1.message = "unsealed now" := by
    decide +kernel
  have outage_fails : ∀ given ∈ [(first, offline), (stray, offline)],
      given.1.size = rootKeyPieceSize ∧ given.2.Fails := by
    simp [fails, first, stray, rootKey, rootKeyPieceSize, keySize]
  rcases outage_is_transparent fails failed outage_fails with ⟨unchanged, same⟩
  refine ⟨failed, now, (unchanged [] first offline [(stray, offline)] rfl).2, ?_⟩
  exact same stray store (by decide)

end Custody

end KeyCustody
