import KeyCustody.Proofs.Custody.Ceremony

/-!
# No history locks genuine pieces out

A sealed server may hold anything its past has left in the collector. When the holders of a root key
submit enough of its pieces, one after the other and then once more, the collector either takes all of
the first round, which is too much for it, or it is emptied on the way (`exists_settled_or_kept`). From
the moment it is empty the rest is an unsealing ceremony, and what is left of the two rounds still holds
every piece.
-/

namespace KeyCustody

/-- A store that is within reach, holds a digest and is not used by anybody else at the moment. -/
structure SharedStore.Answers (store : SharedStore) (digest : RootKeyDigest) : Prop where
  reachable : store.isOffline = false
  digest_eq : store.digests.digest = .ok digest
  noRival : store.rivalKey = none

theorem SharedStore.Answers.fetchDigest_eq {store : SharedStore} {digest : RootKeyDigest}
    (answers : store.Answers digest) : store.fetchDigest = (⟨.ok digest, none⟩, store) := by
  cases store
  have reachable := answers.reachable
  have digest_eq := answers.digest_eq
  have noRival := answers.noRival
  simp only at reachable digest_eq noRival
  simp [fetchDigest, reachable, digest_eq, noRival]

namespace KeyPiece

variable {Supply : Type} [ByteSupply Supply]

theorem dealt_of_split {rootKey : ByteString} {sharing : Sharing} {supply : Supply}
    {pieces : List KeyPiece} (length_rootKey : rootKey.length = keySize)
    (split_ok : (split rootKey sharing supply).1 = .ok pieces) : Dealt pieces sharing rootKey := by
  rcases admissible_of_split split_ok with ⟨_, two_le, le_total⟩
  rcases exists_dealt_split length_rootKey two_le le_total supply with ⟨dealtPieces, _, split_eq, dealt⟩
  rw [split_eq] at split_ok
  cases split_ok
  exact dealt

/-- All of a selection of dealt pieces are counted once they have been submitted. -/
theorem length_le_distinctCount {dealt chosen submitted : List KeyPiece} (nodup : chosen.Nodup)
    (chosen_subset : ∀ piece ∈ chosen, piece ∈ dealt)
    (submitted_all : ∀ piece ∈ chosen, piece ∈ submitted) :
    chosen.length ≤ distinctCount dealt submitted := by
  rw [← List.toFinset_card_of_nodup nodup]
  apply Finset.card_le_card
  intro piece piece_mem
  rw [List.mem_toFinset] at piece_mem
  rw [Finset.mem_inter, List.mem_toFinset, List.mem_toFinset]
  exact ⟨chosen_subset piece piece_mem, submitted_all piece piece_mem⟩

end KeyPiece

namespace Custody.Unsealing

variable {custody after : Custody} {piece : KeyPiece} {fetch : DigestFetch}
  {outcome : UnsealOutcome} {digest : RootKeyDigest}

/-- With a store that answers, a piece of the right size unseals the server, empties the collector or is
held by a collector that still waits for others. -/
theorem of_answered (unsealing : Unsealing custody piece fetch outcome after)
    (size_eq : piece.size = rootKeyPieceSize) (fetch_eq : fetch = ⟨.ok digest, none⟩) :
    after.keystore.isLoaded = true ∨ after = custody.dropPieces ∨
      (custody.offer piece).collector.held.length < custody.collector.threshold.toNat ∧
        after = custody.offer piece := by
  subst fetch_eq
  cases unsealing with
  | previously loaded => exact Or.inl loaded
  | refused _ wrongSize => exact absurd size_eq wrongSize
  | waiting _ _ few => exact Or.inr (Or.inr ⟨few, rfl⟩)
  | unusable => exact Or.inr (Or.inl rfl)
  | unchecked _ _ _ _ answer => cases answer
  | mistaken => exact Or.inr (Or.inl rfl)
  | overtaken _ _ _ _ _ rival => cases rival
  | completed => exact Or.inl rfl

end Custody.Unsealing

namespace Vault

section

variable {vault : Vault} {digest : RootKeyDigest}

theorem afterAll_append (vault : Vault) (earlier later : List KeyPiece) :
    vault.afterAll (earlier ++ later) = (vault.afterAll earlier).afterAll later :=
  List.foldl_append

theorem isLoaded_afterAll (loaded : vault.custody.keystore.isLoaded = true)
    (submitted : List KeyPiece) : (vault.afterAll submitted).custody.keystore.isLoaded = true := by
  induction submitted using List.reverseRecOn with
  | nil => exact loaded
  | append_singleton earlier piece ih =>
      rw [afterAll_append_singleton, submit_of_isLoaded ih]
      exact ih

theorem store_submit_of_answers (answers : vault.store.Answers digest) (piece : KeyPiece) :
    (vault.submit piece).2.store = vault.store := by
  rw [store_submit, answers.fetchDigest_eq]
  split <;> rfl

/-- If a server is found unsealed after submissions that nobody interfered with, then one of these
submissions unsealed it. -/
theorem unsealedNow_mem_answers {submitted : List KeyPiece} (answers : vault.store.Answers digest)
    (locked : vault.custody.keystore.isLoaded = false)
    (loaded : (vault.afterAll submitted).custody.keystore.isLoaded = true) :
    .unsealedNow ∈ vault.answers (submitted.map Call.submit) := by
  induction submitted generalizing vault with
  | nil =>
      change vault.custody.keystore.isLoaded = true at loaded
      simp [locked] at loaded
  | cons piece rest ih =>
      rw [List.map_cons, Vault.answers, List.mem_append]
      by_cases now : (vault.submit piece).1 = .unsealedNow
      · left
        simp [answer?, now]
      · right
        have keystore_eq : (vault.submit piece).2.custody.keystore = vault.custody.keystore := by
          rw [(vault.unsealing_submit piece).keystore_eq now, answers.fetchDigest_eq]
          split <;> rfl
        apply ih
        · change (vault.submit piece).2.store.Answers digest
          rw [store_submit_of_answers answers]
          exact answers
        · change (vault.submit piece).2.custody.keystore.isLoaded = false
          rw [keystore_eq]
          exact locked
        · exact loaded

end

/-- A vault over a store that answers with the digest of a root key, which is unsealed or holds no
pieces. -/
inductive Settled (sharing : Sharing) (rootKey : ByteString) (vault : Vault) : Prop where
  | unsealed (loaded : vault.custody.keystore.isLoaded = true)
  | emptied (locked : vault.custody.keystore.isLoaded = false)
      (threshold_eq : vault.custody.collector.threshold = sharing.threshold)
      (held_eq : vault.custody.collector.held = [])
      (answers : vault.store.Answers (RootKeyDigest.ofKey rootKey))

/-- A sealed vault whose collector has taken every submitted piece beside what it held before. -/
structure Kept (sharing : Sharing) (rootKey : ByteString) (submitted : List KeyPiece)
    (vault : Vault) : Prop where
  locked : vault.custody.keystore.isLoaded = false
  threshold_eq : vault.custody.collector.threshold = sharing.threshold
  wellFormed : vault.custody.collector.WellFormed
  answers : vault.store.Answers (RootKeyDigest.ofKey rootKey)
  submitted_subset : ∀ piece ∈ submitted, piece ∈ vault.custody.collector.held
  room : submitted ≠ [] → vault.custody.collector.held.length < sharing.threshold.toNat

namespace Kept

variable {sharing : Sharing} {rootKey : ByteString} {earlier : List KeyPiece} {vault : Vault}
  {piece : KeyPiece}

theorem submit (kept : Kept sharing rootKey earlier vault)
    (size_eq : piece.size = rootKeyPieceSize) :
    Settled sharing rootKey (vault.submit piece).2 ∨
      Kept sharing rootKey (earlier ++ [piece]) (vault.submit piece).2 := by
  have stillAnswers : (vault.submit piece).2.store.Answers (RootKeyDigest.ofKey rootKey) := by
    rw [Vault.store_submit_of_answers kept.answers]
    exact kept.answers
  have fetch_eq := congrArg Prod.fst kept.answers.fetchDigest_eq
  rcases (vault.unsealing_submit piece).of_answered size_eq fetch_eq with
    loaded | dropped | ⟨few, custody_eq⟩
  · exact Or.inl (.unsealed loaded)
  · left
    apply Settled.emptied _ _ _ stillAnswers
    · rw [dropped]
      exact kept.locked
    · rw [dropped]
      exact kept.threshold_eq
    · rw [dropped]
      rfl
  · right
    have room : vault.custody.collector.held.length <
        vault.custody.collector.threshold.toNat := by
      by_contra full
      have isFull := (Collector.isFull_iff _).mpr (Nat.not_lt.mp full)
      rw [Custody.offer, Collector.withPiece_of_isFull isFull] at few
      exact full few
    refine ⟨?_, ?_, ?_, stillAnswers, ?_, ?_⟩
    · rw [custody_eq]
      exact kept.locked
    · rw [custody_eq, ← kept.threshold_eq]
      exact Collector.threshold_withPiece _ _
    · rw [custody_eq]
      exact kept.wellFormed.withPiece size_eq
    · intro other other_mem
      rw [custody_eq, Custody.offer, Collector.mem_held_withPiece_iff room]
      rcases List.mem_append.mp other_mem with old_mem | new_mem
      · exact Or.inl (kept.submitted_subset other old_mem)
      · exact Or.inr (List.mem_singleton.mp new_mem)
    · intro _
      rw [custody_eq, ← kept.threshold_eq]
      exact few

/-- Unless the vault is settled by one of several pieces, it keeps them all. -/
theorem exists_settled_or_kept (kept : Kept sharing rootKey [] vault) (submitted : List KeyPiece)
    (sizes : ∀ piece ∈ submitted, piece.size = rootKeyPieceSize) :
    (∃ earlier later, submitted = earlier ++ later ∧
        Settled sharing rootKey (vault.afterAll earlier)) ∨
      Kept sharing rootKey submitted (vault.afterAll submitted) := by
  induction submitted using List.reverseRecOn with
  | nil => exact Or.inr kept
  | append_singleton earlier piece ih =>
      have earlierSizes : ∀ given ∈ earlier, given.size = rootKeyPieceSize :=
        fun given given_mem => sizes given (List.mem_append_left _ given_mem)
      rcases ih earlierSizes with ⟨first, second, rfl, settled⟩ | keptEarlier
      · exact Or.inl ⟨first, second ++ [piece], List.append_assoc _ _ _, settled⟩
      · have size_eq := sizes piece (List.mem_append_right _ (List.mem_singleton_self piece))
        rw [Vault.afterAll_append_singleton]
        rcases keptEarlier.submit size_eq with settled | keptAll
        · refine Or.inl ⟨earlier ++ [piece], [], (List.append_nil _).symm, ?_⟩
          rw [Vault.afterAll_append_singleton]
          exact settled
        · exact Or.inr keptAll

end Kept

section

variable {pieces chosen : List KeyPiece} {sharing : Sharing} {rootKey : ByteString} {vault : Vault}

/-- A settled vault is unsealed after enough dealt pieces were submitted to it. -/
theorem Settled.isLoaded_afterAll (dealt : KeyPiece.Dealt pieces sharing rootKey)
    (settled : Settled sharing rootKey vault) {submitted : List KeyPiece}
    (submitted_subset : ∀ piece ∈ submitted, piece ∈ pieces) (nonzero : 0 < sharing.threshold.toNat)
    (enough : sharing.threshold.toNat ≤ KeyPiece.distinctCount pieces submitted) :
    (vault.afterAll submitted).custody.keystore.isLoaded = true := by
  cases settled with
  | unsealed loaded => exact Vault.isLoaded_afterAll loaded submitted
  | emptied locked threshold_eq held_eq answers =>
      have collecting : Collecting pieces sharing rootKey [] vault := by
        refine ⟨locked, threshold_eq, ?_, ?_, ?_, answers.fetchDigest_eq⟩
        · refine ⟨?_, ?_, ?_⟩
          · simp [held_eq]
          · simp [held_eq]
          · simp [held_eq]
        · simp [held_eq]
        · simpa [KeyPiece.distinctCount] using nonzero
      have admissible : ∀ piece ∈ submitted,
          piece ∈ pieces ∨ piece.size ≠ rootKeyPieceSize :=
        fun piece piece_mem => Or.inl (submitted_subset piece piece_mem)
      cases standing_afterAll dealt collecting submitted admissible with
      | waiting collecting => exact absurd collecting.few (Nat.not_lt.mpr enough)
      | finished _ keystore_eq => exact Keystore.isLoaded_of_eq keystore_eq

/-- Two rounds of enough dealt pieces unseal a server, whatever it held before. -/
theorem Kept.isLoaded_afterAll_twice (dealt : KeyPiece.Dealt pieces sharing rootKey)
    (kept : Kept sharing rootKey [] vault) (nodup : chosen.Nodup)
    (chosen_subset : ∀ piece ∈ chosen, piece ∈ pieces)
    (length_chosen : chosen.length = sharing.threshold.toNat)
    (nonzero : 0 < sharing.threshold.toNat) :
    (vault.afterAll (chosen ++ chosen)).custody.keystore.isLoaded = true := by
  have sizes : ∀ piece ∈ chosen, piece.size = rootKeyPieceSize :=
    fun piece piece_mem => dealt.size_eq piece (chosen_subset piece piece_mem)
  rcases kept.exists_settled_or_kept chosen sizes with ⟨earlier, later, split, settled⟩ | keptAll
  · have rounds : chosen ++ chosen = earlier ++ (later ++ chosen) := by
      conv_lhs =>
        rw [split]
      rw [List.append_assoc, ← split]
    rw [rounds, Vault.afterAll_append]
    have later_subset : ∀ piece ∈ later ++ chosen, piece ∈ pieces := by
      intro piece piece_mem
      apply chosen_subset
      rcases List.mem_append.mp piece_mem with later_mem | chosen_mem
      · rw [split]
        exact List.mem_append_right _ later_mem
      · exact chosen_mem
    apply settled.isLoaded_afterAll dealt later_subset nonzero
    rw [← length_chosen]
    exact KeyPiece.length_le_distinctCount nodup chosen_subset
      fun piece piece_mem => List.mem_append_right _ piece_mem
  · have nonempty : chosen ≠ [] := by
      rintro rfl
      exact absurd length_chosen (Nat.ne_of_lt nonzero)
    have room := keptAll.room nonempty
    have length_le := (nodup.subperm keptAll.submitted_subset).length_le
    omega

end

end Vault

/-- Whatever has happened to a server with the threshold of a sharing, if it is sealed and its store now
answers with the digest of the root key, then any threshold of the dealt pieces, submitted one after the
other twice, unseal it. -/
theorem genuine_pieces_unseal {Supply : Type} [ByteSupply Supply] {rootKey : ByteString}
    {sharing : Sharing} {supply : Supply} {pieces chosen : List KeyPiece} {store : SharedStore}
    {calls : List Call} (length_rootKey : rootKey.length = keySize)
    (split_ok : (KeyPiece.split rootKey sharing supply).1 = .ok pieces) (nodup : chosen.Nodup)
    (chosen_subset : ∀ piece ∈ chosen, piece ∈ pieces)
    (length_chosen : chosen.length = sharing.threshold.toNat)
    (isSealed : (History.run sharing.threshold store calls).vault.custody.status = .locked)
    (answers : (History.run sharing.threshold store calls).vault.store.Answers
      (RootKeyDigest.ofKey rootKey)) :
    let vault := (History.run sharing.threshold store calls).vault
    (∃ outcome ∈ vault.answers ((chosen ++ chosen).map Call.submit),
      outcome.message = "unsealed now" ∧ outcome.status = .unlocked) ∧
    (vault.afterAll (chosen ++ chosen)).custody.status = .unlocked := by
  intro vault
  have sound := History.sound_run sharing.threshold store calls
  have dealt := KeyPiece.dealt_of_split length_rootKey split_ok
  have two_le : 2 ≤ sharing.threshold.toNat := (KeyPiece.admissible_of_split split_ok).2.1
  have locked : vault.custody.keystore.isLoaded = false := by
    cases loaded : vault.custody.keystore.isLoaded with
    | false => rfl
    | true =>
        change vault.custody.status = .locked at isSealed
        simp [Custody.status, loaded] at isSealed
  have kept : Vault.Kept sharing rootKey [] vault := by
    refine ⟨locked, sound.threshold_eq, sound.wellFormed, answers, ?_, ?_⟩
    · simp
    · simp
  have loaded := kept.isLoaded_afterAll_twice dealt nodup chosen_subset length_chosen (by omega)
  refine ⟨⟨.unsealedNow, ?_, rfl, rfl⟩, ?_⟩
  · exact Vault.unsealedNow_mem_answers answers locked loaded
  · rw [Custody.status, if_pos loaded]

/-- A collector that an outage has left full of foreign pieces drops them when the first genuine piece
comes, and the two genuine pieces unseal the server in the second round. -/
theorem genuine_pieces_unseal_after_outage :
    let rootKey : ByteString := List.replicate 32 5
    let first : KeyPiece := ⟨1, 0x14 :: List.replicate 31 5, by decide, by decide⟩
    let second : KeyPiece := ⟨2, 0x27 :: List.replicate 31 5, by decide, by decide⟩
    let third : KeyPiece := ⟨3, 0x36 :: List.replicate 31 5, by decide, by decide⟩
    let stray : KeyPiece := ⟨7, List.replicate 32 1, by decide, by decide⟩
    let other : KeyPiece := ⟨9, List.replicate 32 2, by decide, by decide⟩
    let store := SharedStore.ofStore (.memory (some ⟨RootKeyDigest.ofKey rootKey, ⟨3, 2⟩⟩))
    let vault := (History.run 2 store [.submit stray, .disturb { store with isOffline := true },
      .submit other, .disturb store]).vault
    (KeyPiece.split rootKey ⟨3, 2⟩ (⟨[0x11]⟩ : ByteTape)).1 = .ok [first, second, third] ∧
      vault.custody.status = .locked ∧ vault.custody.collector.held = [stray, other] ∧
      (∃ outcome ∈ vault.answers ([third, first, third, first].map Call.submit),
        outcome.message = "unsealed now" ∧ outcome.status = .unlocked) ∧
      (vault.afterAll [third, first, third, first]).custody.status = .unlocked := by
  intro rootKey first second third stray other store vault
  have split_ok : (KeyPiece.split rootKey ⟨3, 2⟩ (⟨[0x11]⟩ : ByteTape)).1 =
      .ok [first, second, third] := by
    decide +kernel
  have isSealed : vault.custody.status = .locked := by
    decide +kernel
  have held_eq : vault.custody.collector.held = [stray, other] := by
    decide +kernel
  have unsealed := @genuine_pieces_unseal ByteTape _ rootKey ⟨3, 2⟩ ⟨[0x11]⟩ _ [third, first] store
    [.submit stray, .disturb { store with isOffline := true }, .submit other, .disturb store]
    (by decide) split_ok (by decide) (by simp) (by decide) isSealed ⟨rfl, rfl, rfl⟩
  exact ⟨split_ok, isSealed, held_eq, unsealed⟩

end KeyCustody
