import KeyCustody.Proofs.Custody.Run
import KeyCustody.Proofs.KeyPiece.Interpolation

/-!
# No unsealing without a quorum

Whatever happens to a vault, in whatever order, the server is unsealed only by as many different pieces
as the threshold, all of them given since the collector was last empty, which together give a key that
has the recorded digest. No other submission writes the keystore, and once the server is unsealed no
submission unseals it again until the key is wiped.
-/

namespace KeyCustody

namespace UnsealOutcome

/-- The message of a successful submission belongs to no other outcome. -/
theorem message_eq_unsealed_now_iff (outcome : UnsealOutcome) :
    outcome.message = "unsealed now" ↔ outcome = .unsealedNow :=
  ⟨fun same => eq_of_message_eq same (by simp), fun now => now ▸ rfl⟩

end UnsealOutcome

namespace Vault

theorem not_mem_answers_of_isLoaded {vault : Vault} {calls : List Call}
    (loaded : vault.custody.keystore.isLoaded = true) (noWipe : Call.wipe ∉ calls) :
    .unsealedNow ∉ vault.answers calls := by
  induction calls generalizing vault with
  | nil => exact List.not_mem_nil
  | cons call rest ih =>
      rw [List.mem_cons, not_or] at noWipe
      rcases noWipe with ⟨notWipe, noWipe⟩
      have stillLoaded : (vault.after call).custody.keystore.isLoaded = true := by
        rw [keystore_after_of_isLoaded loaded (Ne.symm notWipe)]
        exact loaded
      rw [answers, List.mem_append, not_or]
      refine ⟨?_, ih stillLoaded noWipe⟩
      cases call with
      | submit piece => simp [answer?, submit_of_isLoaded loaded]
      | _ => simp [answer?]

/-- Without a wipe at most one submission unseals the server. -/
theorem count_answers_le_one (vault : Vault) {calls : List Call} (noWipe : Call.wipe ∉ calls) :
    (vault.answers calls).count .unsealedNow ≤ 1 := by
  induction calls generalizing vault with
  | nil => exact Nat.zero_le 1
  | cons call rest ih =>
      rw [List.mem_cons, not_or] at noWipe
      rcases noWipe with ⟨notWipe, noWipe⟩
      rw [answers, List.count_append]
      by_cases now : vault.answer? call = some .unsealedNow
      · have loaded : (vault.after call).custody.keystore.isLoaded = true := by
          cases call with
          | submit piece =>
              have unsealing := vault.unsealing_submit piece
              rw [Option.some.inj now] at unsealing
              rcases unsealing.of_unsealedNow with ⟨_, _, _, _, _, keystore_eq⟩
              exact Keystore.isLoaded_of_eq keystore_eq
          | _ => cases now
        rw [List.count_eq_zero.mpr (not_mem_answers_of_isLoaded loaded noWipe), now]
        exact Nat.le_refl 1
      · have notHere : ((vault.answer? call).toList).count .unsealedNow = 0 := by
          apply List.count_eq_zero.mpr
          rwa [Option.mem_toList]
        rw [notHere, Nat.zero_add]
        exact ih _ noWipe

end Vault

/-- What stands behind a submission that unseals the server: the pieces used, and the key they give. -/
structure Quorum (threshold : UInt8) (history : History) (piece : KeyPiece)
    (used : List KeyPiece) (rootKey : ByteString) : Prop where
  two_le_threshold : 2 ≤ threshold
  length_used : used.length = threshold.toNat
  nodup_index : (used.map (·.index)).Nodup ∧ ∀ usedPiece ∈ used, usedPiece.index ≠ 0
  used_subset : ∀ usedPiece ∈ used, usedPiece ∈ history.recent ++ [piece]
  combined : KeyPiece.combine used = .ok rootKey
  length_rootKey : rootKey.length = keySize
  keystore_eq : (history.vault.submit piece).2.custody.keystore = ⟨some rootKey⟩
  /-- The key has the digest that this very submission fetched. -/
  fetched : history.vault.store.fetchDigest.1.answer = .ok (RootKeyDigest.ofKey rootKey) ∧
    (history.vault.submit piece).2.store = history.vault.store.fetchDigest.2

/-- A submission that unseals the server in a sound history has a quorum behind it. -/
theorem History.Sound.exists_quorum {threshold : UInt8} {history : History}
    (sound : history.Sound threshold) {piece : KeyPiece}
    (now : (history.vault.submit piece).1 = .unsealedNow) :
    ∃ used rootKey, Quorum threshold history piece used rootKey := by
  have unsealing := history.vault.unsealing_submit piece
  have store_eq := history.vault.store_submit piece
  rw [now] at unsealing store_eq
  rcases unsealing.of_unsealedNow with ⟨rootKey, size_eq, full, combined, answer, keystore_eq⟩
  have step : history.vault.custody.collector.Step (some piece)
      (history.vault.custody.offer piece).collector := .offered rfl size_eq
  have wellFormed := step.wellFormed sound.wellFormed
  have length_eq : (history.vault.custody.offer piece).collector.held.length =
      threshold.toNat := by
    have length_le := wellFormed.length_le
    rw [step.threshold_eq, sound.threshold_eq] at length_le
    rw [sound.threshold_eq] at full
    exact Nat.le_antisymm length_le full
  have combinable := KeyPiece.combinable_of_combine combined
  have length_rootKey : rootKey.length = keySize := by
    rcases combinable.exists_mem with ⟨held, held_mem⟩
    have held_size := wellFormed.size_eq held held_mem
    rw [KeyPiece.size_eq, KeyPiece.length_of_combine combined held held_mem] at held_size
    exact Nat.succ.inj held_size
  refine ⟨_, rootKey, ?_, length_eq, ⟨combinable.nodup_indices, ?_⟩,
    sound.held_subset_of_step step, combined, length_rootKey, keystore_eq, answer, store_eq⟩
  · rw [UInt8.le_iff_toNat_le, ← length_eq]
    exact combinable.two_le_length
  · intro usedPiece _
    exact usedPiece.index_ne_zero

/-- In every run of a vault the server is unsealed only by a quorum, no other submission writes the
keystore, and at most one submission unseals the server between two wipes. -/
theorem unsealed_only_by_quorum (threshold : UInt8) (store : SharedStore) (calls : List Call) :
    let history := History.run threshold store calls
    (∀ piece, (history.vault.submit piece).1.message = "unsealed now" →
      ∃ used rootKey, Quorum threshold history piece used rootKey) ∧
    (∀ piece, (history.vault.submit piece).1.message ≠ "unsealed now" →
      (history.vault.submit piece).2.custody.keystore =
        if (history.vault.submit piece).1.asksStore then
          history.vault.custody.keystore.withRival history.vault.store.fetchDigest.1.rivalKey
        else history.vault.custody.keystore) ∧
    ∀ next, Call.wipe ∉ next →
      ((history.vault.answers next).map (·.message)).count "unsealed now" ≤ 1 := by
  intro history
  refine ⟨?_, ?_, ?_⟩
  · intro piece now
    rw [UnsealOutcome.message_eq_unsealed_now_iff] at now
    exact (History.sound_run threshold store calls).exists_quorum now
  · intro piece notNow
    rw [Ne, UnsealOutcome.message_eq_unsealed_now_iff] at notNow
    exact (history.vault.unsealing_submit piece).keystore_eq notNow
  · intro next noWipe
    have count_eq : ((history.vault.answers next).map (·.message)).count "unsealed now" =
        (history.vault.answers next).count .unsealedNow := by
      rw [List.count_eq_countP, List.countP_map, List.count_eq_countP]
      apply List.countP_congr
      intro outcome _
      simp [UnsealOutcome.message_eq_unsealed_now_iff]
    rw [count_eq]
    exact history.vault.count_answers_le_one noWipe

/-- A second piece unseals a server with the threshold two, after the store was out of reach when the
piece was submitted for the first time. -/
theorem unsealed_only_by_quorum_two_of_two :
    let key : ByteString := List.replicate 32 5
    let first : KeyPiece := ⟨1, key, by decide, by decide⟩
    let second : KeyPiece := ⟨2, key, by decide, by decide⟩
    let store := SharedStore.ofStore (.memory (some ⟨RootKeyDigest.ofKey key, ⟨2, 2⟩⟩))
    let history := History.run 2 store
      [.submit first, .disturb { store with isOffline := true }, .submit second, .disturb store]
    (history.vault.submit second).1.message = "unsealed now" ∧
      ∃ used rootKey, Quorum 2 history second used rootKey := by
  intro key first second store history
  have now : (history.vault.submit second).1.message = "unsealed now" := by
    decide +kernel
  exact ⟨now, (unsealed_only_by_quorum 2 store _).1 second now⟩

end KeyCustody
