import KeyCustody.Proofs.Custody.Unsealing
import Mathlib.Data.List.Induction

/-!
# Runs of a vault

A vault is a custody with the store that it asks for the recorded digest. Operators submit pieces, other
parts of the server use the collector, the keystore and the store, and the store may fail or change by
itself, all in any order. A history is a vault with the pieces that its collector was given since it was
last empty, and every run of calls keeps it sound: what the collector holds was given to it.
-/

namespace KeyCustody

/-- A custody with the store that it asks for the recorded digest. -/
structure Vault where
  custody : Custody
  store : SharedStore

/-- What can happen to a vault. -/
inductive Call where
  | submit (piece : KeyPiece)
  /-- A piece is given to the collector, without an attempt to unseal. -/
  | collect (piece : KeyPiece)
  | reconstruct
  | reset
  | load (rootKey : ByteString)
  | get
  | wipe
  | record (record : DigestRecord)
  | fetchDigest
  | fetchSharing
  /-- The store goes out of reach or comes back, its content changes, or a rival is about to use it. -/
  | disturb (store : SharedStore)

/-- The piece that a call gives to the collector. -/
def Call.piece? : Call → Option KeyPiece
  | submit piece => some piece
  | collect piece => some piece
  | _ => none

namespace Vault

/-- The vault of a server that has just started. -/
def start (threshold : UInt8) (store : SharedStore) : Vault := ⟨Custody.start threshold, store⟩

/-- Submits a piece: the outcome, and the vault afterwards. -/
def submit (vault : Vault) (piece : KeyPiece) : UnsealOutcome × Vault :=
  let (outcome, custody, store) := vault.custody.unsealWith piece vault.store
  (outcome, ⟨custody, store⟩)

/-- The vault after a call. A call that fails leaves it as it is. -/
def after (vault : Vault) : Call → Vault
  | .submit piece => (vault.submit piece).2
  | .collect piece =>
    match vault.custody.collector.collect piece with
    | .ok collector => { vault with custody := { vault.custody with collector } }
    | .error _ => vault
  | .reconstruct => vault
  | .reset => { vault with custody := vault.custody.dropPieces }
  | .load rootKey =>
    match vault.custody.keystore.load rootKey with
    | .ok keystore => { vault with custody := { vault.custody with keystore } }
    | .error _ => vault
  | .get => vault
  | .wipe =>
    { vault with custody := { vault.custody with keystore := vault.custody.keystore.wipe } }
  | .record record => { vault with store := (vault.store.store record).2 }
  | .fetchDigest =>
    ⟨vault.custody.afterFetch vault.store.fetchDigest.1, vault.store.fetchDigest.2⟩
  | .fetchSharing => vault
  | .disturb store => { vault with store }

/-- The answer to a call, if it is the submission of a piece. -/
def answer? (vault : Vault) : Call → Option UnsealOutcome
  | .submit piece => some (vault.submit piece).1
  | _ => none

/-- The answers to the submissions among the calls, in their order. -/
def answers : Vault → List Call → List UnsealOutcome
  | _, [] => []
  | vault, call :: rest => (vault.answer? call).toList ++ answers (vault.after call) rest

/-- Every submission to a vault ends in one of the ways of `Custody.Unsealing`. -/
theorem unsealing_submit (vault : Vault) (piece : KeyPiece) :
    Custody.Unsealing vault.custody piece vault.store.fetchDigest.1 (vault.submit piece).1
      (vault.submit piece).2.custody := by
  rw [submit, Custody.unsealWith_eq]
  exact Custody.unsealing_unsealGiven _ _ _

/-- The digest is fetched if and only if the outcome depends on it. -/
theorem store_submit (vault : Vault) (piece : KeyPiece) :
    (vault.submit piece).2.store =
      if (vault.submit piece).1.asksStore then vault.store.fetchDigest.2 else vault.store := by
  rw [submit, Custody.unsealWith_eq]

/-- A submission to an unsealed server changes nothing and unseals nothing. -/
theorem submit_of_isLoaded {vault : Vault} (loaded : vault.custody.keystore.isLoaded = true)
    (piece : KeyPiece) : vault.submit piece = (.unsealedPreviously, vault) := by
  rw [submit, Custody.unsealWith, Custody.submit_eq, if_pos loaded]

theorem collector_step (vault : Vault) (call : Call) :
    vault.custody.collector.Step call.piece? (vault.after call).custody.collector := by
  cases call with
  | submit piece => exact (vault.unsealing_submit piece).collector_step
  | collect piece =>
      rw [after, Collector.collect_eq]
      by_cases wrongSize : piece.size ≠ rootKeyPieceSize
      · rw [if_pos wrongSize]
        exact .kept
      rw [if_neg wrongSize]
      by_cases full : vault.custody.collector.isFull = true
      · rw [if_pos full]
        exact .kept
      · rw [if_neg full]
        exact .offered rfl (not_not.mp wrongSize)
  | load rootKey =>
      rw [after]
      split <;> exact .kept
  | reset => exact .emptied
  | _ => exact .kept

/-- A loaded key stays as it is until it is wiped. -/
theorem keystore_after_of_isLoaded {vault : Vault} {call : Call}
    (loaded : vault.custody.keystore.isLoaded = true) (notWipe : call ≠ .wipe) :
    (vault.after call).custody.keystore = vault.custody.keystore := by
  cases call with
  | submit piece => rw [after, submit_of_isLoaded loaded]
  | collect piece =>
      rw [after]
      split <;> rfl
  | load rootKey => rw [after, Keystore.load_of_isLoaded loaded]
  | wipe => exact absurd rfl notWipe
  | fetchDigest => exact Keystore.withRival_of_isLoaded loaded _
  | _ => rfl

end Vault

/-- A vault with the pieces that its collector was given since it was last empty. -/
structure History where
  vault : Vault
  recent : List KeyPiece

namespace History

/-- A vault at its start. -/
def start (threshold : UInt8) (store : SharedStore) : History := ⟨Vault.start threshold store, []⟩

/-- The history after a call. It starts anew whenever the collector holds nothing. -/
def after (history : History) (call : Call) : History :=
  let vault := history.vault.after call
  ⟨vault, if vault.custody.collector.held = [] then [] else history.recent ++ call.piece?.toList⟩

/-- The history after calls, from the start. -/
def run (threshold : UInt8) (store : SharedStore) (calls : List Call) : History :=
  calls.foldl after (start threshold store)

/-- The collector of a sound history is well formed, has the threshold that it was made with, and holds
nothing but pieces that it was given since it was last empty. -/
structure Sound (threshold : UInt8) (history : History) : Prop where
  wellFormed : history.vault.custody.collector.WellFormed
  threshold_eq : history.vault.custody.collector.threshold = threshold
  held_subset : ∀ piece ∈ history.vault.custody.collector.held, piece ∈ history.recent

theorem sound_start (threshold : UInt8) (store : SharedStore) :
    (start threshold store).Sound threshold where
  wellFormed := Collector.wellFormed_empty threshold
  threshold_eq := rfl
  held_subset _ held_mem := absurd held_mem List.not_mem_nil

/-- What the collector holds after a step was given to it. -/
theorem Sound.held_subset_of_step {threshold : UInt8} {history : History}
    (sound : history.Sound threshold) {given : Option KeyPiece} {after : Collector}
    (step : history.vault.custody.collector.Step given after) :
    ∀ held ∈ after.held, held ∈ history.recent ++ given.toList := by
  intro held held_mem
  rcases step.held_subset held_mem with old_mem | rfl
  · exact List.mem_append_left _ (sound.held_subset held old_mem)
  · exact List.mem_append_right _ (List.mem_singleton_self held)

theorem Sound.after {threshold : UInt8} {history : History} (sound : history.Sound threshold)
    (call : Call) : (history.after call).Sound threshold where
  wellFormed := (history.vault.collector_step call).wellFormed sound.wellFormed
  threshold_eq := (history.vault.collector_step call).threshold_eq.trans sound.threshold_eq
  held_subset piece held_mem := by
    change piece ∈ (history.vault.after call).custody.collector.held at held_mem
    rw [History.after]
    dsimp only
    rw [if_neg (List.ne_nil_of_mem held_mem)]
    exact sound.held_subset_of_step (history.vault.collector_step call) piece held_mem

/-- Every run is sound. -/
theorem sound_run (threshold : UInt8) (store : SharedStore) (calls : List Call) :
    (run threshold store calls).Sound threshold := by
  induction calls using List.reverseRecOn with
  | nil => exact sound_start threshold store
  | append_singleton earlier call ih =>
      rw [run, List.foldl_concat]
      exact ih.after call

end History

end KeyCustody
