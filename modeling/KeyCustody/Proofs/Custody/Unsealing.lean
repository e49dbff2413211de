import KeyCustody.Custody
import KeyCustody.Proofs.Collector

/-!
# What a submission can do

`Unsealing` lists the eight ways in which a submission can end, each with the conditions under which it
does, the reply and the state it leaves. Every submission ends in one of them, so later proofs go through
the cases of this relation and never open the functions.
-/

namespace KeyCustody

namespace RootKeyDigest

theorem bytes_injective {left right : RootKeyDigest} (same : left.bytes = right.bytes) :
    left = right := by
  cases left
  cases right
  cases same
  rfl

theorem isOf_iff {digest : RootKeyDigest} {rootKey : ByteString} :
    isOf digest.bytes rootKey = true ↔ ofKey rootKey = digest := by
  rw [isOf, beq_iff_eq]
  exact ⟨bytes_injective, congrArg bytes⟩

end RootKeyDigest

namespace Keystore

theorem isLoaded_of_eq {keystore : Keystore} {rootKey : ByteString}
    (keystore_eq : keystore = ⟨some rootKey⟩) : keystore.isLoaded = true := by
  rw [keystore_eq]
  rfl

theorem load_of_not_isLoaded {keystore : Keystore} (locked : keystore.isLoaded = false)
    (rootKey : ByteString) : keystore.load rootKey = .ok ⟨some rootKey⟩ := by
  have empty : keystore.rootKey = none := by simpa [isLoaded] using locked
  rw [load, empty]

/-- The keystore after someone else may have loaded a key into it. -/
def withRival (keystore : Keystore) : Option ByteString → Keystore
  | some rivalKey => keystore.loadIfEmpty rivalKey
  | none => keystore

/-- A loaded key is never replaced. -/
theorem load_of_isLoaded {keystore : Keystore} (loaded : keystore.isLoaded = true)
    (rootKey : ByteString) : keystore.load rootKey = .error .alreadyLoaded := by
  rcases Option.isSome_iff_exists.mp loaded with ⟨held, held_eq⟩
  rw [load, held_eq]

theorem withRival_of_isLoaded {keystore : Keystore} (loaded : keystore.isLoaded = true)
    (rivalKey : Option ByteString) : keystore.withRival rivalKey = keystore := by
  cases rivalKey with
  | none => rfl
  | some rivalKey =>
      rcases Option.isSome_iff_exists.mp loaded with ⟨held, held_eq⟩
      cases keystore
      simp only at held_eq
      simp [withRival, loadIfEmpty, held_eq]

end Keystore

namespace UnsealOutcome

/-- Whether the outcome depends on the recorded digest, so that it had to be fetched. -/
def asksStore : UnsealOutcome → Bool
  | validationError => true
  | badRootKey => true
  | storeError => true
  | unsealedNow => true
  | _ => false

/-- A message that tells no progress belongs to one outcome only. -/
theorem eq_of_message_eq {outcome other : UnsealOutcome} (same : outcome.message = other.message)
    (noProgress : ∀ held threshold, other ≠ .collecting held threshold) : outcome = other := by
  cases outcome with
  | collecting held threshold =>
      have firstLetters := congrArg (fun text => text.toList.head?) same
      cases other with
      | collecting otherHeld otherThreshold => exact absurd rfl (noProgress _ _)
      | _ => simp [message, Collector.progressMessage, toString] at firstLetters
  | _ =>
      cases other with
      | collecting otherHeld otherThreshold => exact absurd rfl (noProgress _ _)
      | _ => simp [message] at same ⊢

end UnsealOutcome

namespace Custody

/-- The custody after a piece of the right size was offered to the collector. -/
def offer (custody : Custody) (piece : KeyPiece) : Custody :=
  { custody with collector := custody.collector.withPiece piece }

/-- The custody after someone else may have loaded a key while the recorded digest was fetched. -/
def afterFetch (custody : Custody) (fetch : DigestFetch) : Custody :=
  { custody with keystore := custody.keystore.withRival fetch.rivalKey }

/-- The ways in which the submission of a piece can end, given what a fetch of the recorded digest
would bring. -/
inductive Unsealing (custody : Custody) (piece : KeyPiece) (fetch : DigestFetch) :
    UnsealOutcome → Custody → Prop where
  | previously (loaded : custody.keystore.isLoaded = true) :
      Unsealing custody piece fetch .unsealedPreviously custody
  | refused (locked : custody.keystore.isLoaded = false)
      (wrongSize : piece.size ≠ rootKeyPieceSize) :
      Unsealing custody piece fetch .collectFailed custody
  | waiting (locked : custody.keystore.isLoaded = false)
      (size_eq : piece.size = rootKeyPieceSize)
      (few : (custody.offer piece).collector.held.length < custody.collector.threshold.toNat) :
      Unsealing custody piece fetch
        (.collecting (custody.offer piece).collector.held.length custody.collector.threshold)
        (custody.offer piece)
  | unusable (locked : custody.keystore.isLoaded = false)
      (size_eq : piece.size = rootKeyPieceSize)
      (full : custody.collector.threshold.toNat ≤ (custody.offer piece).collector.held.length)
      {error : CombineError}
      (combined : KeyPiece.combine (custody.offer piece).collector.held = .error error) :
      Unsealing custody piece fetch .badPieces custody.dropPieces
  | unchecked (locked : custody.keystore.isLoaded = false)
      (size_eq : piece.size = rootKeyPieceSize)
      (full : custody.collector.threshold.toNat ≤ (custody.offer piece).collector.held.length)
      {rootKey : ByteString}
      (combined : KeyPiece.combine (custody.offer piece).collector.held = .ok rootKey)
      {error : CustodyError} (answer : fetch.answer = .error error) :
      Unsealing custody piece fetch .validationError ((custody.offer piece).afterFetch fetch)
  | mistaken (locked : custody.keystore.isLoaded = false)
      (size_eq : piece.size = rootKeyPieceSize)
      (full : custody.collector.threshold.toNat ≤ (custody.offer piece).collector.held.length)
      {rootKey : ByteString}
      (combined : KeyPiece.combine (custody.offer piece).collector.held = .ok rootKey)
      {digest : RootKeyDigest} (answer : fetch.answer = .ok digest)
      (other : RootKeyDigest.ofKey rootKey ≠ digest) :
      Unsealing custody piece fetch .badRootKey (custody.afterFetch fetch).dropPieces
  /-- Someone else loaded a key while the recorded digest was fetched. -/
  | overtaken (locked : custody.keystore.isLoaded = false)
      (size_eq : piece.size = rootKeyPieceSize)
      (full : custody.collector.threshold.toNat ≤ (custody.offer piece).collector.held.length)
      {rootKey rivalKey : ByteString}
      (combined : KeyPiece.combine (custody.offer piece).collector.held = .ok rootKey)
      (answer : fetch.answer = .ok (RootKeyDigest.ofKey rootKey))
      (rival : fetch.rivalKey = some rivalKey) :
      Unsealing custody piece fetch .storeError ((custody.offer piece).afterFetch fetch)
  | completed (locked : custody.keystore.isLoaded = false)
      (size_eq : piece.size = rootKeyPieceSize)
      (full : custody.collector.threshold.toNat ≤ (custody.offer piece).collector.held.length)
      {rootKey : ByteString}
      (combined : KeyPiece.combine (custody.offer piece).collector.held = .ok rootKey)
      (answer : fetch.answer = .ok (RootKeyDigest.ofKey rootKey))
      (noRival : fetch.rivalKey = none) :
      Unsealing custody piece fetch .unsealedNow ⟨⟨some rootKey⟩, custody.collector.reset⟩

namespace Unsealing

variable {custody after : Custody} {piece : KeyPiece} {fetch : DigestFetch}
  {outcome : UnsealOutcome} {rootKey : ByteString}

theorem collector_step (unsealing : Unsealing custody piece fetch outcome after) :
    custody.collector.Step (some piece) after.collector := by
  cases unsealing with
  | previously => exact .kept
  | refused => exact .kept
  | waiting _ size_eq => exact .offered rfl size_eq
  | unusable => exact .emptied
  | unchecked _ size_eq => exact .offered rfl size_eq
  | mistaken => exact .emptied
  | overtaken _ size_eq => exact .offered rfl size_eq
  | completed => exact .emptied

/-- No outcome but the successful one writes the keystore; only a rival may have done so while the
digest was fetched. -/
theorem keystore_eq (unsealing : Unsealing custody piece fetch outcome after)
    (notNow : outcome ≠ .unsealedNow) :
    after.keystore =
      if outcome.asksStore then custody.keystore.withRival fetch.rivalKey
      else custody.keystore := by
  cases unsealing with
  | completed => exact absurd rfl notNow
  | _ => rfl

theorem of_unsealedNow (unsealing : Unsealing custody piece fetch .unsealedNow after) :
    ∃ rootKey, piece.size = rootKeyPieceSize ∧
      custody.collector.threshold.toNat ≤ (custody.offer piece).collector.held.length ∧
      KeyPiece.combine (custody.offer piece).collector.held = .ok rootKey ∧
      fetch.answer = .ok (RootKeyDigest.ofKey rootKey) ∧ after.keystore = ⟨some rootKey⟩ := by
  cases unsealing with
  | completed _ size_eq full combined answer => exact ⟨_, size_eq, full, combined, answer, rfl⟩

theorem of_few (unsealing : Unsealing custody piece fetch outcome after)
    (locked : custody.keystore.isLoaded = false) (size_eq : piece.size = rootKeyPieceSize)
    (few : (custody.offer piece).collector.held.length < custody.collector.threshold.toNat) :
    outcome = .collecting (custody.offer piece).collector.held.length
        custody.collector.threshold ∧ after = custody.offer piece := by
  cases unsealing with
  | previously loaded => simp [locked] at loaded
  | refused _ wrongSize => exact absurd size_eq wrongSize
  | waiting => exact ⟨rfl, rfl⟩
  | unusable _ _ full => omega
  | unchecked _ _ full => omega
  | mistaken _ _ full => omega
  | overtaken _ _ full => omega
  | completed _ _ full => omega

/-- Enough pieces that give the recorded key unseal the server if no rival is faster. -/
theorem of_recovered (unsealing : Unsealing custody piece fetch outcome after)
    (locked : custody.keystore.isLoaded = false) (size_eq : piece.size = rootKeyPieceSize)
    (enough : custody.collector.threshold.toNat ≤ (custody.offer piece).collector.held.length)
    (recovered : KeyPiece.combine (custody.offer piece).collector.held = .ok rootKey)
    (fetch_eq : fetch = ⟨.ok (RootKeyDigest.ofKey rootKey), none⟩) :
    outcome = .unsealedNow ∧ after.keystore = ⟨some rootKey⟩ := by
  subst fetch_eq
  cases unsealing with
  | previously loaded => simp [locked] at loaded
  | refused _ wrongSize => exact absurd size_eq wrongSize
  | waiting _ _ few => omega
  | unusable _ _ _ combined => simp [recovered] at combined
  | unchecked _ _ _ _ answer => cases answer
  | mistaken _ _ _ combined answer other =>
      cases answer
      rw [recovered] at combined
      cases combined
      exact absurd rfl other
  | overtaken _ _ _ _ _ rival => cases rival
  | completed _ _ _ combined =>
      rw [recovered] at combined
      cases combined
      exact ⟨rfl, rfl⟩

end Unsealing

/-- Enough held pieces are combined; whether they give the right key is left open. -/
theorem rebuild_eq (custody : Custody) :
    custody.rebuild =
      if custody.collector.isFull then
        match KeyPiece.combine custody.collector.held with
        | .ok rootKey => .rebuilt rootKey custody
        | .error _ => .answered .badPieces custody.dropPieces
      else
        .answered (.collecting custody.collector.held.length custody.collector.threshold)
          custody := by
  unfold rebuild Collector.reconstruct
  by_cases full : custody.collector.isFull = true
  · rw [if_pos full, if_pos full]
    cases KeyPiece.combine custody.collector.held <;> rfl
  · rw [if_neg full, if_neg full]
    rfl

/-- While no key is loaded, a piece of the right size is offered to the collector, which is then asked
for a key. -/
theorem submit_eq (custody : Custody) (piece : KeyPiece) :
    custody.submit piece =
      if custody.keystore.isLoaded then .answered .unsealedPreviously custody
      else if piece.size ≠ rootKeyPieceSize then .answered .collectFailed custody
      else (custody.offer piece).rebuild := by
  unfold submit
  rw [Collector.collect_eq]
  by_cases loaded : custody.keystore.isLoaded = true
  · rw [if_pos loaded, if_pos loaded]
  rw [if_neg loaded, if_neg loaded]
  by_cases wrongSize : piece.size ≠ rootKeyPieceSize
  · rw [if_pos wrongSize, if_pos wrongSize]
  rw [if_neg wrongSize, if_neg wrongSize]
  by_cases full : custody.collector.isFull = true
  · rw [if_pos full, offer, Collector.withPiece_of_isFull full]
  · rw [if_neg full]
    rfl

section

variable {custody : Custody} {rootKey : ByteString} {fetch : DigestFetch}

theorem settle_of_error {error : CustodyError} (answer : fetch.answer = .error error) :
    custody.settle rootKey fetch = (.validationError, custody.afterFetch fetch) := by
  simp only [settle, answer, afterFetch]
  cases fetch.rivalKey <;> rfl

theorem settle_of_other {digest : RootKeyDigest} (answer : fetch.answer = .ok digest)
    (other : RootKeyDigest.ofKey rootKey ≠ digest) :
    custody.settle rootKey fetch = (.badRootKey, (custody.afterFetch fetch).dropPieces) := by
  simp only [settle, answer, afterFetch]
  rw [if_neg fun isOf => other (RootKeyDigest.isOf_iff.mp isOf)]
  cases fetch.rivalKey <;> rfl

/-- A rival key is never replaced by the rebuilt one, even if the rebuilt one is right. -/
theorem settle_of_rival {rivalKey : ByteString}
    (answer : fetch.answer = .ok (RootKeyDigest.ofKey rootKey))
    (rival : fetch.rivalKey = some rivalKey) :
    custody.settle rootKey fetch = (.storeError, custody.afterFetch fetch) := by
  simp only [settle, answer, afterFetch, rival]
  rw [if_pos (RootKeyDigest.isOf_iff.mpr rfl)]
  rfl

theorem settle_of_noRival (locked : custody.keystore.isLoaded = false)
    (answer : fetch.answer = .ok (RootKeyDigest.ofKey rootKey))
    (noRival : fetch.rivalKey = none) :
    custody.settle rootKey fetch =
      (.unsealedNow, ⟨⟨some rootKey⟩, custody.collector.reset⟩) := by
  simp only [settle, answer, noRival]
  rw [if_pos (RootKeyDigest.isOf_iff.mpr rfl), Keystore.load_of_not_isLoaded locked]
  rfl

end

/-- What becomes of a key rebuilt from the held pieces, whatever the fetch brings. -/
theorem unsealing_settle {custody : Custody} {piece : KeyPiece} {rootKey : ByteString}
    (locked : custody.keystore.isLoaded = false) (size_eq : piece.size = rootKeyPieceSize)
    (full : custody.collector.threshold.toNat ≤ (custody.offer piece).collector.held.length)
    (combined : KeyPiece.combine (custody.offer piece).collector.held = .ok rootKey)
    (fetch : DigestFetch) :
    Unsealing custody piece fetch ((custody.offer piece).settle rootKey fetch).1
      ((custody.offer piece).settle rootKey fetch).2 := by
  cases answer : fetch.answer with
  | error error =>
      rw [settle_of_error answer]
      exact .unchecked locked size_eq full combined answer
  | ok digest =>
      by_cases same : RootKeyDigest.ofKey rootKey = digest
      · subst same
        cases rival : fetch.rivalKey with
        | none =>
            have stillLocked : (custody.offer piece).keystore.isLoaded = false := locked
            rw [settle_of_noRival stillLocked answer rival, offer, Collector.reset_withPiece]
            exact .completed locked size_eq full combined answer rival
        | some rivalKey =>
            rw [settle_of_rival answer rival]
            exact .overtaken locked size_eq full combined answer rival
      · have dropped_eq : ((custody.offer piece).afterFetch fetch).dropPieces =
            (custody.afterFetch fetch).dropPieces := by
          simp only [dropPieces, afterFetch, offer, Collector.reset_withPiece]
        rw [settle_of_other answer same, dropped_eq]
        exact .mistaken locked size_eq full combined answer same

/-- Every submission ends in one of the ways of `Unsealing`. -/
theorem unsealing_unsealGiven (custody : Custody) (piece : KeyPiece) (fetch : DigestFetch) :
    Unsealing custody piece fetch (custody.unsealGiven piece fetch).1
      (custody.unsealGiven piece fetch).2 := by
  have threshold_eq : (custody.offer piece).collector.threshold = custody.collector.threshold :=
    Collector.threshold_withPiece _ _
  unfold unsealGiven
  rw [submit_eq]
  by_cases loaded : custody.keystore.isLoaded = true
  · rw [if_pos loaded]
    exact .previously loaded
  have locked : custody.keystore.isLoaded = false := by simpa using loaded
  rw [if_neg loaded]
  by_cases wrongSize : piece.size ≠ rootKeyPieceSize
  · rw [if_pos wrongSize]
    exact .refused locked wrongSize
  have size_eq : piece.size = rootKeyPieceSize := not_not.mp wrongSize
  rw [if_neg wrongSize, rebuild_eq]
  by_cases full : (custody.offer piece).collector.isFull = true
  · have enough := (Collector.isFull_iff _).mp full
    rw [threshold_eq] at enough
    rw [if_pos full]
    cases combined : KeyPiece.combine (custody.offer piece).collector.held with
    | error error =>
        have dropped_eq : (custody.offer piece).dropPieces = custody.dropPieces := by
          simp only [dropPieces, offer, Collector.reset_withPiece]
        dsimp only
        rw [dropped_eq]
        exact .unusable locked size_eq enough combined
    | ok rootKey => exact unsealing_settle locked size_eq enough combined fetch
  · have few := (Collector.isFull_iff _).not.mp full
    rw [threshold_eq, Nat.not_le] at few
    rw [if_neg full, threshold_eq]
    exact .waiting locked size_eq few

/-- What is answered before the fetch does not depend on the store. -/
theorem asksStore_of_submit {custody after : Custody} {piece : KeyPiece} {outcome : UnsealOutcome}
    (submitted : custody.submit piece = .answered outcome after) : outcome.asksStore = false := by
  rw [submit_eq, rebuild_eq] at submitted
  split at submitted
  · cases submitted
    rfl
  split at submitted
  · cases submitted
    rfl
  split at submitted
  · split at submitted
    · cases submitted
    · cases submitted
      rfl
  · cases submitted
    rfl

/-- What is answered after the fetch depends on the store. -/
theorem asksStore_settle (custody : Custody) (rootKey : ByteString) (fetch : DigestFetch) :
    (custody.settle rootKey fetch).1.asksStore = true := by
  simp only [settle]
  cases fetch.answer with
  | error error => rfl
  | ok digest =>
      dsimp only
      by_cases same : RootKeyDigest.isOf digest.bytes rootKey = true
      · rw [if_pos same]
        split <;> rfl
      · rw [if_neg same]
        rfl

/-- A submission against a store is one with what the store would answer. The digest is fetched if
and only if the outcome depends on it, and else the store is left as it is. -/
theorem unsealWith_eq (custody : Custody) (piece : KeyPiece) (store : SharedStore) :
    custody.unsealWith piece store =
      ((custody.unsealGiven piece store.fetchDigest.1).1,
        (custody.unsealGiven piece store.fetchDigest.1).2,
        if (custody.unsealGiven piece store.fetchDigest.1).1.asksStore then store.fetchDigest.2
        else store) := by
  unfold unsealWith unsealGiven
  cases submitted : custody.submit piece with
  | answered outcome after =>
      simp [asksStore_of_submit submitted]
  | rebuilt rootKey after =>
      simp [asksStore_settle]

end Custody

end KeyCustody
