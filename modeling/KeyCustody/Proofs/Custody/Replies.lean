import KeyCustody.Proofs.Custody.Leftover
import KeyCustody.Proofs.Custody.Run

/-!
# The state is what the reply says

Operators see nothing of a server but the replies to their submissions. While nobody else loads a key,
every reply tells the truth about the state that the submission leaves: whether a key is loaded, how many
pieces are held, and whether the pieces held before are still there.
-/

namespace KeyCustody

/-! ## Reading a progress line -/

namespace Collector

/-- A number in a text ends at the first blank. -/
theorem toDigits_append_blank_inj {left right : Nat} {leftRest rightRest : List Char}
    (same : Nat.toDigits 10 left ++ ' ' :: leftRest = Nat.toDigits 10 right ++ ' ' :: rightRest) :
    left = right ∧ leftRest = rightRest := by
  have takeWhile_eq (number : Nat) (rest : List Char) :
      (Nat.toDigits 10 number ++ ' ' :: rest).takeWhile Char.isDigit = Nat.toDigits 10 number := by
    have digits : ∀ digit ∈ Nat.toDigits 10 number, digit.isDigit = true :=
      fun digit => Nat.isDigit_of_mem_toDigits (by decide) (by decide)
    simp [List.takeWhile_append_of_pos digits]
  have digits_eq := congrArg (List.takeWhile Char.isDigit) same
  rw [takeWhile_eq, takeWhile_eq] at digits_eq
  have numbers_eq := congrArg (fun digits => Nat.ofDigitChars 10 digits 0) digits_eq
  simp only [Nat.ofDigitChars_ten_toDigits] at numbers_eq
  subst numbers_eq
  simpa using same

/-- A progress line shows both of its numbers. -/
theorem progressMessage_inj {held other : Nat} {threshold otherThreshold : UInt8}
    (same : progressMessage held threshold = progressMessage other otherThreshold) :
    held = other ∧ threshold = otherThreshold := by
  have letters := congrArg String.toList same
  simp [progressMessage, toString] at letters
  rcases toDigits_append_blank_inj letters with ⟨held_eq, rest_eq⟩
  simp only [List.cons.injEq, true_and] at rest_eq
  rcases toDigits_append_blank_inj rest_eq with ⟨threshold_eq, _⟩
  exact ⟨held_eq, UInt8.toNat_inj.mp threshold_eq⟩

/-- A piece that is offered comes after those that are held. -/
theorem prefix_held_withPiece (collector : Collector) (piece : KeyPiece) :
    collector.held <+: (collector.withPiece piece).held := by
  unfold withPiece
  split
  · exact List.prefix_refl _
  · exact List.prefix_append _ _

end Collector

theorem UnsealOutcome.eq_collecting_of_message_eq {outcome : UnsealOutcome} {held : Nat}
    {threshold : UInt8} (same : outcome.message = Collector.progressMessage held threshold) :
    outcome = .collecting held threshold := by
  cases outcome with
  | collecting count needed =>
      rcases Collector.progressMessage_inj same with ⟨rfl, rfl⟩
      rfl
  | _ =>
      have firstLetters := congrArg (fun text => text.toList.head?) same
      simp [message, Collector.progressMessage, toString] at firstLetters

namespace Custody

/-- What the reply to a submission says about the state that it leaves. -/
structure TellsState (before : Custody) (threshold : UInt8) (outcome : UnsealOutcome)
    (after : Custody) : Prop where
  unlocked_iff : outcome.status = .unlocked ↔ after.keystore.isLoaded = true
  written : after.keystore ≠ before.keystore → outcome.message = "unsealed now"
  unchanged : outcome.message = "unsealed previously" ∨
    outcome.message = "failed to collect provided key piece" → after = before
  progress : ∀ held needed, outcome.message = Collector.progressMessage held needed →
    needed = threshold ∧ held < threshold.toNat ∧ after.collector.held.length = held ∧
      before.collector.held <+: after.collector.held
  complete : outcome.message = "internal error during root key validation" →
    after.collector.held.length = threshold.toNat ∧
      before.collector.held <+: after.collector.held
  wiped : outcome.message = "bad root key pieces collected; all key pieces wiped" ∨
    outcome.message = "bad root key provided; all key pieces wiped" ∨
    outcome.message = "unsealed now" → after.collector.held = []
  noStoreError : outcome.message ≠ "internal error during root key store"

namespace Unsealing

variable {custody after : Custody} {piece : KeyPiece} {fetch : DigestFetch}
  {outcome : UnsealOutcome}

theorem unlocked_iff (unsealing : Unsealing custody piece fetch outcome after)
    (noRival : fetch.rivalKey = none) :
    outcome.status = .unlocked ↔ after.keystore.isLoaded = true := by
  cases unsealing with
  | previously loaded => simp [UnsealOutcome.status, loaded]
  | refused locked => simp [UnsealOutcome.status, locked]
  | waiting locked => simp [UnsealOutcome.status, offer, locked]
  | unusable locked => simp [UnsealOutcome.status, dropPieces, locked]
  | unchecked locked =>
      simp [UnsealOutcome.status, afterFetch, offer, noRival, Keystore.withRival, locked]
  | mistaken locked =>
      simp [UnsealOutcome.status, dropPieces, afterFetch, noRival, Keystore.withRival, locked]
  | overtaken _ _ _ _ _ rival => simp [noRival] at rival
  | completed => simp [UnsealOutcome.status, Keystore.isLoaded]

theorem keystore_eq_of_noRival (unsealing : Unsealing custody piece fetch outcome after)
    (noRival : fetch.rivalKey = none) (notNow : outcome ≠ .unsealedNow) :
    after.keystore = custody.keystore := by
  rw [unsealing.keystore_eq notNow, noRival]
  split <;> rfl

theorem held_of_validationError (unsealing : Unsealing custody piece fetch .validationError after)
    (wellFormed : custody.collector.WellFormed) :
    after.collector.held.length = custody.collector.threshold.toNat ∧
      custody.collector.held <+: after.collector.held := by
  cases unsealing with
  | unchecked _ size_eq full combined =>
      exact ⟨(held_of_combine wellFormed size_eq full combined).2,
        custody.collector.prefix_held_withPiece piece⟩

theorem held_of_collecting {held : Nat} {needed : UInt8}
    (unsealing : Unsealing custody piece fetch (.collecting held needed) after) :
    needed = custody.collector.threshold ∧ held < custody.collector.threshold.toNat ∧
      after.collector.held.length = held ∧ custody.collector.held <+: after.collector.held := by
  cases unsealing with
  | waiting _ _ few => exact ⟨rfl, few, rfl, custody.collector.prefix_held_withPiece piece⟩

/-- While nobody else loads a key, the reply says what has become of the state. -/
theorem tellsState (unsealing : Unsealing custody piece fetch outcome after)
    (wellFormed : custody.collector.WellFormed) (noRival : fetch.rivalKey = none) :
    TellsState custody custody.collector.threshold outcome after where
  unlocked_iff := unsealing.unlocked_iff noRival
  written changed := by
    by_contra otherMessage
    apply changed
    apply unsealing.keystore_eq_of_noRival noRival
    rintro rfl
    exact otherMessage rfl
  unchanged := by
    rintro (previously | refused)
    · cases (UnsealOutcome.eq_of_message_eq previously (by simp) : outcome = .unsealedPreviously)
      cases unsealing
      rfl
    · cases (UnsealOutcome.eq_of_message_eq refused (by simp) : outcome = .collectFailed)
      cases unsealing
      rfl
  progress := by
    intro held needed collecting
    cases UnsealOutcome.eq_collecting_of_message_eq collecting
    exact unsealing.held_of_collecting
  complete := by
    intro invalid
    cases (UnsealOutcome.eq_of_message_eq invalid (by simp) : outcome = .validationError)
    exact unsealing.held_of_validationError wellFormed
  wiped := by
    rintro (unusable | mistaken | now)
    · cases (UnsealOutcome.eq_of_message_eq unusable (by simp) : outcome = .badPieces)
      cases unsealing
      rfl
    · cases (UnsealOutcome.eq_of_message_eq mistaken (by simp) : outcome = .badRootKey)
      cases unsealing
      rfl
    · cases (UnsealOutcome.eq_of_message_eq now (by simp) : outcome = .unsealedNow)
      cases unsealing
      rfl
  noStoreError := by
    intro failed
    cases (UnsealOutcome.eq_of_message_eq failed (by simp) : outcome = .storeError)
    cases unsealing with
    | overtaken _ _ _ _ _ rival => simp [noRival] at rival

end Unsealing

end Custody

/-- Whatever has happened to a server, if nobody else loads a key during a submission, then the reply says
what has become of the state, and the store matters only through what it answers. -/
theorem replies_tell_state (threshold : UInt8) (store : SharedStore) (calls : List Call) :
    let custody := (History.run threshold store calls).vault.custody
    ∀ piece fetch, fetch.rivalKey = none →
      custody.TellsState threshold (custody.unsealGiven piece fetch).1
        (custody.unsealGiven piece fetch).2 ∧
      ∀ asked : SharedStore, asked.fetchDigest.1 = fetch →
        custody.unsealWith piece asked =
          ((custody.unsealGiven piece fetch).1, (custody.unsealGiven piece fetch).2,
            if (custody.unsealGiven piece fetch).1.asksStore then asked.fetchDigest.2
            else asked) := by
  intro custody piece fetch noRival
  have sound := History.sound_run threshold store calls
  have unsealing := Custody.unsealing_unsealGiven custody piece fetch
  have tellsState := unsealing.tellsState sound.wellFormed noRival
  refine ⟨sound.threshold_eq ▸ tellsState, ?_⟩
  rintro asked rfl
  exact Custody.unsealWith_eq custody piece asked

/-- The second of two pieces, submitted while the store is out of reach and while it answers. -/
theorem replies_tell_state_of_second_piece :
    let rootKey : ByteString := List.replicate 32 5
    let first : KeyPiece := ⟨1, rootKey, by decide, by decide⟩
    let second : KeyPiece := ⟨2, rootKey, by decide, by decide⟩
    let store := SharedStore.ofStore (.memory (some ⟨RootKeyDigest.ofKey rootKey, ⟨2, 2⟩⟩))
    let custody := (History.run 2 store [.submit first]).vault.custody
    let unanswered := custody.unsealGiven second ⟨.error SharedStore.unreachable, none⟩
    let answered := custody.unsealGiven second ⟨.ok (RootKeyDigest.ofKey rootKey), none⟩
    unanswered.1.message = "internal error during root key validation" ∧
      unanswered.2.collector.held.length = 2 ∧
      answered.1.message = "unsealed now" ∧ answered.2.collector.held = [] ∧
      answered.2.keystore.isLoaded = true := by
  intro rootKey first second store custody unanswered answered
  have tells := replies_tell_state 2 store [.submit first]
  have invalid : unanswered.1 = .validationError := by decide +kernel
  have now : answered.1 = .unsealedNow := by decide +kernel
  have tells_unanswered := (tells second ⟨.error SharedStore.unreachable, none⟩ rfl).1
  have tells_answered := (tells second ⟨.ok (RootKeyDigest.ofKey rootKey), none⟩ rfl).1
  rw [invalid] at tells_unanswered ⊢
  rw [now] at tells_answered ⊢
  exact ⟨rfl, (tells_unanswered.complete rfl).1, rfl,
    tells_answered.wiped (Or.inr (Or.inr rfl)), tells_answered.unlocked_iff.mp rfl⟩

end KeyCustody
