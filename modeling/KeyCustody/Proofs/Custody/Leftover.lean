import KeyCustody.Proofs.Custody.Unsealing
import KeyCustody.Proofs.KeyPiece.Interpolation
import Mathlib.Data.List.Induction

/-!
# Key pieces that outlive the unsealing

A submission that loads the root key drops the pieces. If someone else loads a key while the recorded
digest is fetched, the submission is answered with a store error or, if the fetch brought no digest, with
a validation error, and neither drops anything: a full set of pieces stays beside a loaded key. This is
the only way in which it can come to that.
-/

namespace KeyCustody

namespace Custody

/-- The custody after submissions, each with what a fetch of the recorded digest would bring. -/
def afterAll (custody : Custody) (submissions : List (KeyPiece × DigestFetch)) : Custody :=
  submissions.foldl (fun custody given => (custody.unsealGiven given.1 given.2).2) custody

theorem afterAll_append_singleton (custody : Custody) (earlier : List (KeyPiece × DigestFetch))
    (piece : KeyPiece) (fetch : DigestFetch) :
    custody.afterAll (earlier ++ [(piece, fetch)]) =
      ((custody.afterAll earlier).unsealGiven piece fetch).2 := by
  rw [afterAll, List.foldl_concat]
  rfl

/-- Someone else loaded a key during the fetch, and the outcome drops no pieces. -/
def IsOvertaken (outcome : UnsealOutcome) (fetch : DigestFetch) : Prop :=
  fetch.rivalKey ≠ none ∧ (outcome = .storeError ∨ outcome = .validationError)

def SomeOvertaken (custody : Custody) (submissions : List (KeyPiece × DigestFetch)) : Prop :=
  ∃ earlier piece fetch later, submissions = earlier ++ (piece, fetch) :: later ∧
    IsOvertaken ((custody.afterAll earlier).unsealGiven piece fetch).1 fetch

theorem not_someOvertaken_nil (custody : Custody) : ¬custody.SomeOvertaken [] := by
  rintro ⟨earlier, piece, fetch, later, impossible, _⟩
  simp at impossible

theorem someOvertaken_append_singleton {custody : Custody}
    {earlier : List (KeyPiece × DigestFetch)} {piece : KeyPiece} {fetch : DigestFetch} :
    custody.SomeOvertaken (earlier ++ [(piece, fetch)]) ↔
      custody.SomeOvertaken earlier ∨
        IsOvertaken ((custody.afterAll earlier).unsealGiven piece fetch).1 fetch := by
  constructor
  · rintro ⟨first, given, brought, later, split, overtaken⟩
    rcases List.eq_nil_or_concat' later with rfl | ⟨second, last, rfl⟩
    · rcases List.append_inj' split rfl with ⟨rfl, same⟩
      cases same
      exact Or.inr overtaken
    · rw [← List.cons_append, ← List.append_assoc] at split
      rcases List.append_inj' split rfl with ⟨earlier_eq, _⟩
      exact Or.inl ⟨first, given, brought, second, earlier_eq, overtaken⟩
  · rintro (⟨first, given, brought, later, rfl, overtaken⟩ | overtaken)
    · exact ⟨first, given, brought, later ++ [(piece, fetch)], by simp, overtaken⟩
    · exact ⟨earlier, piece, fetch, [], rfl, overtaken⟩

/-- What can be left of the pieces: nothing once a key is loaded, unless a submission was overtaken. -/
inductive Leftover (threshold : UInt8) (overtaken : Prop) (custody : Custody) : Prop where
  | stillLocked (locked : custody.keystore.isLoaded = false) (never : ¬overtaken)
  | nothing (loaded : custody.keystore.isLoaded = true) (held_eq : custody.collector.held = [])
      (never : ¬overtaken)
  | fullSet (loaded : custody.keystore.isLoaded = true) (two_le : 2 ≤ threshold.toNat)
      (length_eq : custody.collector.held.length = threshold.toNat) (once : overtaken)

theorem Leftover.iff {threshold : UInt8} {overtaken : Prop} {custody : Custody}
    (leftover : Leftover threshold overtaken custody) :
    (custody.keystore.isLoaded = true ∧ custody.collector.held ≠ []) ↔ overtaken := by
  cases leftover with
  | stillLocked locked never => simp [locked, never]
  | nothing loaded held_eq never => simp [held_eq, never]
  | fullSet loaded two_le length_eq once =>
      refine iff_of_true ⟨loaded, ?_⟩ once
      intro held_eq
      rw [held_eq, List.length_nil] at length_eq
      omega

theorem isLoaded_afterFetch {custody : Custody} (locked : custody.keystore.isLoaded = false)
    (fetch : DigestFetch) :
    (custody.afterFetch fetch).keystore.isLoaded = true ↔ fetch.rivalKey ≠ none := by
  unfold afterFetch
  cases fetch.rivalKey with
  | none => simp [Keystore.withRival, locked]
  | some rivalKey => simp [Keystore.withRival, Keystore.loadIfEmpty, Keystore.isLoaded]

/-- A full collector whose pieces can be combined holds exactly the threshold of at least two. -/
theorem held_of_combine {custody : Custody} {piece : KeyPiece} {rootKey : ByteString}
    (wellFormed : custody.collector.WellFormed) (size_eq : piece.size = rootKeyPieceSize)
    (full : custody.collector.threshold.toNat ≤ (custody.offer piece).collector.held.length)
    (combined : KeyPiece.combine (custody.offer piece).collector.held = .ok rootKey) :
    2 ≤ custody.collector.threshold.toNat ∧
      (custody.offer piece).collector.held.length = custody.collector.threshold.toNat := by
  have length_le := (wellFormed.withPiece size_eq).length_le
  rw [Collector.threshold_withPiece] at length_le
  have length_eq : (custody.offer piece).collector.held.length =
      custody.collector.threshold.toNat := Nat.le_antisymm length_le full
  have two_le := (KeyPiece.combinable_of_combine combined).two_le_length
  rw [length_eq] at two_le
  exact ⟨two_le, length_eq⟩

theorem Unsealing.leftover {custody after : Custody} {piece : KeyPiece} {fetch : DigestFetch}
    {outcome : UnsealOutcome} (unsealing : Unsealing custody piece fetch outcome after)
    (locked : custody.keystore.isLoaded = false) (wellFormed : custody.collector.WellFormed) :
    Leftover custody.collector.threshold (IsOvertaken outcome fetch) after := by
  cases unsealing with
  | previously loaded => simp [locked] at loaded
  | refused => exact .stillLocked locked (by simp [IsOvertaken])
  | waiting => exact .stillLocked locked (by simp [IsOvertaken])
  | unusable => exact .stillLocked locked (by simp [IsOvertaken])
  | unchecked _ size_eq full combined =>
      rcases held_of_combine wellFormed size_eq full combined with ⟨two_le, length_eq⟩
      have offerLocked : (custody.offer piece).keystore.isLoaded = false := locked
      by_cases rival : fetch.rivalKey = none
      · refine .stillLocked ?_ (by simp [IsOvertaken, rival])
        have notLoaded := (isLoaded_afterFetch offerLocked fetch).not.mpr (not_not.mpr rival)
        simpa using notLoaded
      · have loaded := (isLoaded_afterFetch offerLocked fetch).mpr rival
        exact .fullSet loaded two_le length_eq ⟨rival, Or.inr rfl⟩
  | mistaken =>
      have never : ¬IsOvertaken .badRootKey fetch := by simp [IsOvertaken]
      by_cases rival : fetch.rivalKey = none
      · refine .stillLocked ?_ never
        have notLoaded := (isLoaded_afterFetch locked fetch).not.mpr (not_not.mpr rival)
        simpa [dropPieces] using notLoaded
      · exact .nothing ((isLoaded_afterFetch locked fetch).mpr rival) rfl never
  | overtaken _ size_eq full combined _ rival =>
      rcases held_of_combine wellFormed size_eq full combined with ⟨two_le, length_eq⟩
      have offerLocked : (custody.offer piece).keystore.isLoaded = false := locked
      have someRival : fetch.rivalKey ≠ none := by simp [rival]
      have loaded := (isLoaded_afterFetch offerLocked fetch).mpr someRival
      exact .fullSet loaded two_le length_eq ⟨someRival, Or.inl rfl⟩
  | completed => exact .nothing rfl rfl (by simp [IsOvertaken])

theorem unsealGiven_of_isLoaded {custody : Custody} (loaded : custody.keystore.isLoaded = true)
    (piece : KeyPiece) (fetch : DigestFetch) :
    custody.unsealGiven piece fetch = (.unsealedPreviously, custody) := by
  rw [unsealGiven, submit_eq, if_pos loaded]

/-- A run of submissions leaves the collector well formed and the pieces as `Leftover` says. -/
theorem leftover_afterAll (threshold : UInt8) (submissions : List (KeyPiece × DigestFetch)) :
    ((start threshold).afterAll submissions).collector.WellFormed ∧
      ((start threshold).afterAll submissions).collector.threshold = threshold ∧
      Leftover threshold ((start threshold).SomeOvertaken submissions)
        ((start threshold).afterAll submissions) := by
  induction submissions using List.reverseRecOn with
  | nil => exact ⟨Collector.wellFormed_empty threshold, rfl, .stillLocked rfl (not_someOvertaken_nil _)⟩
  | append_singleton earlier given ih =>
      rcases given with ⟨piece, fetch⟩
      rcases ih with ⟨wellFormed, threshold_eq, leftover⟩
      have unsealing := unsealing_unsealGiven ((start threshold).afterAll earlier) piece fetch
      rw [afterAll_append_singleton, someOvertaken_append_singleton]
      refine ⟨unsealing.collector_step.wellFormed wellFormed,
        unsealing.collector_step.threshold_eq.trans threshold_eq, ?_⟩
      cases leftover with
      | stillLocked locked never =>
          have next := unsealing.leftover locked wellFormed
          rw [threshold_eq] at next
          simpa only [never, false_or] using next
      | nothing loaded held_eq never =>
          rw [unsealGiven_of_isLoaded loaded]
          exact .nothing loaded held_eq (by simp [never, IsOvertaken])
      | fullSet loaded two_le length_eq once =>
          rw [unsealGiven_of_isLoaded loaded]
          exact .fullSet loaded two_le length_eq (Or.inl once)

/-- In every run of submissions, whatever the fetches of the digest bring, pieces are held beside a
loaded key exactly if someone else loaded a key during a fetch and the submission was answered with a
store error or a validation error. -/
theorem held_beside_key_iff (threshold : UInt8) (submissions : List (KeyPiece × DigestFetch)) :
    (((start threshold).afterAll submissions).keystore.isLoaded = true ∧
        ((start threshold).afterAll submissions).collector.held ≠ []) ↔
      ∃ earlier piece fetch later, submissions = earlier ++ (piece, fetch) :: later ∧
        fetch.rivalKey ≠ none ∧
        ((((start threshold).afterAll earlier).unsealGiven piece fetch).1 = .storeError ∨
          (((start threshold).afterAll earlier).unsealGiven piece fetch).1 = .validationError) :=
  (leftover_afterAll threshold submissions).2.2.iff

/-- Two pieces stay beside the key that someone else loaded while their digest was fetched, and after
the key is wiped they unseal the server again together with any piece of the right size. -/
theorem pieces_outlive_unsealing :
    let rootKey : ByteString := List.replicate 32 5
    let first : KeyPiece := ⟨1, rootKey, by decide, by decide⟩
    let second : KeyPiece := ⟨2, rootKey, by decide, by decide⟩
    let stray : KeyPiece := ⟨9, List.replicate 32 1, by decide, by decide⟩
    let digest := RootKeyDigest.ofKey rootKey
    let custody := (start 2).afterAll
      [(first, ⟨.ok digest, none⟩), (second, ⟨.ok digest, some rootKey⟩)]
    custody.keystore.isLoaded = true ∧ custody.collector.held = [first, second] ∧
      (({ custody with keystore := custody.keystore.wipe }).unsealGiven stray
        ⟨.ok digest, none⟩).1 = .unsealedNow := by
  decide +kernel

end Custody

end KeyCustody
