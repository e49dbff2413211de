import KeyCustody.Proofs.Custody.Leftover

/-!
# What the replies tell about the pieces

Two runs of submissions are alike if they agree in which pieces have the right size, which are the same
and which have the same index, whatever the pieces hold. The collectors of alike runs hold pieces from
the same positions at any time (`Matched`), so the runs can only be told apart by what the recorded
digest says of the rebuilt keys.
-/

namespace KeyCustody

/-- What a fetch of the recorded digest says of a rebuilt key: nothing if the store fails, and else
whether it is the recorded key. -/
def DigestFetch.verdict (fetch : DigestFetch) (rootKey : ByteString) : Option Bool :=
  match fetch.answer with
  | .ok digest => some (RootKeyDigest.isOf digest.bytes rootKey)
  | .error _ => none

/-- Two fetches say the same of two rebuilt keys, and someone else loads a key during both or during
none of them. -/
structure DigestFetch.Concurs (fetch other : DigestFetch) (rootKey otherKey : ByteString) : Prop where
  verdict_eq : fetch.verdict rootKey = other.verdict otherKey
  rival_eq : fetch.rivalKey.isSome = other.rivalKey.isSome

namespace KeyPiece

/-- Pieces of the right size can be combined if there are several and no two have the same index. -/
theorem exists_combine_iff {pieces : List KeyPiece}
    (size_eq : ∀ piece ∈ pieces, piece.size = rootKeyPieceSize) :
    (∃ rootKey, combine pieces = .ok rootKey) ↔
      2 ≤ pieces.length ∧ (pieces.map (·.index)).Nodup := by
  rw [exists_combine_iff_combinable]
  constructor
  · intro combinable
    exact ⟨combinable.two_le_length, combinable.nodup_indices⟩
  · rintro ⟨two_le_length, nodup_indices⟩
    refine ⟨two_le_length, ?_, nodup_indices⟩
    intro left left_mem right right_mem
    rw [size_eq left left_mem, size_eq right right_mem]

/-- The first pieces of two sequences agree in which of them have the right size, which are the same and
which have the same index. -/
structure Alike (count : Nat) (pieces others : Nat → KeyPiece) : Prop where
  size_iff : ∀ position < count,
    (pieces position).size = rootKeyPieceSize ↔ (others position).size = rootKeyPieceSize
  same_iff : ∀ first < count, ∀ second < count,
    pieces first = pieces second ↔ others first = others second
  index_iff : ∀ first < count, ∀ second < count,
    (pieces first).index = (pieces second).index ↔ (others first).index = (others second).index

namespace Alike

variable {count : Nat} {pieces others : Nat → KeyPiece} {positions : List Nat}

theorem mem_iff (alike : Alike count pieces others) (below : ∀ position ∈ positions, position < count)
    {position : Nat} (position_lt : position < count) :
    pieces position ∈ positions.map pieces ↔ others position ∈ positions.map others := by
  rw [List.mem_map, List.mem_map]
  constructor
  · rintro ⟨held, held_mem, same⟩
    exact ⟨held, held_mem, (alike.same_iff held (below held held_mem) position position_lt).mp same⟩
  · rintro ⟨held, held_mem, same⟩
    exact ⟨held, held_mem, (alike.same_iff held (below held held_mem) position position_lt).mpr same⟩

theorem nodup_index_iff (alike : Alike count pieces others)
    (below : ∀ position ∈ positions, position < count) :
    ((positions.map pieces).map (·.index)).Nodup ↔
      ((positions.map others).map (·.index)).Nodup := by
  unfold List.Nodup
  rw [List.map_map, List.map_map, List.pairwise_map, List.pairwise_map]
  apply List.Pairwise.iff_of_mem
  intro first second first_mem second_mem
  exact not_congr (alike.index_iff first (below first first_mem) second (below second second_mem))

end Alike

end KeyPiece

namespace Custody

open KeyPiece (Alike)

/-- The custody after the first `count` of a sequence of submissions, from the start. -/
def stateAt (threshold : UInt8) (pieces : Nat → KeyPiece) (fetches : Nat → DigestFetch)
    (count : Nat) : Custody :=
  (start threshold).afterAll ((List.range count).map fun position =>
    (pieces position, fetches position))

/-- The reply to the submission at a position. -/
def replyAt (threshold : UInt8) (pieces : Nat → KeyPiece) (fetches : Nat → DigestFetch)
    (position : Nat) : UnsealOutcome :=
  ((stateAt threshold pieces fetches position).unsealGiven (pieces position) (fetches position)).1

theorem stateAt_succ (threshold : UInt8) (pieces : Nat → KeyPiece) (fetches : Nat → DigestFetch)
    (count : Nat) :
    stateAt threshold pieces fetches (count + 1) =
      ((stateAt threshold pieces fetches count).unsealGiven (pieces count) (fetches count)).2 := by
  rw [stateAt, List.range_succ, List.map_append, List.map_singleton, afterAll_append_singleton]
  rfl

/-- A rebuilt key is settled by what the fetch says of it and whether someone else loads a key. -/
theorem settle_eq {custody : Custody} (locked : custody.keystore.isLoaded = false)
    (rootKey : ByteString) (fetch : DigestFetch) :
    custody.settle rootKey fetch =
      match fetch.verdict rootKey, fetch.rivalKey with
      | none, _ => (.validationError, custody.afterFetch fetch)
      | some false, _ => (.badRootKey, (custody.afterFetch fetch).dropPieces)
      | some true, some _ => (.storeError, custody.afterFetch fetch)
      | some true, none => (.unsealedNow, ⟨⟨some rootKey⟩, custody.collector.reset⟩) := by
  cases answer : fetch.answer with
  | error error =>
      rw [settle_of_error answer, DigestFetch.verdict, answer]
  | ok digest =>
      rw [DigestFetch.verdict, answer]
      dsimp only
      cases isOf : RootKeyDigest.isOf digest.bytes rootKey with
      | false =>
          have other : RootKeyDigest.ofKey rootKey ≠ digest := by
            rw [Ne, ← RootKeyDigest.isOf_iff, isOf]
            exact Bool.false_ne_true
          rw [settle_of_other answer other]
      | true =>
          have same := RootKeyDigest.isOf_iff.mp isOf
          rw [← same] at answer
          cases rival : fetch.rivalKey with
          | none => rw [settle_of_noRival locked answer rival]
          | some rivalKey => rw [settle_of_rival answer rival]

/-- Two collectors hold the pieces from the same positions below `bound`, need equally many, and a key
is loaded beside both or beside none. -/
structure Matched (pieces others : Nat → KeyPiece) (bound : Nat) (custody other : Custody) :
    Prop where
  exists_held : ∃ positions : List Nat,
    (∀ position ∈ positions, position < bound ∧ (pieces position).size = rootKeyPieceSize) ∧
    custody.collector.held = positions.map pieces ∧ other.collector.held = positions.map others
  threshold_eq : custody.collector.threshold = other.collector.threshold
  loaded_eq : custody.keystore.isLoaded = other.keystore.isLoaded

namespace Matched

variable {pieces others : Nat → KeyPiece} {bound count : Nat} {custody other : Custody}

theorem length_eq (matched : Matched pieces others bound custody other) :
    custody.collector.held.length = other.collector.held.length := by
  rcases matched.exists_held with ⟨positions, _, held_eq, otherHeld_eq⟩
  rw [held_eq, otherHeld_eq, List.length_map, List.length_map]

theorem isFull_eq (matched : Matched pieces others bound custody other) :
    custody.collector.isFull = other.collector.isFull := by
  unfold Collector.isFull Collector.size
  rw [matched.length_eq, matched.threshold_eq]

theorem dropPieces (matched : Matched pieces others bound custody other) :
    Matched pieces others bound custody.dropPieces other.dropPieces :=
  ⟨⟨[], by simp, rfl, rfl⟩, matched.threshold_eq, matched.loaded_eq⟩

/-- Offering both the pieces from the same new position keeps them matched. -/
theorem offer (matched : Matched pieces others bound custody other)
    (alike : Alike count pieces others) (bound_lt : bound < count)
    (size_eq : (pieces bound).size = rootKeyPieceSize) :
    Matched pieces others (bound + 1) (custody.offer (pieces bound))
      (other.offer (others bound)) := by
  refine ⟨?_, ?_, matched.loaded_eq⟩
  · rcases matched.exists_held with ⟨positions, earlier, held_eq, otherHeld_eq⟩
    have below : ∀ position ∈ positions, position < count := by
      intro position position_mem
      exact Nat.lt_trans (earlier position position_mem).1 bound_lt
    have earlierStill : ∀ position ∈ positions,
        position < bound + 1 ∧ (pieces position).size = rootKeyPieceSize := by
      intro position position_mem
      have position_lt := (earlier position position_mem).1
      exact ⟨Nat.lt_succ_of_lt position_lt, (earlier position position_mem).2⟩
    have refused_iff :
        custody.collector.isFull = true ∨ pieces bound ∈ custody.collector.held ↔
          other.collector.isFull = true ∨ others bound ∈ other.collector.held := by
      rw [matched.isFull_eq, held_eq, otherHeld_eq, alike.mem_iff below bound_lt]
    unfold Custody.offer Collector.withPiece
    by_cases refused : custody.collector.isFull = true ∨ pieces bound ∈ custody.collector.held
    · rw [if_pos refused, if_pos (refused_iff.mp refused)]
      exact ⟨positions, earlierStill, held_eq, otherHeld_eq⟩
    · rw [if_neg refused, if_neg (refused_iff.not.mp refused)]
      refine ⟨positions ++ [bound], ?_, ?_, ?_⟩
      · intro position position_mem
        rcases List.mem_append.mp position_mem with old_mem | new_mem
        · exact earlierStill position old_mem
        · rw [List.mem_singleton.mp new_mem]
          exact ⟨Nat.lt_succ_self bound, size_eq⟩
      · simp [held_eq]
      · simp [otherHeld_eq]
  · simp [Custody.offer, matched.threshold_eq]

theorem exists_combine_iff (matched : Matched pieces others bound custody other)
    (alike : Alike count pieces others) (bound_le : bound ≤ count) :
    (∃ rootKey, KeyPiece.combine custody.collector.held = .ok rootKey) ↔
      ∃ rootKey, KeyPiece.combine other.collector.held = .ok rootKey := by
  rcases matched.exists_held with ⟨positions, earlier, held_eq, otherHeld_eq⟩
  have below : ∀ position ∈ positions, position < count := by
    intro position position_mem
    exact Nat.lt_of_lt_of_le (earlier position position_mem).1 bound_le
  have size_eq : ∀ piece ∈ positions.map pieces, piece.size = rootKeyPieceSize := by
    intro piece piece_mem
    rcases List.mem_map.mp piece_mem with ⟨position, position_mem, rfl⟩
    exact (earlier position position_mem).2
  have otherSize_eq : ∀ piece ∈ positions.map others, piece.size = rootKeyPieceSize := by
    intro piece piece_mem
    rcases List.mem_map.mp piece_mem with ⟨position, position_mem, rfl⟩
    exact (alike.size_iff position (below position position_mem)).mp
      (earlier position position_mem).2
  rw [held_eq, otherHeld_eq, KeyPiece.exists_combine_iff size_eq,
    KeyPiece.exists_combine_iff otherSize_eq, alike.nodup_index_iff below, List.length_map,
    List.length_map]

theorem mono (matched : Matched pieces others bound custody other) (bound_le : bound ≤ count) :
    Matched pieces others count custody other := by
  rcases matched.exists_held with ⟨positions, earlier, held_eq, otherHeld_eq⟩
  refine ⟨⟨positions, ?_, held_eq, otherHeld_eq⟩, matched.threshold_eq, matched.loaded_eq⟩
  intro position position_mem
  rcases earlier position position_mem with ⟨position_lt, size_eq⟩
  exact ⟨Nat.lt_of_lt_of_le position_lt bound_le, size_eq⟩

end Matched

/-- How far two submissions have come: they are answered alike, or a key was rebuilt in both. -/
inductive SubmittedAlike (pieces others : Nat → KeyPiece) (bound : Nat) :
    Submission → Submission → Prop where
  | answered {outcome : UnsealOutcome} {custody other : Custody}
      (matched : Matched pieces others bound custody other) :
      SubmittedAlike pieces others bound (.answered outcome custody) (.answered outcome other)
  | rebuilt {rootKey otherKey : ByteString} {custody other : Custody}
      (locked : custody.keystore.isLoaded = false)
      (matched : Matched pieces others bound custody other) :
      SubmittedAlike pieces others bound (.rebuilt rootKey custody) (.rebuilt otherKey other)

namespace Matched

variable {pieces others : Nat → KeyPiece} {bound count : Nat} {custody other : Custody}

theorem rebuild (matched : Matched pieces others bound custody other)
    (alike : Alike count pieces others) (bound_le : bound ≤ count)
    (locked : custody.keystore.isLoaded = false) :
    SubmittedAlike pieces others bound custody.rebuild other.rebuild := by
  rw [rebuild_eq, rebuild_eq, ← matched.isFull_eq]
  by_cases full : custody.collector.isFull = true
  · rw [if_pos full, if_pos full]
    have combine_iff := matched.exists_combine_iff alike bound_le
    cases combined : KeyPiece.combine custody.collector.held with
    | ok rootKey =>
        rcases combine_iff.mp ⟨rootKey, combined⟩ with ⟨otherKey, otherCombined⟩
        rw [otherCombined]
        exact .rebuilt locked matched
    | error error =>
        cases otherCombined : KeyPiece.combine other.collector.held with
        | ok otherKey =>
            rcases combine_iff.mpr ⟨otherKey, otherCombined⟩ with ⟨rootKey, impossible⟩
            rw [combined] at impossible
            cases impossible
        | error otherError => exact .answered matched.dropPieces
  · rw [if_neg full, if_neg full, matched.length_eq, matched.threshold_eq]
    exact .answered matched

/-- Pieces from the same position are worked off alike, up to the point where the recorded digest is
needed. -/
theorem submit (matched : Matched pieces others bound custody other)
    (alike : Alike count pieces others) (bound_lt : bound < count) :
    SubmittedAlike pieces others (bound + 1) (custody.submit (pieces bound))
      (other.submit (others bound)) := by
  have unchanged := matched.mono (Nat.le_succ bound)
  rw [submit_eq, submit_eq, ← matched.loaded_eq]
  by_cases loaded : custody.keystore.isLoaded = true
  · rw [if_pos loaded, if_pos loaded]
    exact .answered unchanged
  · rw [if_neg loaded, if_neg loaded]
    by_cases size_eq : (pieces bound).size = rootKeyPieceSize
    · have otherSize_eq := (alike.size_iff bound bound_lt).mp size_eq
      rw [if_neg (not_not_intro size_eq), if_neg (not_not_intro otherSize_eq)]
      have stillLocked : (custody.offer (pieces bound)).keystore.isLoaded = false := by
        change custody.keystore.isLoaded = false
        simpa using loaded
      exact (matched.offer alike bound_lt size_eq).rebuild alike bound_lt stillLocked
    · rw [if_pos size_eq, if_pos ((alike.size_iff bound bound_lt).not.mp size_eq)]
      exact .answered unchanged

theorem afterFetch (matched : Matched pieces others bound custody other)
    (locked : custody.keystore.isLoaded = false) {fetch otherFetch : DigestFetch}
    (rival_eq : fetch.rivalKey.isSome = otherFetch.rivalKey.isSome) :
    Matched pieces others bound (custody.afterFetch fetch) (other.afterFetch otherFetch) := by
  refine ⟨matched.exists_held, matched.threshold_eq, ?_⟩
  have otherLocked : other.keystore.isLoaded = false := matched.loaded_eq ▸ locked
  rw [Bool.eq_iff_iff, isLoaded_afterFetch locked, isLoaded_afterFetch otherLocked,
    ← Option.isSome_iff_ne_none, ← Option.isSome_iff_ne_none, rival_eq]

/-- Rebuilt keys of which the fetched digests say the same are settled alike. -/
theorem settle (matched : Matched pieces others bound custody other)
    (locked : custody.keystore.isLoaded = false) {fetch otherFetch : DigestFetch}
    {rootKey otherKey : ByteString} (concurs : fetch.Concurs otherFetch rootKey otherKey) :
    (custody.settle rootKey fetch).1 = (other.settle otherKey otherFetch).1 ∧
      Matched pieces others bound (custody.settle rootKey fetch).2
        (other.settle otherKey otherFetch).2 := by
  have otherLocked : other.keystore.isLoaded = false := matched.loaded_eq ▸ locked
  have fetched := matched.afterFetch locked concurs.rival_eq
  rw [settle_eq locked, settle_eq otherLocked, ← concurs.verdict_eq]
  rcases fetch.verdict rootKey with _ | _ | _
  · exact ⟨rfl, fetched⟩
  · exact ⟨rfl, fetched.dropPieces⟩
  · have rival_eq := concurs.rival_eq
    cases rival : fetch.rivalKey with
    | some rivalKey =>
        cases otherRival : otherFetch.rivalKey with
        | some otherRivalKey => exact ⟨rfl, fetched⟩
        | none => simp [rival, otherRival] at rival_eq
    | none =>
        cases otherRival : otherFetch.rivalKey with
        | some otherRivalKey => simp [rival, otherRival] at rival_eq
        | none => exact ⟨rfl, ⟨[], by simp, rfl, rfl⟩, matched.threshold_eq, rfl⟩

/-- One submission to each of two matched custodies has the same outcome and leaves them matched. -/
theorem unsealGiven (matched : Matched pieces others bound custody other)
    (alike : Alike count pieces others) (bound_lt : bound < count) {fetch otherFetch : DigestFetch}
    (concurs : ∀ rootKey after otherKey otherAfter,
      custody.submit (pieces bound) = .rebuilt rootKey after →
      other.submit (others bound) = .rebuilt otherKey otherAfter →
      fetch.Concurs otherFetch rootKey otherKey) :
    (custody.unsealGiven (pieces bound) fetch).1 =
        (other.unsealGiven (others bound) otherFetch).1 ∧
      Matched pieces others (bound + 1) (custody.unsealGiven (pieces bound) fetch).2
        (other.unsealGiven (others bound) otherFetch).2 := by
  have submitted := matched.submit alike bound_lt
  unfold Custody.unsealGiven
  generalize custody.submit (pieces bound) = submission at concurs submitted ⊢
  generalize other.submit (others bound) = otherSubmission at concurs submitted ⊢
  cases submitted with
  | answered matchedAfter => exact ⟨rfl, matchedAfter⟩
  | rebuilt locked matchedAfter =>
      exact matchedAfter.settle locked (concurs _ _ _ _ rfl rfl)

end Matched

section

variable {threshold : UInt8} {count : Nat} {pieces others : Nat → KeyPiece}
  {fetches otherFetches : Nat → DigestFetch}

/-- In both runs the fetched digests say the same of the keys that are rebuilt at the same position. -/
def FetchesConcur (threshold : UInt8) (count : Nat) (pieces others : Nat → KeyPiece)
    (fetches otherFetches : Nat → DigestFetch) : Prop :=
  ∀ position < count, ∀ rootKey after otherKey otherAfter,
    (stateAt threshold pieces fetches position).submit (pieces position) =
      .rebuilt rootKey after →
    (stateAt threshold others otherFetches position).submit (others position) =
      .rebuilt otherKey otherAfter →
    (fetches position).Concurs (otherFetches position) rootKey otherKey

theorem matched_stateAt (alike : Alike count pieces others)
    (concur : FetchesConcur threshold count pieces others fetches otherFetches) {position : Nat}
    (position_le : position ≤ count) :
    Matched pieces others position (stateAt threshold pieces fetches position)
      (stateAt threshold others otherFetches position) := by
  induction position with
  | zero => exact ⟨⟨[], by simp, rfl, rfl⟩, rfl, rfl⟩
  | succ position ih =>
      rw [stateAt_succ, stateAt_succ]
      have matched := ih (Nat.le_of_succ_le position_le)
      exact (matched.unsealGiven alike position_le (concur position position_le)).2

/-- Runs of submissions that agree in which pieces have the right size, which are the same and which
have the same index get the same replies, hold equally many pieces and are unsealed at the same time, as
long as each recorded digest that is asked for says the same of the rebuilt keys. -/
theorem alike_runs_reply_alike (alike : Alike count pieces others)
    (concur : FetchesConcur threshold count pieces others fetches otherFetches) :
    ∀ position < count,
      replyAt threshold pieces fetches position =
        replyAt threshold others otherFetches position ∧
      (stateAt threshold pieces fetches (position + 1)).collector.size =
        (stateAt threshold others otherFetches (position + 1)).collector.size ∧
      (stateAt threshold pieces fetches (position + 1)).keystore.isLoaded =
        (stateAt threshold others otherFetches (position + 1)).keystore.isLoaded := by
  intro position position_lt
  have matched := matched_stateAt alike concur (Nat.le_of_lt position_lt)
  have matchedAfter := matched_stateAt alike concur (Nat.succ_le_of_lt position_lt)
  exact ⟨(matched.unsealGiven alike position_lt (concur position position_lt)).1,
    matchedAfter.length_eq, matchedAfter.loaded_eq⟩

end

theorem alike_runs_reply_alike_of_three :
    let first : KeyPiece := ⟨1, List.replicate 32 5, by decide, by decide⟩
    let second : KeyPiece := ⟨2, List.replicate 32 6, by decide, by decide⟩
    let otherFirst : KeyPiece := ⟨7, List.replicate 32 0, by decide, by decide⟩
    let otherSecond : KeyPiece := ⟨4, List.replicate 32 9, by decide, by decide⟩
    let pieces := fun position => [first, first, second].getD position first
    let others := fun position => [otherFirst, otherFirst, otherSecond].getD position otherFirst
    let fetches : Nat → DigestFetch := fun _ => ⟨.error SharedStore.unreachable, none⟩
    ∀ position < 3,
      replyAt 2 pieces fetches position = replyAt 2 others fetches position ∧
      (stateAt 2 pieces fetches (position + 1)).collector.size =
        (stateAt 2 others fetches (position + 1)).collector.size ∧
      (stateAt 2 pieces fetches (position + 1)).keystore.isLoaded =
        (stateAt 2 others fetches (position + 1)).keystore.isLoaded := by
  intro first second otherFirst otherSecond pieces others fetches
  have alike : Alike 3 pieces others := ⟨by decide, by decide, by decide⟩
  have concur : FetchesConcur 2 3 pieces others fetches fetches := by
    intro position _ rootKey after otherKey otherAfter _ _
    exact ⟨rfl, rfl⟩
  exact alike_runs_reply_alike alike concur

end Custody

end KeyCustody
