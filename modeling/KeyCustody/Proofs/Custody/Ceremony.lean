import KeyCustody.Proofs.Bootstrap
import KeyCustody.Proofs.Custody.Run
import Mathlib.Data.Finset.Card

/-!
# The unsealing ceremony

The holders of the dealt pieces submit them to a server over the store that holds the record of their
key, in any order and repeatedly, and pieces of the wrong size may come in between. While too few
different pieces have come, the collector holds exactly those that have (`Collecting`); the piece that
makes them enough unseals the server with the root key, and nothing changes after that.
-/

namespace KeyCustody

namespace KeyPiece

/-- The number of different pieces among the dealt ones that were submitted. -/
def distinctCount (dealt submitted : List KeyPiece) : Nat :=
  (dealt.toFinset ∩ submitted.toFinset).card

theorem distinctCount_le_append (dealt earlier : List KeyPiece) (piece : KeyPiece) :
    distinctCount dealt earlier ≤ distinctCount dealt (earlier ++ [piece]) := by
  apply Finset.card_le_card
  rw [List.toFinset_append]
  exact Finset.inter_subset_inter_left Finset.subset_union_left

theorem inter_append_of_not_mem {dealt : List KeyPiece} {piece : KeyPiece} (foreign : piece ∉ dealt)
    (earlier : List KeyPiece) :
    dealt.toFinset ∩ (earlier ++ [piece]).toFinset = dealt.toFinset ∩ earlier.toFinset := by
  ext other
  simp only [Finset.mem_inter, List.mem_toFinset, List.mem_append, List.mem_singleton]
  refine and_congr_right fun other_mem => or_iff_left ?_
  rintro rfl
  exact foreign other_mem

end KeyPiece

namespace Vault

/-- The vault after pieces were submitted one after the other. -/
def afterAll (vault : Vault) (submitted : List KeyPiece) : Vault :=
  submitted.foldl (fun vault piece => (vault.submit piece).2) vault

theorem afterAll_append_singleton (vault : Vault) (earlier : List KeyPiece) (piece : KeyPiece) :
    vault.afterAll (earlier ++ [piece]) = ((vault.afterAll earlier).submit piece).2 := by
  rw [afterAll, List.foldl_concat]
  rfl

end Vault

/-- A vault to which too few different pieces of a root key were submitted: it holds exactly these. -/
structure Collecting (pieces : List KeyPiece) (sharing : Sharing) (rootKey : ByteString)
    (submitted : List KeyPiece) (vault : Vault) : Prop where
  locked : vault.custody.keystore.isLoaded = false
  threshold_eq : vault.custody.collector.threshold = sharing.threshold
  wellFormed : vault.custody.collector.WellFormed
  held_eq : vault.custody.collector.held.toFinset = pieces.toFinset ∩ submitted.toFinset
  few : KeyPiece.distinctCount pieces submitted < sharing.threshold.toNat
  /-- The store answers with the digest of the root key, and nobody else uses it. -/
  fetch_eq : vault.store.fetchDigest = (⟨.ok (RootKeyDigest.ofKey rootKey), none⟩, vault.store)

namespace Collecting

variable {pieces : List KeyPiece} {sharing : Sharing} {rootKey : ByteString}
  {earlier : List KeyPiece} {vault : Vault} {piece : KeyPiece}

theorem room (collecting : Collecting pieces sharing rootKey earlier vault) :
    vault.custody.collector.held.length < vault.custody.collector.threshold.toNat := by
  rw [collecting.threshold_eq, ← List.toFinset_card_of_nodup collecting.wellFormed.nodup,
    collecting.held_eq]
  exact collecting.few

/-- A dealt piece that is offered joins the held ones. -/
theorem held_offer (collecting : Collecting pieces sharing rootKey earlier vault)
    (piece_mem : piece ∈ pieces) :
    (vault.custody.offer piece).collector.held.toFinset =
      pieces.toFinset ∩ (earlier ++ [piece]).toFinset := by
  ext other
  have old := Finset.ext_iff.mp collecting.held_eq other
  rw [List.mem_toFinset] at old
  rw [List.mem_toFinset, Custody.offer, Collector.mem_held_withPiece_iff collecting.room, old]
  simp only [Finset.mem_inter, List.mem_toFinset, List.mem_append, List.mem_singleton]
  constructor
  · rintro (⟨other_mem, given⟩ | rfl)
    · exact ⟨other_mem, Or.inl given⟩
    · exact ⟨piece_mem, Or.inr rfl⟩
  · rintro ⟨other_mem, given | rfl⟩
    · exact Or.inl ⟨other_mem, given⟩
    · exact Or.inr rfl

theorem length_offer (collecting : Collecting pieces sharing rootKey earlier vault)
    (piece_mem : piece ∈ pieces) (size_eq : piece.size = rootKeyPieceSize) :
    (vault.custody.offer piece).collector.held.length =
      KeyPiece.distinctCount pieces (earlier ++ [piece]) := by
  have wellFormed := collecting.wellFormed.withPiece size_eq
  rw [KeyPiece.distinctCount, ← collecting.held_offer piece_mem]
  exact (List.toFinset_card_of_nodup wellFormed.nodup).symm

/-- A piece of the wrong size is refused, and the vault collects on as before. -/
theorem submit_of_wrongSize (dealt : KeyPiece.Dealt pieces sharing rootKey)
    (collecting : Collecting pieces sharing rootKey earlier vault)
    (wrongSize : piece.size ≠ rootKeyPieceSize) :
    (vault.submit piece).1 = .collectFailed ∧
      Collecting pieces sharing rootKey (earlier ++ [piece]) (vault.submit piece).2 := by
  have submitted : vault.submit piece = (.collectFailed, vault) := by
    rw [Vault.submit, Custody.unsealWith, Custody.submit_eq, if_neg (by simp [collecting.locked]),
      if_pos wrongSize]
  have foreign : piece ∉ pieces := fun piece_mem => wrongSize (dealt.size_eq piece piece_mem)
  rw [submitted]
  refine ⟨rfl, collecting.locked, collecting.threshold_eq, collecting.wellFormed, ?_, ?_,
    collecting.fetch_eq⟩
  · rw [KeyPiece.inter_append_of_not_mem foreign]
    exact collecting.held_eq
  · rw [KeyPiece.distinctCount, KeyPiece.inter_append_of_not_mem foreign]
    exact collecting.few

/-- A dealt piece with which there are still too few is collected. -/
theorem submit_of_few (dealt : KeyPiece.Dealt pieces sharing rootKey)
    (collecting : Collecting pieces sharing rootKey earlier vault) (piece_mem : piece ∈ pieces)
    (few : KeyPiece.distinctCount pieces (earlier ++ [piece]) < sharing.threshold.toNat) :
    (vault.submit piece).1 =
        .collecting (KeyPiece.distinctCount pieces (earlier ++ [piece])) sharing.threshold ∧
      Collecting pieces sharing rootKey (earlier ++ [piece]) (vault.submit piece).2 := by
  have size_eq := dealt.size_eq piece piece_mem
  have length_eq := collecting.length_offer piece_mem size_eq
  have stillFew : (vault.custody.offer piece).collector.held.length <
      vault.custody.collector.threshold.toNat := by
    rw [length_eq, collecting.threshold_eq]
    exact few
  have store_eq := vault.store_submit piece
  rcases (vault.unsealing_submit piece).of_few collecting.locked size_eq stillFew with
    ⟨outcome_eq, custody_eq⟩
  simp only [outcome_eq, UnsealOutcome.asksStore, Bool.false_eq_true, if_false] at store_eq
  rw [length_eq, collecting.threshold_eq] at outcome_eq
  refine ⟨outcome_eq, ?_, ?_, ?_, ?_, few, ?_⟩
  · rw [custody_eq]
    exact collecting.locked
  · rw [custody_eq, ← collecting.threshold_eq]
    exact Collector.threshold_withPiece _ _
  · rw [custody_eq]
    exact collecting.wellFormed.withPiece size_eq
  · rw [custody_eq]
    exact collecting.held_offer piece_mem
  · rw [store_eq]
    exact collecting.fetch_eq

/-- A dealt piece with which there are enough unseals the server with the root key. -/
theorem submit_of_enough (dealt : KeyPiece.Dealt pieces sharing rootKey)
    (collecting : Collecting pieces sharing rootKey earlier vault) (piece_mem : piece ∈ pieces)
    (enough : sharing.threshold.toNat ≤ KeyPiece.distinctCount pieces (earlier ++ [piece])) :
    (vault.submit piece).1 = .unsealedNow ∧
      (vault.submit piece).2.custody.keystore = ⟨some rootKey⟩ := by
  have size_eq := dealt.size_eq piece piece_mem
  have wellFormed := collecting.wellFormed.withPiece size_eq
  rw [← collecting.length_offer piece_mem size_eq] at enough
  have held_subset : ∀ held ∈ (vault.custody.offer piece).collector.held, held ∈ pieces := by
    intro held held_mem
    rw [← List.mem_toFinset, collecting.held_offer piece_mem, Finset.mem_inter] at held_mem
    exact List.mem_toFinset.mp held_mem.1
  have recovered : KeyPiece.combine (vault.custody.offer piece).collector.held = .ok rootKey :=
    dealt.recover _ wellFormed.nodup held_subset enough
  rw [← collecting.threshold_eq] at enough
  exact (vault.unsealing_submit piece).of_recovered collecting.locked size_eq enough recovered
    (by rw [collecting.fetch_eq])

end Collecting

/-- What the submission of a piece is promised after earlier submissions. The different dealt pieces
among them are counted, with the piece and without. -/
structure CeremonyAnswer (pieces : List KeyPiece) (threshold : UInt8) (rootKey : ByteString)
    (earlier : List KeyPiece) (piece : KeyPiece) (vault : Vault) : Prop where
  refused : KeyPiece.distinctCount pieces earlier < threshold.toNat →
    piece.size ≠ rootKeyPieceSize →
    (vault.submit piece).1.status = .locked ∧
      (vault.submit piece).1.message = "failed to collect provided key piece"
  collected : piece ∈ pieces → ∀ count, count = KeyPiece.distinctCount pieces (earlier ++ [piece]) →
    count < threshold.toNat →
    (vault.submit piece).1.status = .locked ∧
      (vault.submit piece).1.message = s!"collected {count} of {threshold} root key pieces"
  completed : KeyPiece.distinctCount pieces earlier < threshold.toNat →
    threshold.toNat ≤ KeyPiece.distinctCount pieces (earlier ++ [piece]) →
    (vault.submit piece).1.status = .unlocked ∧
      (vault.submit piece).1.message = "unsealed now" ∧
      (vault.submit piece).2.custody.keystore = ⟨some rootKey⟩
  later : threshold.toNat ≤ KeyPiece.distinctCount pieces earlier →
    (vault.submit piece).1.status = .unlocked ∧
      (vault.submit piece).1.message = "unsealed previously" ∧
      (vault.submit piece).2 = vault ∧ vault.custody.keystore = ⟨some rootKey⟩

section

variable {pieces : List KeyPiece} {sharing : Sharing} {rootKey : ByteString} {vault : Vault}

/-- Where a vault stands after the submission of dealt pieces and pieces of the wrong size. -/
inductive Standing (pieces : List KeyPiece) (sharing : Sharing) (rootKey : ByteString)
    (submitted : List KeyPiece) (vault : Vault) : Prop where
  | waiting (collecting : Collecting pieces sharing rootKey submitted vault)
  | finished (enough : sharing.threshold.toNat ≤ KeyPiece.distinctCount pieces submitted)
      (keystore_eq : vault.custody.keystore = ⟨some rootKey⟩)

theorem standing_afterAll (dealt : KeyPiece.Dealt pieces sharing rootKey)
    (collecting : Collecting pieces sharing rootKey [] vault) (submitted : List KeyPiece)
    (admissible : ∀ piece ∈ submitted, piece ∈ pieces ∨ piece.size ≠ rootKeyPieceSize) :
    Standing pieces sharing rootKey submitted (vault.afterAll submitted) := by
  induction submitted using List.reverseRecOn with
  | nil => exact .waiting collecting
  | append_singleton earlier piece ih =>
      rw [Vault.afterAll_append_singleton]
      have more := KeyPiece.distinctCount_le_append pieces earlier piece
      have earlierAdmissible : ∀ given ∈ earlier, given ∈ pieces ∨ given.size ≠ rootKeyPieceSize :=
        fun given given_mem => admissible given (List.mem_append_left _ given_mem)
      cases ih earlierAdmissible with
      | waiting collecting =>
          rcases admissible piece (List.mem_append_right _ (List.mem_singleton_self piece)) with
            piece_mem | wrongSize
          · by_cases few :
                KeyPiece.distinctCount pieces (earlier ++ [piece]) < sharing.threshold.toNat
            · exact .waiting (collecting.submit_of_few dealt piece_mem few).2
            · have enough := Nat.not_lt.mp few
              exact .finished enough (collecting.submit_of_enough dealt piece_mem enough).2
          · exact .waiting (collecting.submit_of_wrongSize dealt wrongSize).2
      | finished enough keystore_eq =>
          refine .finished (enough.trans more) ?_
          rw [Vault.submit_of_isLoaded (Keystore.isLoaded_of_eq keystore_eq)]
          exact keystore_eq

/-- The answer to a dealt piece or a piece of the wrong size, wherever the vault stands. -/
theorem Standing.ceremonyAnswer (dealt : KeyPiece.Dealt pieces sharing rootKey)
    {earlier : List KeyPiece} {piece : KeyPiece}
    (standing : Standing pieces sharing rootKey earlier vault)
    (admissible : piece ∈ pieces ∨ piece.size ≠ rootKeyPieceSize) :
    CeremonyAnswer pieces sharing.threshold rootKey earlier piece vault := by
  have more := KeyPiece.distinctCount_le_append pieces earlier piece
  cases standing with
  | waiting collecting =>
      have few := collecting.few
      refine ⟨?_, ?_, ?_, ?_⟩
      · intro _ wrongSize
        rw [(collecting.submit_of_wrongSize dealt wrongSize).1]
        exact ⟨rfl, rfl⟩
      · rintro piece_mem _ rfl stillFew
        rw [(collecting.submit_of_few dealt piece_mem stillFew).1]
        exact ⟨rfl, rfl⟩
      · intro _ enough
        rcases admissible with piece_mem | wrongSize
        · rcases collecting.submit_of_enough dealt piece_mem enough with
            ⟨outcome_eq, keystore_eq⟩
          rw [outcome_eq]
          exact ⟨rfl, rfl, keystore_eq⟩
        · have stillFew := (collecting.submit_of_wrongSize dealt wrongSize).2.few
          omega
      · intro enough
        omega
  | finished enough keystore_eq =>
      have submitted := Vault.submit_of_isLoaded (Keystore.isLoaded_of_eq keystore_eq) piece
      refine ⟨?_, ?_, ?_, ?_⟩
      · intro few
        omega
      · rintro _ _ rfl few
        omega
      · intro few
        omega
      · intro _
        rw [submitted]
        exact ⟨rfl, rfl, rfl, keystore_eq⟩

end

/-- A root key bootstrapped on an empty store is dealt to as many holders as asked for, and a server
started on that store afterwards is unsealed with exactly this key by the submission that brings the last
of enough different pieces, whatever threshold is configured. -/
theorem ceremony_unseals {Supply : Type} [ByteSupply Supply] {digests : DigestStore}
    {sharing : Sharing} (empty : digests.IsEmpty) (two_le : 2 ≤ sharing.threshold)
    (le_total : sharing.threshold ≤ sharing.total) (configured : UInt8) (allowList : List String)
    (supply : Supply) :
    ∃ pieces server, (bootstrap (.ofStore digests) sharing supply).result = .ok pieces ∧
      pieces.length = sharing.total.toNat ∧ pieces.Nodup ∧
      Server.start configured allowList (bootstrap (.ofStore digests) sharing supply).store =
        .ok server ∧
      ∀ earlier piece,
        (∀ given ∈ earlier ++ [piece], given ∈ pieces ∨ given.size ≠ rootKeyPieceSize) →
        CeremonyAnswer pieces sharing.threshold (generateKey supply).1 earlier piece
          (Vault.afterAll ⟨server.custody, (bootstrap (.ofStore digests) sharing supply).store⟩
            earlier) := by
  rcases exists_bootstrap_of_isEmpty empty two_le le_total supply with
    ⟨pieces, after, result_eq, store_eq, dealt, holds⟩
  rcases Server.start_of_holds holds configured allowList with ⟨server, start_eq, custody_eq⟩
  rw [store_eq]
  refine ⟨pieces, server, result_eq, dealt.length_eq, dealt.nodup, start_eq, ?_⟩
  intro earlier piece admissible
  have two_le_toNat : 2 ≤ sharing.threshold.toNat := two_le
  have collecting : Collecting pieces sharing (generateKey supply).1 []
      ⟨server.custody, .ofStore after⟩ := by
    rw [custody_eq]
    refine ⟨rfl, rfl, Collector.wellFormed_empty _, ?_, ?_, ?_⟩
    · simp [Custody.start, Collector.empty]
    · simp only [KeyPiece.distinctCount, List.toFinset_nil, Finset.inter_empty, Finset.card_empty]
      omega
    · have digest_eq : after.digest = .ok (RootKeyDigest.ofKey (generateKey supply).1) :=
        holds.digest_eq
      simp [SharedStore.fetchDigest, SharedStore.ofStore, digest_eq]
  apply Standing.ceremonyAnswer dealt
  · exact standing_afterAll dealt collecting earlier fun given given_mem =>
      admissible given (List.mem_append_left _ given_mem)
  · exact admissible piece (List.mem_append_right _ (List.mem_singleton_self piece))

/-- A key kept in a migrated database and dealt two of three: any two different pieces unseal the server,
though nine are configured. -/
theorem ceremony_unseals_two_of_three :
    (DigestStore.database Database.fresh.migrate.2).IsEmpty ∧ (2 : UInt8) ≤ 2 ∧ (2 : UInt8) ≤ 3 ∧
      ∃ pieces server store,
        (bootstrap (.ofStore (.database Database.fresh.migrate.2)) ⟨3, 2⟩
          (⟨[0x11, 0x07]⟩ : ByteTape)).result = .ok pieces ∧
        pieces.length = 3 ∧ Server.start 9 [] store = .ok server ∧
        ∀ first ∈ pieces, ∀ second ∈ pieces, first ≠ second →
          ((Vault.afterAll ⟨server.custody, store⟩ [first]).submit second).1.message =
            "unsealed now" := by
  refine ⟨DigestStore.isEmpty_migrate_fresh, by decide, by decide, ?_⟩
  rcases @ceremony_unseals ByteTape _ _ ⟨3, 2⟩ DigestStore.isEmpty_migrate_fresh (by decide)
    (by decide) 9 [] ⟨[0x11, 0x07]⟩ with
    ⟨pieces, server, result_eq, length_eq, _, start_eq, answers⟩
  refine ⟨pieces, server, _, result_eq, length_eq, start_eq, ?_⟩
  intro first first_mem second second_mem different
  have answer := answers [first] second (by simp [first_mem, second_mem])
  have one : KeyPiece.distinctCount pieces [first] = 1 := by
    simp [KeyPiece.distinctCount, first_mem]
  have two : KeyPiece.distinctCount pieces ([first] ++ [second]) = 2 := by
    have both : pieces.toFinset ∩ {first, second} = {first, second} :=
      Finset.inter_eq_right.mpr (by simp [Finset.insert_subset_iff, first_mem, second_mem])
    simp [KeyPiece.distinctCount, both, different]
  exact (answer.completed (by rw [one]; decide) (by rw [two]; decide)).2.1

end KeyCustody
