import KeyCustody.Collector
import Mathlib.Data.List.Nodup

/-!
# What can become of a collector

A collector is well formed when it holds different pieces of the right size, and no more of them than are
needed. Every step of a collector keeps it as it is, offers it a piece of the right size or empties it
(`Step`), and each of the three leaves it well formed with the same threshold.
-/

namespace KeyCustody

namespace Collector

/-- A collector holds different pieces of the size of a root key piece, at most as many as needed. -/
structure WellFormed (collector : Collector) : Prop where
  length_le : collector.held.length ≤ collector.threshold.toNat
  nodup : collector.held.Nodup
  size_eq : ∀ piece ∈ collector.held, piece.size = rootKeyPieceSize

/-- The collector after a piece of the right size was offered to it: the piece is added if there is
room and it is not held already. -/
def withPiece (collector : Collector) (piece : KeyPiece) : Collector :=
  if collector.isFull = true ∨ piece ∈ collector.held then collector
  else { collector with held := collector.held ++ [piece] }

theorem isFull_iff (collector : Collector) :
    collector.isFull = true ↔ collector.threshold.toNat ≤ collector.held.length := by
  unfold isFull size
  exact decide_eq_true_iff

@[simp]
theorem threshold_withPiece (collector : Collector) (piece : KeyPiece) :
    (collector.withPiece piece).threshold = collector.threshold := by
  unfold withPiece
  split <;> rfl

@[simp]
theorem reset_withPiece (collector : Collector) (piece : KeyPiece) :
    (collector.withPiece piece).reset = collector.reset := by
  rw [reset, reset, threshold_withPiece]

theorem mem_held_withPiece {collector : Collector} {piece held : KeyPiece}
    (held_mem : held ∈ (collector.withPiece piece).held) :
    held ∈ collector.held ∨ held = piece := by
  unfold withPiece at held_mem
  split at held_mem
  · exact Or.inl held_mem
  · simpa using held_mem

/-- While there is room, the held pieces are afterwards the old ones and the offered one. -/
theorem mem_held_withPiece_iff {collector : Collector} {piece held : KeyPiece}
    (room : collector.held.length < collector.threshold.toNat) :
    held ∈ (collector.withPiece piece).held ↔ held ∈ collector.held ∨ held = piece := by
  refine ⟨mem_held_withPiece, ?_⟩
  have notFull : ¬collector.isFull = true := by
    rw [isFull_iff]
    omega
  by_cases already : piece ∈ collector.held
  · rw [withPiece, if_pos (Or.inr already)]
    rintro (held_mem | rfl)
    · exact held_mem
    · exact already
  · rw [withPiece, if_neg (by simp [notFull, already])]
    simp

theorem WellFormed.withPiece {collector : Collector} (wellFormed : collector.WellFormed)
    {piece : KeyPiece} (size_eq : piece.size = rootKeyPieceSize) :
    (collector.withPiece piece).WellFormed := by
  unfold Collector.withPiece
  split
  · exact wellFormed
  · rename_i taken
    rw [not_or, isFull_iff] at taken
    rcases taken with ⟨room, fresh⟩
    refine ⟨?_, ?_, ?_⟩
    · simp only [List.length_append, List.length_singleton]
      omega
    · refine List.nodup_append.mpr ⟨wellFormed.nodup, List.nodup_singleton piece, ?_⟩
      intro held held_mem other other_mem
      rw [List.mem_singleton.mp other_mem]
      rintro rfl
      exact fresh held_mem
    · intro held held_mem
      rcases List.mem_append.mp held_mem with old_mem | new_mem
      · exact wellFormed.size_eq held old_mem
      · rw [List.mem_singleton.mp new_mem]
        exact size_eq

theorem wellFormed_empty (threshold : UInt8) : (empty threshold).WellFormed :=
  ⟨Nat.zero_le _, List.nodup_nil, by simp [empty]⟩

theorem wellFormed_reset (collector : Collector) : collector.reset.WellFormed :=
  wellFormed_empty collector.threshold

/-- A piece of another size is refused, a full collector refuses the others, and else the piece is
offered. -/
theorem collect_eq (collector : Collector) (piece : KeyPiece) :
    collector.collect piece =
      if piece.size ≠ rootKeyPieceSize then .error (.wrongSize piece.size)
      else if collector.isFull then .error (.alreadyFull collector.size)
      else .ok (collector.withPiece piece) := by
  unfold collect withPiece
  by_cases wrongSize : piece.size ≠ rootKeyPieceSize
  · rw [if_pos wrongSize, if_pos wrongSize]
  · rw [if_neg wrongSize, if_neg wrongSize]
    by_cases full : collector.isFull = true
    · rw [if_pos full, if_pos full]
    · rw [if_neg full, if_neg full]
      by_cases already : piece ∈ collector.held
      · simp [already]
      · simp [full, already]

/-- A full collector takes no piece. -/
theorem withPiece_of_isFull {collector : Collector} (full : collector.isFull = true)
    (piece : KeyPiece) : collector.withPiece piece = collector := by
  rw [withPiece, if_pos (Or.inl full)]

/-- What can become of a collector to which a piece was offered, or none. -/
inductive Step (collector : Collector) (given : Option KeyPiece) : Collector → Prop where
  | kept : Step collector given collector
  | offered {piece : KeyPiece} (given_eq : given = some piece)
      (size_eq : piece.size = rootKeyPieceSize) :
      Step collector given (collector.withPiece piece)
  | emptied : Step collector given collector.reset

namespace Step

variable {collector after : Collector} {given : Option KeyPiece}

theorem wellFormed (step : collector.Step given after) (wellFormed : collector.WellFormed) :
    after.WellFormed := by
  cases step with
  | kept => exact wellFormed
  | offered _ size_eq => exact wellFormed.withPiece size_eq
  | emptied => exact wellFormed_reset collector

theorem threshold_eq (step : collector.Step given after) :
    after.threshold = collector.threshold := by
  cases step with
  | kept => rfl
  | offered => exact threshold_withPiece _ _
  | emptied => rfl

/-- A held piece was held before or was offered. -/
theorem held_subset (step : collector.Step given after) {piece : KeyPiece}
    (held_mem : piece ∈ after.held) : piece ∈ collector.held ∨ given = some piece := by
  cases step with
  | kept => exact Or.inl held_mem
  | offered given_eq =>
      rcases mem_held_withPiece held_mem with old_mem | rfl
      · exact Or.inl old_mem
      · exact Or.inr given_eq
  | emptied => exact absurd held_mem List.not_mem_nil

end Step

end Collector

end KeyCustody
