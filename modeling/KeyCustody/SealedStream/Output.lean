import KeyCustody.ByteString

/-!
# Handing out an output

A reader keeps the bytes that are ready for its caller in an output, with the position up to which they
have been handed out. Readers of either direction hand out in the same way.
-/

namespace KeyCustody

namespace SealedStream

/-- Hands out what waits in an output from a position on, up to `room` bytes: these bytes, and the
position after them. -/
def drain (output : ByteString) (position room : Nat) : ByteString × Nat :=
  let handed := (output.drop position).take room
  (handed, position + handed.length)

variable {output : ByteString} {position room : Nat}

/-- What was handed out and what still waits are what was waiting. -/
theorem drain_append_drop (output : ByteString) (position room : Nat) :
    (drain output position room).1 ++ output.drop (drain output position room).2 =
      output.drop position := by
  have left_eq : output.drop (drain output position room).2 = (output.drop position).drop room := by
    rw [drain, ← List.drop_drop, List.drop_eq_drop_iff, List.length_take]
    omega
  rw [left_eq]
  exact List.take_append_drop room (output.drop position)

theorem drain_le (position_le : position ≤ output.length) (room : Nat) :
    (drain output position room).2 ≤ output.length := by
  simp only [drain, List.length_take, List.length_drop]
  omega

theorem length_drain_le (output : ByteString) (position room : Nat) :
    (drain output position room).1.length ≤ room :=
  List.length_take_le room _

/-- Where bytes wait some are handed out if there is room. -/
theorem drain_ne_nil (waiting : position < output.length) (room_pos : 0 < room) :
    (drain output position room).1 ≠ [] := by
  rw [drain, Ne, List.take_eq_nil_iff, List.drop_eq_nil_iff]
  omega

end SealedStream

end KeyCustody
