import KeyCustody.Proofs.SealedStream.Filling
import KeyCustody.SealedStream.Output
import Mathlib.Tactic.Common

/-!
# Ranges of buffers, checked

Handing out of an output and filling a buffer are carried out here with every range and every difference
checked, and give nothing if one of them is out of range. Within the bounds of the buffers they come to
the same as without the checks. Filling takes bytes off the front of any source, also of one that says
that it has ended and goes on afterwards.
-/

namespace KeyCustody

namespace SealedStream

/-- The difference of two sizes, if it is not negative. -/
def difference? (size other : Nat) : Option Nat :=
  if other ≤ size then some (size - other) else none

/-- The bytes from one position to another, if the positions are in this order and within the bytes. -/
def range? (bytes : ByteString) (start stop : Nat) : Option ByteString :=
  if start ≤ stop ∧ stop ≤ bytes.length then some ((bytes.take stop).drop start) else none

/-- Hands out what waits in an output as far as there is room: the bytes, and the position after them. -/
def handOut? (output : ByteString) (position room : Nat) : Option (ByteString × Nat) := do
  let waiting ← difference? output.length position
  let count := min room waiting
  let handed ← range? output position (position + count)
  guard (count ≤ room)
  return (handed, position + count)

theorem range?_zero {bytes : ByteString} {stop : Nat} (stop_le : stop ≤ bytes.length) :
    range? bytes 0 stop = some (bytes.take stop) := by
  rw [range?, if_pos ⟨Nat.zero_le stop, stop_le⟩, List.drop_zero]

theorem range?_length {bytes : ByteString} {start : Nat} (start_le : start ≤ bytes.length) :
    range? bytes start bytes.length = some (bytes.drop start) := by
  rw [range?, if_pos ⟨start_le, Nat.le_refl _⟩, List.take_length]

theorem handOut?_eq {output : ByteString} {position : Nat} (position_le : position ≤ output.length)
    (room : Nat) :
    handOut? output position room = some (drain output position room) := by
  have count_eq : ((output.drop position).take room).length = min room (output.length - position) := by
    rw [List.length_take, List.length_drop]
  have stop_le : position + min room (output.length - position) ≤ output.length := by omega
  have range_eq : range? output position (position + min room (output.length - position)) =
      some ((output.drop position).take room) := by
    rw [range?, if_pos ⟨Nat.le_add_right _ _, stop_le⟩, List.drop_take, Nat.add_sub_cancel_left,
      ← count_eq, List.length_take, ← List.take_eq_take_min]
  have fits : min room (output.length - position) ≤ room := Nat.min_le_left room _
  rw [drain, count_eq, handOut?, difference?, if_pos position_le]
  simp only [Option.bind_eq_bind, Option.bind_some, range_eq, guard, if_pos fits]
  rfl

end SealedStream

namespace Source

theorem bytesOf_readDeliveries (limit : Option Nat) (room : Nat) (deliveries : List Delivery) :
    match readDeliveries limit room deliveries with
    | (.ok bytes, rest) => bytes.length ≤ room ∧ bytesOf deliveries = bytes ++ bytesOf rest
    | (.error _, rest) => bytesOf deliveries = bytesOf rest := by
  fun_induction readDeliveries limit room deliveries with
  | case1 => exact ⟨Nat.zero_le room, rfl⟩
  | case2 rest ih => exact ih
  | case3 byte bytes rest count =>
      have count_le : count ≤ room := Nat.min_le_left room _
      refine ⟨?_, ?_⟩
      · rw [List.length_take]
        omega
      · rw [bytesOf, bytesOf, ← List.append_assoc, List.take_append_drop]
  | case4 fault rest => rfl
  | case5 rest => exact ⟨Nat.zero_le room, rfl⟩

/-- One read brings at most as many bytes as there is room for, off the front of the source. -/
theorem bytes_read (source : Source) (room : Nat) :
    match source.read room with
    | (.ok bytes, after) => bytes.length ≤ room ∧ source.bytes = bytes ++ after.bytes
    | (.error _, after) => source.bytes = after.bytes := by
  have brings := bytesOf_readDeliveries source.limit room source.deliveries
  unfold read
  dsimp only
  generalize readDeliveries source.limit room source.deliveries = outcome at brings
  rcases outcome with ⟨_ | bytes, rest⟩
  · exact brings
  · exact brings

/-- Fills a buffer up to a size. It gives nothing if the buffer holds more than that, or a read brings
more than there is room for. -/
def fillBuffer? (source : Source) (buffer : ByteString) (target : Nat) : Option Filling :=
  if buffer.length < target then
    match _happened : source.read (target - buffer.length) with
    | (.ok [], after) => some ⟨buffer, after, none⟩
    | (.ok (byte :: bytes), after) =>
      if (byte :: bytes).length ≤ target - buffer.length then
        fillBuffer? after (buffer ++ byte :: bytes) target
      else none
    | (.error .interrupted, after) => fillBuffer? after buffer target
    | (.error fault, after) => some ⟨buffer, after, some fault⟩
  else if buffer.length = target then some ⟨buffer, source, none⟩
  else none
termination_by source.weight
decreasing_by
  · exact weight_read_of_ok _happened
  · exact weight_read_of_error _happened

theorem fillBuffer?_of_lt {source : Source} {buffer : ByteString} {target : Nat}
    (isShort : buffer.length < target) :
    fillBuffer? source buffer target =
      match source.read (target - buffer.length) with
      | (.ok [], after) => some ⟨buffer, after, none⟩
      | (.ok (byte :: bytes), after) =>
        if (byte :: bytes).length ≤ target - buffer.length then
          fillBuffer? after (buffer ++ byte :: bytes) target
        else none
      | (.error .interrupted, after) => fillBuffer? after buffer target
      | (.error fault, after) => some ⟨buffer, after, some fault⟩ := by
  rw [fillBuffer?, if_pos isShort]
  split
  case h_1 happened => rw [happened]
  case h_2 happened => rw [happened]
  case h_3 happened => rw [happened]
  case h_4 fault after notInterrupted happened =>
    rw [happened]
    cases fault with
    | interrupted => exact absurd rfl notInterrupted
    | _ => rfl

/-- Filling a buffer up to a size asks for what is missing and appends what arrives. -/
theorem fillBuffer?_fillLoop (source : Source) (missing : Nat) (earlier : List ByteString)
    (front : ByteString) {buffer : ByteString} {target : Nat}
    (buffer_eq : buffer = front ++ earlier.reverse.flatten)
    (target_eq : target = buffer.length + missing) :
    source.fillBuffer? buffer target =
      some { source.fillLoop missing earlier with
        received := front ++ (source.fillLoop missing earlier).received } := by
  fun_induction fillLoop source missing earlier generalizing buffer with
  | case1 source earlier =>
      rw [fillBuffer?, if_neg (by omega), if_pos (by omega), buffer_eq]
  | case2 source missing earlier wanted after happened =>
      have missing_eq : target - buffer.length = missing := by omega
      rw [fillBuffer?_of_lt (by omega), missing_eq, happened, buffer_eq]
  | case3 source missing earlier wanted byte bytes after happened ih =>
      have missing_eq : target - buffer.length = missing := by omega
      have brings := source.bytes_read missing
      rw [happened] at brings
      rw [fillBuffer?_of_lt (by omega), missing_eq, happened]
      dsimp only
      rw [if_pos brings.1]
      apply ih
      · simp [buffer_eq]
      · have length_le := brings.1
        rw [List.length_append]
        omega
  | case4 source missing earlier wanted after happened ih =>
      have missing_eq : target - buffer.length = missing := by omega
      rw [fillBuffer?_of_lt (by omega), missing_eq, happened]
      exact ih buffer_eq target_eq
  | case5 source missing earlier wanted fault after notInterrupted happened =>
      have missing_eq : target - buffer.length = missing := by omega
      rw [fillBuffer?_of_lt (by omega), missing_eq, happened, buffer_eq]
      cases fault with
      | interrupted => exact absurd rfl notInterrupted
      | _ => rfl

theorem fillBuffer?_eq {source : Source} {buffer : ByteString} {target : Nat}
    (length_le : buffer.length ≤ target) :
    source.fillBuffer? buffer target =
      some { source.fill (target - buffer.length) with
        received := buffer ++ (source.fill (target - buffer.length)).received } := by
  apply fillBuffer?_fillLoop source _ [] buffer
  · exact (List.append_nil buffer).symm
  · omega

/-- Filling takes bytes off the front of the source, at most as many as are wanted, and loses none. -/
theorem bytes_fillLoop (source : Source) (missing : Nat) (earlier : List ByteString) :
    ∃ received, (source.fillLoop missing earlier).received = earlier.reverse.flatten ++ received ∧
      received.length ≤ missing ∧
      source.bytes = received ++ (source.fillLoop missing earlier).source.bytes := by
  fun_induction fillLoop source missing earlier with
  | case1 source earlier => exact ⟨[], (List.append_nil _).symm, Nat.zero_le _, rfl⟩
  | case2 source missing earlier wanted after happened =>
      have brings := source.bytes_read missing
      rw [happened] at brings
      exact ⟨[], (List.append_nil _).symm, Nat.zero_le _, brings.2⟩
  | case3 source missing earlier wanted byte bytes after happened ih =>
      have brings := source.bytes_read missing
      rw [happened] at brings
      rcases brings with ⟨length_le, bytes_eq⟩
      rcases ih with ⟨received, received_eq, later_le, later_eq⟩
      refine ⟨byte :: bytes ++ received, ?_, ?_, ?_⟩
      · rw [received_eq]
        simp
      · rw [List.length_append]
        omega
      · rw [bytes_eq, later_eq, List.append_assoc]
  | case4 source missing earlier wanted after happened ih =>
      have brings := source.bytes_read missing
      rw [happened] at brings
      rcases ih with ⟨received, received_eq, later_le, later_eq⟩
      exact ⟨received, received_eq, later_le, brings.trans later_eq⟩
  | case5 source missing earlier wanted fault after notInterrupted happened =>
      have brings := source.bytes_read missing
      rw [happened] at brings
      exact ⟨[], (List.append_nil _).symm, Nat.zero_le _, brings⟩

theorem bytes_fill {source after : Source} {wanted : Nat} {received : ByteString}
    {fault : Option ReadFault} (filled : source.fill wanted = ⟨received, after, fault⟩) :
    received.length ≤ wanted ∧ source.bytes = received ++ after.bytes := by
  rcases source.bytes_fillLoop wanted [] with ⟨found, found_eq, length_le, bytes_eq⟩
  change source.fillLoop wanted [] = ⟨received, after, fault⟩ at filled
  rw [filled] at found_eq bytes_eq
  obtain rfl : received = found := found_eq
  exact ⟨length_le, bytes_eq⟩

end Source

end KeyCustody
