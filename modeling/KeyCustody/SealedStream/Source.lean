import KeyCustody.ByteString

/-!
# Sources of bytes

A source hands out bytes as it pleases: a read may return fewer bytes than there is room for, fail once
and go on afterwards, or return nothing although more follows. What a source will do is written down as
a list of deliveries, so every way in which bytes can arrive is a value. `Source.fill` reads until a
wanted number of bytes has arrived or the source has nothing to give.
-/

namespace KeyCustody

/-- Why a read of a source failed. -/
inductive ReadFault where
  | interrupted
  | wouldBlock
  | connectionReset
  /-- A failure of any other kind. -/
  | other (kind text : String)
deriving DecidableEq, Repr

/-- The wording of the failure. -/
def ReadFault.message : ReadFault → String
  | other _ text => text
  | _ => "source failed"

/-- What a source does next. -/
inductive Delivery where
  | data (bytes : ByteString)
  | fault (fault : ReadFault)
  | nothing
deriving DecidableEq, Repr

/-- A source: what it will deliver, and the most that one read returns, if there is such a limit. -/
structure Source where
  /-- The deliveries to come; after the last one reads return nothing. -/
  deliveries : List Delivery
  /-- The most bytes that one read returns. -/
  limit : Option Nat
deriving DecidableEq, Repr

namespace Source

/-- The weight of a delivery: one for itself and one for each byte. -/
def deliveryWeight : Delivery → Nat
  | .data bytes => 1 + bytes.length
  | .fault _ => 1
  | .nothing => 1

/-- The weight of deliveries together. -/
def deliveriesWeight : List Delivery → Nat
  | [] => 0
  | delivery :: rest => deliveryWeight delivery + deliveriesWeight rest

/-- The weight of what is still to come, which every read that brings something lowers. -/
def weight (source : Source) : Nat :=
  deliveriesWeight source.deliveries

/-- One read with room for `room` bytes from a list of deliveries, never across two of them. -/
def readDeliveries (limit : Option Nat) (room : Nat) :
    List Delivery → Except ReadFault ByteString × List Delivery
  | [] => (.ok [], [])
  | .data [] :: rest => readDeliveries limit room rest
  | .data (byte :: bytes) :: rest =>
    let count := min room ((limit.getD (bytes.length + 1)))
    (.ok ((byte :: bytes).take count), .data ((byte :: bytes).drop count) :: rest)
  | .fault fault :: rest => (.error fault, rest)
  | .nothing :: rest => (.ok [], rest)

/-- One read with room for `room` bytes: what it returns, and the source after it. -/
def read (source : Source) (room : Nat) : Except ReadFault ByteString × Source :=
  let (result, deliveries) := readDeliveries source.limit room source.deliveries
  (result, { source with deliveries })

theorem readDeliveries_weight (limit : Option Nat) (room : Nat) (deliveries : List Delivery) :
    match readDeliveries limit room deliveries with
    | (.ok bytes, rest) => bytes.length + deliveriesWeight rest ≤ deliveriesWeight deliveries
    | (.error _, rest) => deliveriesWeight rest < deliveriesWeight deliveries := by
  fun_induction readDeliveries limit room deliveries with
  | case1 => simp
  | case2 rest ih =>
    split at ih
    · simp only [deliveriesWeight]; omega
    · simp only [deliveriesWeight]; omega
  | case3 byte bytes rest count =>
    simp only [deliveriesWeight, deliveryWeight, List.length_take, List.length_drop,
      List.length_cons]
    omega
  | case4 fault rest => simp [deliveriesWeight, deliveryWeight]
  | case5 rest => simp [deliveriesWeight, deliveryWeight]

/-- A read that returns bytes lowers the weight. -/
theorem weight_read_of_ok {source after : Source} {room : Nat} {byte : UInt8} {bytes : ByteString}
    (happened : source.read room = (.ok (byte :: bytes), after)) : after.weight < source.weight := by
  have bound := readDeliveries_weight source.limit room source.deliveries
  simp only [read, Prod.mk.injEq] at happened
  obtain ⟨result, rfl⟩ := happened
  split at bound
  · simp_all [weight]; omega
  · simp_all

/-- A read that fails lowers the weight. -/
theorem weight_read_of_error {source after : Source} {room : Nat} {fault : ReadFault}
    (happened : source.read room = (.error fault, after)) : after.weight < source.weight := by
  have bound := readDeliveries_weight source.limit room source.deliveries
  simp only [read, Prod.mk.injEq] at happened
  obtain ⟨result, rfl⟩ := happened
  split at bound
  · simp_all
  · simp_all [weight]

/-- The outcome of filling a buffer. -/
structure Filling where
  received : ByteString
  source : Source
  /-- The failure that ended the filling, if one did. -/
  fault : Option ReadFault
deriving DecidableEq, Repr

/-- Reads until `missing` more bytes have arrived, nothing comes or a read fails. An interrupted read
is repeated. The bytes received so far are kept in reverse, one entry for each read. -/
def fillLoop (source : Source) (missing : Nat) (received : List ByteString) : Filling :=
  if missing = 0 then ⟨received.reverse.flatten, source, none⟩
  else
    match _happened : source.read missing with
    | (.ok [], after) => ⟨received.reverse.flatten, after, none⟩
    | (.ok (byte :: bytes), after) =>
      fillLoop after (missing - (byte :: bytes).length) ((byte :: bytes) :: received)
    | (.error .interrupted, after) => fillLoop after missing received
    | (.error fault, after) => ⟨received.reverse.flatten, after, some fault⟩
termination_by source.weight
decreasing_by
  · exact weight_read_of_ok _happened
  · exact weight_read_of_error _happened

/-- Reads until `wanted` bytes have arrived, nothing comes or a read fails. -/
def fill (source : Source) (wanted : Nat) : Filling :=
  source.fillLoop wanted []

end Source

end KeyCustody
