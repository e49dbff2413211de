import KeyCustody.SealedStream.Source

/-!
# Filling from a source that keeps going

A source flows if it never pretends to have ended: it hands out its bytes in parts of any size, is
interrupted and fails as it likes, and returns nothing only when nothing is left. Filling from such a
source takes bytes off its front and loses none. It falls short only if a read fails, which costs the
source this one failure, or if the source is exhausted.
-/

namespace KeyCustody

namespace Source

/-- The bytes in deliveries, in their order. -/
def bytesOf : List Delivery → ByteString
  | [] => []
  | .data bytes :: rest => bytes ++ bytesOf rest
  | .fault _ :: rest => bytesOf rest
  | .nothing :: rest => bytesOf rest

/-- The failures in deliveries that a reader gets to see: all but the interruptions. -/
def faultsOf : List Delivery → List ReadFault
  | [] => []
  | .data _ :: rest => faultsOf rest
  | .fault .interrupted :: rest => faultsOf rest
  | .fault fault :: rest => fault :: faultsOf rest
  | .nothing :: rest => faultsOf rest

/-- The bytes that a source still has to deliver. -/
def bytes (source : Source) : ByteString := bytesOf source.deliveries

/-- The failures that a source still has to deliver, interruptions aside. -/
def faults (source : Source) : List ReadFault := faultsOf source.deliveries

/-- A source that returns nothing only when it has nothing left. -/
structure Flowing (source : Source) : Prop where
  nothing_notMem : .nothing ∉ source.deliveries
  limit_ne : source.limit ≠ some 0

theorem faultsOf_fault {fault : ReadFault} (notInterrupted : fault ≠ .interrupted)
    (rest : List Delivery) : faultsOf (.fault fault :: rest) = fault :: faultsOf rest := by
  cases fault with
  | interrupted => exact absurd rfl notInterrupted
  | _ => rfl

/-- What one read of a flowing source can bring. -/
inductive Delivers (source : Source) (room : Nat) : Except ReadFault ByteString → Source → Prop where
  | received {bytes : ByteString} {after : Source} (nonempty : bytes ≠ [])
      (length_le : bytes.length ≤ room) (bytes_eq : source.bytes = bytes ++ after.bytes)
      (faults_eq : source.faults = after.faults) : Delivers source room (.ok bytes) after
  | exhausted {after : Source} (bytes_eq : source.bytes = []) (faults_eq : source.faults = [])
      (after_bytes_eq : after.bytes = []) (after_faults_eq : after.faults = []) :
      Delivers source room (.ok []) after
  | interrupted {after : Source} (bytes_eq : source.bytes = after.bytes)
      (faults_eq : source.faults = after.faults) :
      Delivers source room (.error .interrupted) after
  | failed {fault : ReadFault} {after : Source} (notInterrupted : fault ≠ .interrupted)
      (bytes_eq : source.bytes = after.bytes) (faults_eq : source.faults = fault :: after.faults) :
      Delivers source room (.error fault) after

theorem Delivers.congr {source other after : Source} {room : Nat}
    {answer : Except ReadFault ByteString} (delivers : Delivers source room answer after)
    (bytes_eq : other.bytes = source.bytes) (faults_eq : other.faults = source.faults) :
    Delivers other room answer after := by
  cases delivers with
  | received nonempty length_le sourceBytes_eq sourceFaults_eq =>
      exact .received nonempty length_le (bytes_eq.trans sourceBytes_eq)
        (faults_eq.trans sourceFaults_eq)
  | exhausted sourceBytes_eq sourceFaults_eq after_bytes_eq after_faults_eq =>
      exact .exhausted (bytes_eq.trans sourceBytes_eq) (faults_eq.trans sourceFaults_eq)
        after_bytes_eq after_faults_eq
  | interrupted sourceBytes_eq sourceFaults_eq =>
      exact .interrupted (bytes_eq.trans sourceBytes_eq) (faults_eq.trans sourceFaults_eq)
  | failed notInterrupted sourceBytes_eq sourceFaults_eq =>
      exact .failed notInterrupted (bytes_eq.trans sourceBytes_eq)
        (faults_eq.trans sourceFaults_eq)

theorem delivers_readDeliveries {limit : Option Nat} {room : Nat} (limit_ne : limit ≠ some 0)
    (room_pos : 0 < room) (deliveries : List Delivery) (flowing : .nothing ∉ deliveries) :
    .nothing ∉ (readDeliveries limit room deliveries).2 ∧
      Delivers ⟨deliveries, limit⟩ room (readDeliveries limit room deliveries).1
        ⟨(readDeliveries limit room deliveries).2, limit⟩ := by
  fun_induction readDeliveries limit room deliveries with
  | case1 => exact ⟨flowing, .exhausted rfl rfl rfl rfl⟩
  | case2 rest ih =>
      simp only [List.mem_cons, reduceCtorEq, false_or] at flowing
      rcases ih flowing with ⟨stillFlowing, delivers⟩
      exact ⟨stillFlowing, delivers.congr rfl rfl⟩
  | case3 byte bytes rest count =>
      have count_pos : 0 < count := by
        cases limit with
        | none =>
            simp only [count, Option.getD_none]
            omega
        | some most =>
            have most_pos : most ≠ 0 := fun zero => limit_ne (congrArg some zero)
            simp only [count, Option.getD_some]
            omega
      simp only [List.mem_cons, reduceCtorEq, false_or] at flowing ⊢
      refine ⟨flowing, .received ?_ ?_ ?_ rfl⟩
      · simp only [ne_eq, List.take_eq_nil_iff, reduceCtorEq, or_false]
        omega
      · simp only [List.length_take, List.length_cons, count]
        omega
      · simp only [Source.bytes, bytesOf]
        rw [← List.append_assoc, List.take_append_drop]
  | case4 fault rest =>
      simp only [List.mem_cons, reduceCtorEq, false_or] at flowing
      refine ⟨flowing, ?_⟩
      by_cases isInterrupted : fault = .interrupted
      · subst isInterrupted
        exact .interrupted rfl rfl
      · exact .failed isInterrupted rfl (faultsOf_fault isInterrupted rest)
  | case5 rest => exact absurd List.mem_cons_self flowing

theorem Flowing.delivers_read {source : Source} (flowing : source.Flowing) {room : Nat}
    (room_pos : 0 < room) :
    (source.read room).2.Flowing ∧
      Delivers source room (source.read room).1 (source.read room).2 := by
  rcases delivers_readDeliveries flowing.limit_ne room_pos source.deliveries
    flowing.nothing_notMem with ⟨stillFlowing, delivers⟩
  exact ⟨⟨stillFlowing, flowing.limit_ne⟩, delivers⟩

/-- What filling from a flowing source comes to: bytes off its front, at most as many as wanted, and
the failure that ended it, if one did. -/
structure Filled (source : Source) (wanted : Nat) (received : ByteString) (after : Source)
    (fault : Option ReadFault) : Prop where
  flowing : after.Flowing
  bytes_eq : source.bytes = received ++ after.bytes
  faults_eq : source.faults = fault.toList ++ after.faults
  length_le : received.length ≤ wanted
  /-- Filling that was not ended by a failure falls short only if the source is exhausted. -/
  exhausted : fault = none → received.length < wanted → after.bytes = [] ∧ after.faults = []

namespace Filled

variable {source after final : Source} {wanted : Nat} {received : ByteString}
  {fault : Option ReadFault}

theorem of_nothing_wanted (flowing : source.Flowing) : Filled source 0 [] source none where
  flowing := flowing
  bytes_eq := rfl
  faults_eq := rfl
  length_le := Nat.le_refl 0
  exhausted _ impossible := absurd impossible (Nat.lt_irrefl 0)

theorem of_exhausted (flowing : after.Flowing) (delivers : Delivers source wanted (.ok []) after) :
    Filled source wanted [] after none := by
  cases delivers with
  | received nonempty => exact absurd rfl nonempty
  | exhausted bytes_eq faults_eq after_bytes_eq after_faults_eq =>
      refine ⟨flowing, ?_, ?_, Nat.zero_le wanted, ?_⟩
      · simp [bytes_eq, after_bytes_eq]
      · simp [faults_eq, after_faults_eq]
      · intro _ _
        exact ⟨after_bytes_eq, after_faults_eq⟩

theorem of_failed {readFault : ReadFault} (flowing : after.Flowing)
    (notInterrupted : readFault ≠ .interrupted)
    (delivers : Delivers source wanted (.error readFault) after) :
    Filled source wanted [] after (some readFault) := by
  cases delivers with
  | interrupted => exact absurd rfl notInterrupted
  | failed _ bytes_eq faults_eq =>
      refine ⟨flowing, bytes_eq, faults_eq, Nat.zero_le wanted, ?_⟩
      intro impossible
      cases impossible

theorem after_interrupted (delivers : Delivers source wanted (.error .interrupted) after)
    (filled : Filled after wanted received final fault) :
    Filled source wanted received final fault := by
  cases delivers with
  | failed notInterrupted => exact absurd rfl notInterrupted
  | interrupted bytes_eq faults_eq =>
      exact ⟨filled.flowing, bytes_eq.trans filled.bytes_eq, faults_eq.trans filled.faults_eq,
        filled.length_le, filled.exhausted⟩

theorem after_received {byte : UInt8} {bytes : ByteString}
    (delivers : Delivers source wanted (.ok (byte :: bytes)) after)
    (filled : Filled after (wanted - (byte :: bytes).length) received final fault) :
    Filled source wanted (byte :: bytes ++ received) final fault := by
  cases delivers with
  | received _ length_le bytes_eq faults_eq =>
      refine ⟨filled.flowing, ?_, faults_eq.trans filled.faults_eq, ?_, ?_⟩
      · rw [bytes_eq, filled.bytes_eq, List.append_assoc]
      · have rest_le := filled.length_le
        rw [List.length_append]
        omega
      · intro noFault isShort
        apply filled.exhausted noFault
        rw [List.length_append] at isShort
        omega

/-- If a buffer that was to be filled past a size holds no more, without a failure, nothing follows. -/
theorem exhausted_of_short {buffer : ByteString} {size : Nat}
    (filled : source.Filled (size + 1 - buffer.length) received after none)
    (isShort : (buffer ++ received).length ≤ size) : after.bytes = [] ∧ after.faults = [] := by
  apply filled.exhausted rfl
  rw [List.length_append] at isShort
  omega

/-- A source that does not fail does not end filling with a failure. -/
theorem fault_eq_none (filled : Filled source wanted received after fault)
    (faultless : source.faults = []) : fault = none ∧ after.faults = [] := by
  have faults_eq := filled.faults_eq
  rw [faultless, List.nil_eq, List.append_eq_nil_iff, Option.toList_eq_nil_iff] at faults_eq
  exact faults_eq

end Filled

theorem Flowing.filled_fillLoop {source : Source} (flowing : source.Flowing) (missing : Nat)
    (earlier : List ByteString) :
    ∃ received, (source.fillLoop missing earlier).received =
        earlier.reverse.flatten ++ received ∧
      Filled source missing received (source.fillLoop missing earlier).source
        (source.fillLoop missing earlier).fault := by
  fun_induction fillLoop source missing earlier with
  | case1 source earlier =>
      exact ⟨[], (List.append_nil _).symm, .of_nothing_wanted flowing⟩
  | case2 source missing earlier wanted after happened =>
      rcases flowing.delivers_read (Nat.pos_of_ne_zero wanted) with ⟨stillFlowing, delivers⟩
      rw [happened] at stillFlowing delivers
      exact ⟨[], (List.append_nil _).symm, .of_exhausted stillFlowing delivers⟩
  | case3 source missing earlier wanted byte bytes after happened ih =>
      rcases flowing.delivers_read (Nat.pos_of_ne_zero wanted) with ⟨stillFlowing, delivers⟩
      rw [happened] at stillFlowing delivers
      rcases ih stillFlowing with ⟨received, received_eq, filled⟩
      refine ⟨byte :: bytes ++ received, ?_, .after_received delivers filled⟩
      rw [received_eq]
      simp
  | case4 source missing earlier wanted after happened ih =>
      rcases flowing.delivers_read (Nat.pos_of_ne_zero wanted) with ⟨stillFlowing, delivers⟩
      rw [happened] at stillFlowing delivers
      rcases ih stillFlowing with ⟨received, received_eq, filled⟩
      exact ⟨received, received_eq, .after_interrupted delivers filled⟩
  | case5 source missing earlier wanted fault after notInterrupted happened =>
      rcases flowing.delivers_read (Nat.pos_of_ne_zero wanted) with ⟨stillFlowing, delivers⟩
      rw [happened] at stillFlowing delivers
      refine ⟨[], (List.append_nil _).symm, .of_failed stillFlowing ?_ delivers⟩
      rintro rfl
      exact notInterrupted rfl

theorem Flowing.filled_fill {source : Source} (flowing : source.Flowing) (wanted : Nat) :
    Filled source wanted (source.fill wanted).received (source.fill wanted).source
      (source.fill wanted).fault := by
  rcases flowing.filled_fillLoop wanted [] with ⟨received, received_eq, filled⟩
  change (source.fill wanted).received = received at received_eq
  rw [received_eq]
  exact filled

/-- The failures in deliveries that a reader gets to see before `count` bytes have arrived. -/
def faultsBeforeOf : Nat → List Delivery → List ReadFault
  | 0, _ => []
  | _ + 1, [] => []
  | count + 1, .data bytes :: rest => faultsBeforeOf (count + 1 - bytes.length) rest
  | count + 1, .fault .interrupted :: rest => faultsBeforeOf (count + 1) rest
  | count + 1, .fault fault :: rest => fault :: faultsBeforeOf (count + 1) rest
  | count + 1, .nothing :: rest => faultsBeforeOf (count + 1) rest

/-- The failures, interruptions aside, that a source delivers before its first `count` bytes. -/
def faultsBefore (source : Source) (count : Nat) : List ReadFault :=
  faultsBeforeOf count source.deliveries

@[simp]
theorem faultsBefore_zero (source : Source) : source.faultsBefore 0 = [] := by
  rw [faultsBefore, faultsBeforeOf]

theorem faultsBeforeOf_isPrefix (count : Nat) (deliveries : List Delivery) :
    faultsBeforeOf count deliveries <+: faultsOf deliveries := by
  fun_induction faultsBeforeOf count deliveries with
  | case1 => exact List.nil_prefix
  | case2 => exact List.nil_prefix
  | case3 count bytes rest ih => exact ih
  | case4 count rest ih => exact ih
  | case5 count fault rest notInterrupted ih =>
      rw [faultsOf_fault notInterrupted]
      exact (List.prefix_append_right_inj [fault]).mpr ih
  | case6 count rest ih => exact ih

theorem faultsBeforeOf_data (count : Nat) (bytes : ByteString) (rest : List Delivery) :
    faultsBeforeOf count (.data bytes :: rest) = faultsBeforeOf (count - bytes.length) rest := by
  cases count with
  | zero => rw [Nat.zero_sub, faultsBeforeOf, faultsBeforeOf]
  | succ count => rfl

/-- A read brings the next of these failures, or bytes that leave them all to come. -/
theorem faultsBeforeOf_readDeliveries {limit : Option Nat} {room count : Nat}
    (count_pos : 0 < count) (room_le : room ≤ count) (deliveries : List Delivery) :
    match readDeliveries limit room deliveries with
    | (.ok bytes, rest) => bytes.length ≤ room ∧
        faultsBeforeOf count deliveries = faultsBeforeOf (count - bytes.length) rest
    | (.error fault, rest) => faultsBeforeOf count deliveries =
        (if fault = .interrupted then [] else [fault]) ++ faultsBeforeOf count rest := by
  rcases Nat.exists_eq_succ_of_ne_zero (Nat.ne_of_gt count_pos) with ⟨count, rfl⟩
  fun_induction readDeliveries limit room deliveries with
  | case1 => exact ⟨Nat.zero_le room, rfl⟩
  | case2 rest ih => exact ih
  | case3 byte bytes rest taken =>
      have taken_le : taken ≤ room := Nat.min_le_left room _
      dsimp only
      rw [faultsBeforeOf_data, faultsBeforeOf_data, List.length_take, List.length_drop]
      refine ⟨by omega, congrArg (faultsBeforeOf · rest) ?_⟩
      omega
  | case4 fault rest =>
      cases fault with
      | interrupted => rfl
      | _ => rfl
  | case5 rest => exact ⟨Nat.zero_le room, rfl⟩

theorem faultsBefore_read (source : Source) {room count : Nat} (room_pos : 0 < room)
    (room_le : room ≤ count) :
    match source.read room with
    | (.ok bytes, after) => bytes.length ≤ room ∧
        source.faultsBefore count = after.faultsBefore (count - bytes.length)
    | (.error fault, after) => source.faultsBefore count =
        (if fault = .interrupted then [] else [fault]) ++ after.faultsBefore count := by
  have brings := @faultsBeforeOf_readDeliveries source.limit room count
    (Nat.lt_of_lt_of_le room_pos room_le) room_le source.deliveries
  unfold Source.read
  dsimp only
  generalize readDeliveries source.limit room source.deliveries = outcome at brings
  rcases outcome with ⟨_ | bytes, rest⟩
  · exact brings
  · exact brings

/-- Filling ends with the next of these failures, or leaves them all to come. -/
theorem faultsBefore_fillLoop (source : Source) (missing : Nat) (earlier : List ByteString)
    {count : Nat} (missing_le : missing ≤ count) :
    ∃ received, (source.fillLoop missing earlier).received =
        earlier.reverse.flatten ++ received ∧
      source.faultsBefore count = (source.fillLoop missing earlier).fault.toList ++
        (source.fillLoop missing earlier).source.faultsBefore (count - received.length) := by
  fun_induction fillLoop source missing earlier generalizing count with
  | case1 source earlier => exact ⟨[], (List.append_nil _).symm, rfl⟩
  | case2 source missing earlier wanted after happened =>
      have brings := source.faultsBefore_read (Nat.pos_of_ne_zero wanted) missing_le
      rw [happened] at brings
      exact ⟨[], (List.append_nil _).symm, brings.2⟩
  | case3 source missing earlier wanted byte bytes after happened ih =>
      have brings := source.faultsBefore_read (Nat.pos_of_ne_zero wanted) missing_le
      rw [happened] at brings
      rcases brings with ⟨length_le, faults_eq⟩
      rcases ih (Nat.sub_le_sub_right missing_le _) with ⟨received, received_eq, later_eq⟩
      refine ⟨byte :: bytes ++ received, ?_, ?_⟩
      · rw [received_eq]
        simp
      · rw [faults_eq, later_eq, List.length_append, Nat.sub_sub]
  | case4 source missing earlier wanted after happened ih =>
      have brings := source.faultsBefore_read (Nat.pos_of_ne_zero wanted) missing_le
      rw [happened] at brings
      rcases ih missing_le with ⟨received, received_eq, later_eq⟩
      exact ⟨received, received_eq, brings.trans later_eq⟩
  | case5 source missing earlier wanted fault after notInterrupted happened =>
      have brings := source.faultsBefore_read (Nat.pos_of_ne_zero wanted) missing_le
      rw [happened] at brings
      dsimp only at brings
      rw [if_neg notInterrupted] at brings
      exact ⟨[], (List.append_nil _).symm, brings⟩

theorem faultsBefore_fill (source : Source) {wanted count : Nat} (wanted_le : wanted ≤ count) :
    source.faultsBefore count = (source.fill wanted).fault.toList ++
      (source.fill wanted).source.faultsBefore (count - (source.fill wanted).received.length) := by
  rcases source.faultsBefore_fillLoop wanted [] wanted_le with ⟨received, received_eq, faults_eq⟩
  change (source.fill wanted).received = received at received_eq
  rw [received_eq]
  exact faults_eq

end Source

end KeyCustody
