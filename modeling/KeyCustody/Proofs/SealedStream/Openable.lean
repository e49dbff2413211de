import KeyCustody.Proofs.SealedStream.Format

/-!
# What a sealed stream opens to

`openStream` opens a whole stream at one go. It opens one chunk after the other, as the format has them,
and stops at the first that is not authentic at its place. Its result is a payload exactly for the
streams in the format; for other bytes it still gives the longest run of chunks that lead the stream.
-/

namespace KeyCustody

namespace SealedStream

/-- Opens what follows the label, from a chunk number on: the chunks before the last, and the last chunk
if opening gets that far. -/
def openFrom (key label : ByteString) (size : Nat) (number : UInt32) (sealed : ByteString) :
    List ByteString × Option ByteString :=
  if sealed.length ≤ size + Gcm.tagSize then ([], openedChunk? key label number true sealed)
  else if number = lastNumber then ([], none)
  else
    match openedChunk? key label number false (sealed.take (size + Gcm.tagSize)) with
    | none => ([], none)
    | some chunk =>
      Prod.map (chunk :: ·) id
        (openFrom key label size (number + 1) (sealed.drop (size + Gcm.tagSize)))
termination_by sealed.length
decreasing_by
  simp only [List.length_drop, Gcm.tagSize] at *
  omega

def openStream (key : ByteString) (size : Nat) (sealed : ByteString) :
    List ByteString × Option ByteString :=
  if sealed.length < labelSize then ([], none)
  else openFrom key (sealed.take labelSize) size 0 (sealed.drop labelSize)

/-- The sealed bytes are a stream in the format, of this payload. -/
def IsStreamOf (key : ByteString) (size : Nat) (payload sealed : ByteString) : Prop :=
  ∃ label chunks last, label.length = labelSize ∧ chunks.length ≤ 2 ^ 32 - 1 ∧
    (∀ chunk ∈ chunks, chunk.length = size) ∧ last.length ≤ size ∧
    payload = chunks.flatten ++ last ∧ sealed = wire key label chunks last

/-- Full chunks that lead sealed bytes: each is sealed under its number as one that is not the last, and
more bytes follow it. -/
inductive Leads (key label : ByteString) (size : Nat) :
    Nat → ByteString → List ByteString → Prop where
  | nil {number : Nat} {sealed : ByteString} : Leads key label size number sealed []
  | cons {number : Nat} {chunk rest : ByteString} {chunks : List ByteString}
      (length_eq : chunk.length = size) (number_lt : number + 1 < 2 ^ 32) (nonempty : rest ≠ [])
      (leads : Leads key label size (number + 1) rest chunks) :
      Leads key label size number (wireChunk key label number 0 chunk ++ rest) (chunk :: chunks)

/-- The longest run of full chunks that lead a stream after its label. -/
def IsLeading (key : ByteString) (size : Nat) (sealed : ByteString) (chunks : List ByteString) :
    Prop :=
  Leads key (sealed.take labelSize) size 0 (sealed.drop labelSize) chunks ∧
    ∀ other, Leads key (sealed.take labelSize) size 0 (sealed.drop labelSize) other →
      other <+: chunks

section

variable {key label : ByteString} {size : Nat} {number : UInt32}

theorem length_of_take {sealed chunk : ByteString} {position : Nat} {flag : UInt8}
    (isLong : ¬sealed.length ≤ size + Gcm.tagSize)
    (sealed_eq : sealed.take (size + Gcm.tagSize) = wireChunk key label position flag chunk) :
    chunk.length = size := by
  have sealed_length := congrArg List.length sealed_eq
  rw [List.length_take_of_le (by omega), length_wireChunk] at sealed_length
  omega

theorem openFrom_of_short {sealed : ByteString} (isShort : sealed.length ≤ size + Gcm.tagSize) :
    openFrom key label size number sealed = ([], openedChunk? key label number true sealed) := by
  rw [openFrom, if_pos isShort]

/-- The first chunk is told by the bytes up to the one after it. -/
theorem openFrom_append {front : ByteString} (isLong : size + Gcm.tagSize < front.length)
    (back : ByteString) :
    openFrom key label size number (front ++ back) =
      if number = lastNumber then ([], none)
      else
        match openedChunk? key label number false (front.take (size + Gcm.tagSize)) with
        | none => ([], none)
        | some chunk =>
          Prod.map (chunk :: ·) id
            (openFrom key label size (number + 1) (front.drop (size + Gcm.tagSize) ++ back)) := by
  have wholeIsLong : ¬(front ++ back).length ≤ size + Gcm.tagSize := by
    rw [List.length_append]
    omega
  rw [openFrom, if_neg wholeIsLong, List.take_append_of_le_length (Nat.le_of_lt isLong),
    List.drop_append_of_le_length (Nat.le_of_lt isLong)]

theorem openFrom_wireChunk_append {chunk rest : ByteString} (length_eq : chunk.length = size)
    (number_lt : number.toNat + 1 < 2 ^ 32) (nonempty : rest ≠ []) :
    openFrom key label size number (wireChunk key label number.toNat 0 chunk ++ rest) =
      Prod.map (chunk :: ·) id (openFrom key label size (number + 1) rest) := by
  have sealed_length : (wireChunk key label number.toNat 0 chunk).length = size + Gcm.tagSize := by
    rw [length_wireChunk, length_eq]
  have isLong : ¬(wireChunk key label number.toNat 0 chunk ++ rest).length ≤
      size + Gcm.tagSize := by
    have rest_pos := List.length_pos_iff.mpr nonempty
    rw [List.length_append]
    omega
  have opened : openedChunk? key label number false (wireChunk key label number.toNat 0 chunk) =
      some chunk := openedChunk?_eq_some_iff.mpr rfl
  rw [openFrom, if_neg isLong, if_neg (ne_of_number_lt number_lt), List.take_left' sealed_length,
    List.drop_left' sealed_length, opened]

theorem openFrom_wireFrom {chunks : List ByteString} {last : ByteString}
    (length_eq : ∀ chunk ∈ chunks, chunk.length = size) (last_length_le : last.length ≤ size)
    (number_lt : number.toNat + chunks.length < 2 ^ 32) :
    openFrom key label size number (wireFrom key label number.toNat chunks last) =
      (chunks, some last) := by
  induction chunks generalizing number with
  | nil =>
      have isShort : (wireChunk key label number.toNat 1 last).length ≤ size + Gcm.tagSize := by
        rw [length_wireChunk]
        omega
      have opened : openedChunk? key label number true (wireChunk key label number.toNat 1 last) =
          some last := openedChunk?_eq_some_iff.mpr rfl
      rw [wireFrom_nil, openFrom_of_short isShort, opened]
  | cons chunk rest ih =>
      rw [List.length_cons] at number_lt
      have next_lt : number.toNat + 1 < 2 ^ 32 := by omega
      have next_eq : (number + 1).toNat = number.toNat + 1 := toNat_add_one next_lt
      have nonempty : wireFrom key label (number.toNat + 1) rest last ≠ [] := by
        rw [wireFrom]
        exact List.append_ne_nil_of_right_ne_nil _ (wireChunk_ne_nil 1 last)
      have opened : openFrom key label size (number + 1)
          (wireFrom key label (number.toNat + 1) rest last) = (rest, some last) := by
        rw [← next_eq]
        apply ih
        · intro other isMember
          exact length_eq other (List.mem_cons_of_mem chunk isMember)
        · rw [next_eq]
          omega
      rw [wireFrom_cons,
        openFrom_wireChunk_append (length_eq chunk List.mem_cons_self) next_lt nonempty, opened]
      rfl

/-- A stream cut off after a chunk opens up to the chunk before, unless this one passes for a last chunk. -/
theorem openFrom_wireChunks_concat {chunks : List ByteString} {chunk : ByteString}
    (length_eq : ∀ chunk ∈ chunks, chunk.length = size) (chunk_length_le : chunk.length ≤ size)
    (number_lt : number.toNat + chunks.length < 2 ^ 32)
    (refused : Gcm.decrypt? key
      (label ++ ByteString.bigEndian 4 (number.toNat + chunks.length) ++ [1])
      (wireChunk key label (number.toNat + chunks.length) 0 chunk) = none) :
    openFrom key label size number (wireChunks key label number.toNat (chunks ++ [chunk])) =
      (chunks, none) := by
  induction chunks generalizing number with
  | nil =>
      have isShort : (wireChunk key label number.toNat 0 chunk).length ≤ size + Gcm.tagSize := by
        rw [length_wireChunk]
        omega
      have refusedHere :
          openedChunk? key label number true (wireChunk key label number.toNat 0 chunk) = none := by
        rw [openedChunk?, chunkNonce_eq]
        exact refused
      rw [List.nil_append, wireChunks, wireChunks, List.append_nil, openFrom_of_short isShort,
        refusedHere]
  | cons first rest ih =>
      rw [List.length_cons] at number_lt refused
      have next_lt : number.toNat + 1 < 2 ^ 32 := by omega
      have next_eq : (number + 1).toNat = number.toNat + 1 := toNat_add_one next_lt
      have nonempty : wireChunks key label (number.toNat + 1) (rest ++ [chunk]) ≠ [] := by
        cases rest with
        | nil => exact List.append_ne_nil_of_left_ne_nil (wireChunk_ne_nil 0 chunk) _
        | cons second later => exact List.append_ne_nil_of_left_ne_nil (wireChunk_ne_nil 0 second) _
      have opened : openFrom key label size (number + 1)
          (wireChunks key label (number.toNat + 1) (rest ++ [chunk])) = (rest, none) := by
        rw [← next_eq]
        apply ih
        · intro other isMember
          exact length_eq other (List.mem_cons_of_mem first isMember)
        · rw [next_eq]
          omega
        · rw [next_eq, Nat.add_assoc, Nat.add_comm 1]
          exact refused
      have first_length : first.length = size := length_eq first List.mem_cons_self
      rw [List.cons_append, wireChunks, openFrom_wireChunk_append first_length next_lt nonempty,
        opened]
      rfl

theorem eq_wireFrom_of_openFrom {sealed last : ByteString} {chunks : List ByteString}
    (opened : openFrom key label size number sealed = (chunks, some last)) :
    sealed = wireFrom key label number.toNat chunks last ∧
      (∀ chunk ∈ chunks, chunk.length = size) ∧ last.length ≤ size ∧
      number.toNat + chunks.length < 2 ^ 32 := by
  fun_induction openFrom key label size number sealed generalizing chunks with
  | case1 number sealed isShort =>
      rcases Prod.mk.inj opened with ⟨rfl, lastOpened⟩
      rw [openedChunk?_eq_some_iff] at lastOpened
      have length_le : last.length + Gcm.tagSize ≤ size + Gcm.tagSize := by
        rw [lastOpened, length_wireChunk] at isShort
        exact isShort
      refine ⟨lastOpened, ?_, Nat.le_of_add_le_add_right length_le, number.toNat_lt⟩
      intro chunk impossible
      cases impossible
  | case2 => cases opened
  | case3 => cases opened
  | case4 number sealed isLong notLast chunk chunkOpened ih =>
      generalize laterOpened : openFrom key label size (number + 1)
        (sealed.drop (size + Gcm.tagSize)) = later at opened ih
      rcases later with ⟨later, laterLast⟩
      rcases Prod.mk.inj opened with ⟨rfl, rfl⟩
      rcases ih rfl with ⟨rest_eq, length_eq, last_length_le, number_lt⟩
      have next_lt := number_lt_of_ne notLast
      rw [toNat_add_one next_lt] at rest_eq number_lt
      rw [openedChunk?_eq_some_iff] at chunkOpened
      have chunk_length := length_of_take isLong chunkOpened
      refine ⟨?_, ?_, last_length_le, ?_⟩
      · calc
          sealed = sealed.take (size + Gcm.tagSize) ++ sealed.drop (size + Gcm.tagSize) :=
            (List.take_append_drop _ sealed).symm
          _ = wireFrom key label number.toNat (chunk :: later) last := by
            rw [wireFrom_cons, rest_eq, chunkOpened]
            rfl
      · intro other isMember
        rcases List.mem_cons.mp isMember with rfl | isMember
        · exact chunk_length
        · exact length_eq other isMember
      · rw [List.length_cons]
        omega

/-- The chunks before the last lead the sealed bytes, even if opening fails after them. -/
theorem leads_openFrom (number : UInt32) (sealed : ByteString) :
    Leads key label size number.toNat sealed (openFrom key label size number sealed).1 := by
  fun_induction openFrom key label size number sealed with
  | case1 => exact .nil
  | case2 => exact .nil
  | case3 => exact .nil
  | case4 number sealed isLong notLast chunk chunkOpened ih =>
      have next_lt := number_lt_of_ne notLast
      rw [openedChunk?_eq_some_iff] at chunkOpened
      rw [toNat_add_one next_lt] at ih
      have nonempty : sealed.drop (size + Gcm.tagSize) ≠ [] := by
        rw [Ne, List.drop_eq_nil_iff]
        exact isLong
      have leads := Leads.cons (length_of_take isLong chunkOpened) next_lt nonempty ih
      rw [if_neg Bool.false_ne_true] at chunkOpened
      rw [← chunkOpened, List.take_append_drop] at leads
      exact leads

theorem Leads.length_lt {start : Nat} {sealed : ByteString} {chunks : List ByteString}
    (leads : Leads key label size start sealed chunks) (start_lt : start < 2 ^ 32) :
    start + chunks.length < 2 ^ 32 := by
  induction leads with
  | nil => exact start_lt
  | cons _ number_lt _ _ ih =>
      have rest_lt := ih number_lt
      rw [List.length_cons]
      omega

theorem Leads.eq_nil {start : Nat} {sealed : ByteString} {chunks : List ByteString}
    (leads : Leads key label size start sealed chunks) (sealed_eq : sealed = []) : chunks = [] := by
  cases leads with
  | nil => rfl
  | cons _ _ nonempty =>
      rw [List.append_eq_nil_iff] at sealed_eq
      exact absurd sealed_eq.2 nonempty

theorem Leads.isPrefix {start : Nat} {sealed : ByteString} {chunks : List ByteString}
    (leads : Leads key label size start sealed chunks) (start_eq : start = number.toNat) :
    chunks <+: (openFrom key label size number sealed).1 := by
  induction leads generalizing number with
  | nil => exact List.nil_prefix
  | cons length_eq number_lt nonempty leads ih =>
      subst start_eq
      rw [openFrom_wireChunk_append length_eq number_lt nonempty, Prod.map_fst,
        List.cons_prefix_cons]
      exact ⟨rfl, ih (toNat_add_one number_lt).symm⟩

end

variable {key : ByteString} {size : Nat} {sealed payload : ByteString}

/-- What follows the label of a stream is opened from the first number on. -/
theorem openStream_append {label : ByteString} (label_length : label.length = labelSize)
    (sealed : ByteString) :
    openStream key size (label ++ sealed) = openFrom key label size 0 sealed := by
  have notShort : ¬(label ++ sealed).length < labelSize := by
    rw [List.length_append]
    omega
  rw [openStream, if_neg notShort, List.take_left' label_length, List.drop_left' label_length]

theorem isStreamOf_iff :
    IsStreamOf key size payload sealed ↔
      ∃ chunks last, openStream key size sealed = (chunks, some last) ∧
        payload = chunks.flatten ++ last := by
  constructor
  · rintro ⟨label, chunks, last, label_length, count_le, length_eq, last_length_le, rfl, rfl⟩
    have number_lt : (0 : UInt32).toNat + chunks.length < 2 ^ 32 := by
      rw [UInt32.toNat_zero]
      omega
    refine ⟨chunks, last, ?_, rfl⟩
    rw [wire, openStream_append label_length]
    exact openFrom_wireFrom length_eq last_length_le number_lt
  · rintro ⟨chunks, last, opened, rfl⟩
    rw [openStream] at opened
    split at opened
    · cases opened
    · rename_i notShort
      rcases eq_wireFrom_of_openFrom opened with ⟨body_eq, length_eq, last_length_le, number_lt⟩
      rw [UInt32.toNat_zero, Nat.zero_add] at number_lt
      refine ⟨sealed.take labelSize, chunks, last, ?_, Nat.le_pred_of_lt number_lt, length_eq,
        last_length_le, rfl, ?_⟩
      · exact List.length_take_of_le (Nat.le_of_not_lt notShort)
      · calc
          sealed = sealed.take labelSize ++ sealed.drop labelSize :=
            (List.take_append_drop labelSize sealed).symm
          _ = wire key (sealed.take labelSize) chunks last := by
            rw [wire, body_eq]
            rfl

/-- Opening gets as far as chunks lead the stream. -/
theorem isLeading_openStream (key : ByteString) (size : Nat) (sealed : ByteString) :
    IsLeading key size sealed (openStream key size sealed).1 := by
  rw [openStream]
  split
  · rename_i isShort
    have body_eq : sealed.drop labelSize = [] := List.drop_eq_nil_of_le (Nat.le_of_lt isShort)
    refine ⟨.nil, ?_⟩
    intro other leads
    rw [body_eq] at leads
    have other_eq := leads.eq_nil rfl
    subst other_eq
    exact List.nil_prefix
  · constructor
    · exact leads_openFrom 0 _
    · intro other leads
      exact leads.isPrefix rfl

/-- There are fewer chunks before the last than numbers. -/
theorem length_openStream_lt (key : ByteString) (size : Nat) (sealed : ByteString) :
    (openStream key size sealed).1.length < 2 ^ 32 := by
  have length_lt := (isLeading_openStream key size sealed).1.length_lt (Nat.two_pow_pos 32)
  rwa [Nat.zero_add] at length_lt

end SealedStream

end KeyCustody
