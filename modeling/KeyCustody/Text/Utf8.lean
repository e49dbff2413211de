import KeyCustody.ByteString

/-!
# Bytes that are no UTF-8

Where bytes stop being UTF-8, and text read from bytes all the same. A character is taken as far as its
bytes go together: the first byte that cannot continue it ends it, so that a faulty character never
swallows the start of the next one.
-/

namespace KeyCustody.Text

/-- The range of continuation bytes, ends included. -/
def continuation : UInt8 × UInt8 := (0x80, 0xBF)

/-- The ranges of the bytes that follow the first byte of a character, if it can be one. -/
def followingRanges? (lead : UInt8) : Option (List (UInt8 × UInt8)) :=
  if lead < 0x80 then some []
  else if lead < 0xC2 then none
  else if lead < 0xE0 then some [continuation]
  else if lead = 0xE0 then some [(0xA0, 0xBF), continuation]
  else if lead = 0xED then some [(0x80, 0x9F), continuation]
  else if lead < 0xF0 then some [continuation, continuation]
  else if lead = 0xF0 then some [(0x90, 0xBF), continuation, continuation]
  else if lead < 0xF4 then some [continuation, continuation, continuation]
  else if lead = 0xF4 then some [(0x80, 0x8F), continuation, continuation]
  else none

/-- How many bytes at the start of a byte string lie in the ranges given for them. -/
def matching : List (UInt8 × UInt8) → ByteString → Nat
  | range :: ranges, byte :: rest =>
    if range.1 ≤ byte ∧ byte ≤ range.2 then matching ranges rest + 1 else 0
  | _, _ => 0

/-- What stands at the start of a byte string. -/
inductive Utf8Front where
  /-- A character after whose first byte this many bytes follow. -/
  | character (following : Nat)
  /-- A faulty character after whose first byte this many bytes follow. -/
  | faulty (following : Nat)
  /-- The start of a character whose other bytes are missing. -/
  | unfinished
deriving DecidableEq, Repr

/-- What a first byte and the bytes after it start with. -/
def utf8Front (lead : UInt8) (rest : ByteString) : Utf8Front :=
  match followingRanges? lead with
  | none => .faulty 0
  | some ranges =>
    let count := matching ranges rest
    if count = ranges.length then .character count
    else if count = rest.length then .unfinished
    else .faulty count

/-- Where and how bytes stop being UTF-8. -/
structure Utf8Fault where
  /-- The number of bytes before the fault. -/
  position : Nat
  /-- The number of bytes of the faulty character; none if the bytes end inside it. -/
  size : Option Nat
deriving DecidableEq, Repr

/-- The wording of the fault. -/
def Utf8Fault.message (fault : Utf8Fault) : String :=
  match fault.size with
  | some size => s!"invalid utf-8 sequence of {size} bytes from index {fault.position}"
  | none => s!"incomplete utf-8 byte sequence from index {fault.position}"

/-- The first place where bytes are no UTF-8, counted from a position. -/
def utf8FaultFrom? (position : Nat) : ByteString → Option Utf8Fault
  | [] => none
  | lead :: rest =>
    match utf8Front lead rest with
    | .character following => utf8FaultFrom? (position + following + 1) (rest.drop following)
    | .faulty following => some ⟨position, some (following + 1)⟩
    | .unfinished => some ⟨position, none⟩
  termination_by bytes => bytes.length
  decreasing_by simp only [List.length_drop, List.length_cons]; omega

/-- The text whose UTF-8 bytes are given, or where they stop being UTF-8. -/
def ofUtf8 (bytes : ByteString) : Except Utf8Fault String :=
  match String.fromUTF8? ⟨bytes.toArray⟩ with
  | some text => .ok text
  | none => .error ((utf8FaultFrom? 0 bytes).getD ⟨bytes.length, none⟩)

/-- The bytes with the replacement character in the place of everything that is no UTF-8. -/
def repairUtf8 : ByteString → ByteString
  | [] => []
  | lead :: rest =>
    match utf8Front lead rest with
    | .character following =>
      lead :: rest.take following ++ repairUtf8 (rest.drop following)
    | .faulty following => [0xEF, 0xBF, 0xBD] ++ repairUtf8 (rest.drop following)
    | .unfinished => [0xEF, 0xBF, 0xBD]
  termination_by bytes => bytes.length
  decreasing_by all_goals simp only [List.length_drop, List.length_cons]; omega

/-- The text read from bytes, whatever they are. -/
def ofUtf8Repaired (bytes : ByteString) : String :=
  (String.fromUTF8? ⟨(repairUtf8 bytes).toArray⟩).getD ""

end KeyCustody.Text
