import KeyCustody.ByteString

/-!
# Supplies of random bytes

Everything that is drawn at random is drawn from a supply, one byte after the other, and the supply
that is left is handed back. A law stated for every supply thus holds for every sequence of random
bytes.
-/

namespace KeyCustody

/-- A supply of random bytes: a state that yields the next byte and the state after it. -/
class ByteSupply (Supply : Type) where
  next : Supply → UInt8 × Supply

namespace ByteSupply

variable {Supply : Type} [ByteSupply Supply]

/-- The next `count` bytes in the order drawn, and the supply that is left. -/
def draw : Nat → Supply → ByteString × Supply
  | 0, supply => ([], supply)
  | count + 1, supply =>
    let (byte, afterByte) := next supply
    let (bytes, afterBytes) := draw count afterByte
    (byte :: bytes, afterBytes)

@[simp]
theorem length_draw (count : Nat) (supply : Supply) : (draw count supply).1.length = count := by
  induction count generalizing supply with
  | zero => rfl
  | succ count ih => simp [draw, ih]

end ByteSupply

/-- A finite tape of random bytes, which yields zeros once it has run out. -/
structure ByteTape where
  bytes : ByteString

instance : ByteSupply ByteTape where
  next tape :=
    match tape.bytes with
    | [] => (0, tape)
    | byte :: rest => (byte, ⟨rest⟩)

end KeyCustody
