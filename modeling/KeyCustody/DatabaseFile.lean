import KeyCustody.DigestTable

/-!
# Database files

The bytes of a database file. The first byte never starts a text, so that a database is not mistaken for
one, and the second tells which table follows.
-/

namespace KeyCustody

namespace DatabaseFile

/-- The byte that every database file starts with. -/
def mark : UInt8 := 0xDB

/-- The number of whole numbers of 64 bits. -/
def integerCount : Int := 0x10000000000000000

/-- The bytes of a whole number of 64 bits, most significant first. -/
def ofInteger (value : Int) : ByteString :=
  ByteString.bigEndian 8 (value % integerCount).toNat

/-- The whole number of 64 bits of the given bytes. -/
def toInteger (bytes : ByteString) : Int :=
  let value : Int := ByteString.toNat bytes
  if 2 * value < integerCount then value else value - integerCount

/-- The bytes of a row. -/
def ofRow (row : DigestRow) : ByteString :=
  ofInteger row.total ++ ofInteger row.threshold ++ row.digest

/-- The row of the given bytes, if there are any. -/
def row? (bytes : ByteString) : Option DigestRow :=
  if bytes.length < 16 then none
  else some ⟨bytes.drop 16, toInteger (bytes.take 8), toInteger ((bytes.drop 8).take 8)⟩

/-- The bytes of a database with its digest table, if that has been created. -/
def encode : Option DigestTable → ByteString
  | none => [mark, 0]
  | some table =>
    [mark, if table.isConditional then 2 else 1] ++ (table.row.map ofRow).getD []

/-- The digest table of a database file; none if the bytes are no database. -/
def decode? : ByteString → Option (Option DigestTable)
  | first :: kind :: rest =>
    if first ≠ mark then none
    else if kind = 0 then some none
    else if kind = 1 then some (some ⟨false, row? rest⟩)
    else if kind = 2 then some (some ⟨true, row? rest⟩)
    else none
  | _ => none

end DatabaseFile

end KeyCustody
